import Sora.Db.SequenceTrigger

/-
Module: Sora.Db.Transaction
Purpose: A PostgreSQL transaction as the functions of `db/append.go` drive it through `pgx.Tx`,
  and the statements they send other than those on `messages`.
Trusted boundary: PostgreSQL's transaction semantics. Statements run in order against the
  transaction's state; the first failing one aborts the transaction, after which every statement
  fails with SQLSTATE 25P02; `COMMIT` of an aborted transaction rolls it back. A `QueryRow` that
  finds no row is not a server error: the statement succeeded and `Scan` reports
  `pgx.ErrNoRows` on the client.
Main exports: Tx, Tx.run, settle, updateHighestUid, updateUidValidity, selectMailboxName,
  drawSequences, insertMessageRows, insertContent, insertPendingUpload
-/

namespace Sora.Db

/-- An open transaction: the state its statements see, and whether one of them failed. -/
structure Tx where
  db : State
  aborted : Bool

/-- `BeginTx` on the current state. -/
def Tx.begin (db : State) : Tx :=
  ⟨db, false⟩

/-- One statement sent through `tx.Exec`, `tx.Query` or `tx.QueryRow`. -/
def Tx.run {α : Type} (tx : Tx) (stmt : State → Except SqlError (α × State)) :
    Except SqlError α × Tx :=
  if tx.aborted then (.error .inFailedSqlTransaction, tx)
  else
    match stmt tx.db with
    | .ok (a, db) => (.ok a, { tx with db := db })
    | .error e => (.error e, { tx with aborted := true })

/-- What a caller does with the transaction it handed to a function of `db/append.go`: commit
when the function returned no error, which PostgreSQL turns into a rollback if a statement
failed, and roll back otherwise. The state afterwards, and whether the transaction committed. -/
def settle {ε α : Type} (db : State) : Except ε α × Tx → State × Bool
  | (.ok _, tx) => if tx.aborted then (db, false) else (tx.db, true)
  | (.error _, _) => (db, false)

/-- A statement after which the transaction is still clean ran on a clean transaction and
succeeded: once aborted, a transaction stays aborted. -/
theorem Tx.run_clean {α : Type} {tx tx' : Tx} {stmt : State → Except SqlError (α × State)}
    {r : Except SqlError α} (h : tx.run stmt = (r, tx')) (clean : tx'.aborted = false) :
    ∃ a, r = .ok a ∧ tx.aborted = false ∧ stmt tx.db = .ok (a, tx'.db) := by
  unfold Tx.run at h
  split at h
  · cases h
    simp_all
  · split at h <;> cases h
    · exact ⟨_, rfl, by simpa using ‹¬tx.aborted = true›, ‹_›⟩
    · cases clean

/-- A statement that succeeded ran on a clean transaction, which it leaves clean. -/
theorem Tx.run_eq_ok {α : Type} {tx tx' : Tx} {stmt : State → Except SqlError (α × State)} {a : α}
    (h : tx.run stmt = (.ok a, tx')) :
    tx.aborted = false ∧ stmt tx.db = .ok (a, tx'.db) ∧ tx'.aborted = false := by
  unfold Tx.run at h
  split at h
  · cases h
  · split at h <;> cases h
    exact ⟨by simpa using ‹¬tx.aborted = true›, ‹_›, by simpa using ‹¬tx.aborted = true›⟩

/-- A statement that failed leaves its transaction aborted. -/
theorem Tx.run_error_aborted {α : Type} {tx tx' : Tx} {stmt : State → Except SqlError (α × State)}
    {e : SqlError} (h : tx.run stmt = (.error e, tx')) : tx'.aborted = true := by
  unfold Tx.run at h
  split at h
  · cases h
    assumption
  · split at h <;> cases h
    rfl

/-- On an aborted transaction every statement fails with SQLSTATE 25P02. -/
theorem Tx.run_of_aborted {α : Type} {tx : Tx} (stmt : State → Except SqlError (α × State))
    (aborted : tx.aborted = true) : tx.run stmt = (.error .inFailedSqlTransaction, tx) := by
  simp [Tx.run, aborted]

/-- A call that committed returned no error and left its transaction clean. -/
theorem settle_eq_commit {ε α : Type} {db db' : State} {r : Except ε α × Tx}
    (h : settle db r = (db', true)) : ∃ a tx, r = (.ok a, tx) ∧ tx.aborted = false ∧ tx.db = db' := by
  obtain ⟨_ | a, tx⟩ := r
  · cases h
  · cases aborted : tx.aborted <;> simp [settle, aborted] at h
    exact ⟨a, tx, rfl, aborted, h⟩

/-- A call that did not commit left the state as it was. -/
theorem settle_rollback {ε α : Type} {db : State} {r : Except ε α × Tx}
    (h : (settle db r).2 = false) : (settle db r).1 = db := by
  obtain ⟨_ | a, tx⟩ := r
  · rfl
  · cases aborted : tx.aborted <;> simp_all [settle]

/-! ### Statements on `mailboxes` -/

/-- `UPDATE mailboxes SET highest_uid = <new> WHERE id = $1 RETURNING highest_uid` through
`QueryRow`: every row with that id is rewritten by `new`, which is `none` where the `BIGINT`
arithmetic overflows and fails the statement; the value returned is that of the first row. -/
def updateHighestUid (mailboxId : Int) (new : Int → Option Int) (db : State) :
    Except SqlError (Option Int × State) :=
  if db.mailboxes.any fun m => m.id == mailboxId && (new m.highestUid).isNone then
    .error .numericValueOutOfRange
  else
    let db' := { db with mailboxes := db.mailboxes.map fun m =>
      if m.id = mailboxId then { m with highestUid := (new m.highestUid).getD m.highestUid }
      else m }
    .ok ((db'.mailbox? mailboxId).map (·.highestUid), db')

/-- `UPDATE mailboxes SET uid_validity = $2 WHERE id = $1`. -/
def updateUidValidity (mailboxId validity : Int) (db : State) : Except SqlError (Unit × State) :=
  .ok ((), { db with mailboxes := db.mailboxes.map fun m =>
    if m.id = mailboxId then { m with uidValidity := validity } else m })

/-- `SELECT name FROM mailboxes WHERE id = $1` through `QueryRow`. -/
def selectMailboxName (mailboxId : Int) (db : State) : Except SqlError (Option String × State) :=
  .ok ((db.mailbox? mailboxId).map (·.name), db)

/-! ### Inserts -/

/-- The rows as `INSERT INTO messages` stores them: `id` (the column default) and
`created_modseq` (`nextval('messages_modseq')`) drawn from the two sequences in row order. -/
def drawSequences (db : State) (rows : List MessageRow) : List MessageRow :=
  rows.enum.map fun (i, row) =>
    { row with id := db.messageIdSeq + 1 + i, createdModseq := db.modseqSeq + 1 + i }

theorem mem_drawSequences {db : State} {rows : List MessageRow} {r : MessageRow}
    (member : r ∈ drawSequences db rows) :
    ∃ row ∈ rows, ∃ i m, r = { row with id := i, createdModseq := m } := by
  obtain ⟨⟨i, row⟩, enum, rfl⟩ := List.mem_map.mp member
  exact ⟨row, List.snd_mem_of_mem_enum enum, _, _, rfl⟩

/-- Drawing the sequences changes no column but `id` and `created_modseq`. -/
theorem drawSequences_map {β : Type} (f : MessageRow → β)
    (keeps : ∀ row i m, f { row with id := i, createdModseq := m } = f row)
    (db : State) (rows : List MessageRow) : (drawSequences db rows).map f = rows.map f := by
  conv_rhs => rw [← List.enum_map_snd rows, List.map_map]
  simp only [drawSequences, List.map_map]
  congr 1
  funext ⟨i, row⟩
  exact keeps row _ _

/-- `INSERT INTO messages` of `rows`, followed by the statement's trigger. Returns the ids, as
`RETURNING id` does. -/
def insertMessageRows (rows : List MessageRow) (db : State) :
    Except SqlError (List Int × State) :=
  let drawn := { db with
    messageIdSeq := db.messageIdSeq + rows.length
    modseqSeq := db.modseqSeq + rows.length }
  match execMessages drawn (.insert (drawSequences db rows)) with
  | .ok db' => .ok ((drawSequences db rows).map (·.id), db')
  | .error e => .error e

/-- `INSERT INTO message_contents ... ON CONFLICT (content_hash) DO NOTHING`. -/
def insertContent (row : ContentRow) (db : State) : Except SqlError (Unit × State) :=
  if db.messageContents.any (·.contentHash == row.contentHash) then .ok ((), db)
  else .ok ((), { db with messageContents := db.messageContents ++ [row] })

/-- `INSERT INTO pending_uploads ... ON CONFLICT (content_hash, account_id) DO NOTHING`. -/
def insertPendingUpload (row : PendingUploadRow) (db : State) : Except SqlError (Unit × State) :=
  if db.pendingUploads.any fun p => p.contentHash == row.contentHash && p.accountId == row.accountId
  then .ok ((), db)
  else .ok ((), { db with pendingUploads := db.pendingUploads ++ [row] })

/-! ### Spec lemmas -/

/-- Rewriting some mailboxes without changing ids commutes with the lookup by id. -/
theorem mailbox?_map {db : State} (g : MailboxRow → MailboxRow) (keeps : ∀ m, (g m).id = m.id)
    (mailboxId : Int) :
    ({ db with mailboxes := db.mailboxes.map g } : State).mailbox? mailboxId =
      (db.mailbox? mailboxId).map g := by
  simp only [State.mailbox?, List.find?_map]
  congr 2
  funext m
  simp [keeps m]

theorem mailbox?_some {db : State} {mailboxId : Int} {m : MailboxRow}
    (found : db.mailbox? mailboxId = some m) : m.id = mailboxId ∧ m ∈ db.mailboxes :=
  ⟨by simpa using List.find?_some found, List.mem_of_find?_eq_some found⟩

/-- What a successful `UPDATE mailboxes SET highest_uid` did: `new` moved the mailbox's value,
and no other mailbox's. -/
theorem updateHighestUid_eq_ok {mailboxId : Int} {new : Int → Option Int} {db db' : State}
    {returned : Option Int} (h : updateHighestUid mailboxId new db = .ok (returned, db')) :
    (∀ other, other ≠ mailboxId → db'.highestUid? other = db.highestUid? other) ∧
      db'.highestUid? mailboxId = (db.highestUid? mailboxId).bind new ∧
      returned = db'.highestUid? mailboxId ∧
      db'.messages = db.messages ∧ db'.pendingUploads = db.pendingUploads ∧
      db'.messageContents = db.messageContents := by
  unfold updateHighestUid at h
  split at h
  · cases h
  rename_i fits
  obtain ⟨rfl, rfl⟩ := Prod.mk.inj (Except.ok.inj h)
  have keeps : ∀ m : MailboxRow, ((fun m : MailboxRow => if m.id = mailboxId then
      { m with highestUid := (new m.highestUid).getD m.highestUid } else m) m).id = m.id :=
    fun m => by dsimp only; split <;> rfl
  refine ⟨fun other differs => ?_, ?_, rfl, rfl, rfl, rfl⟩ <;>
    simp only [State.highestUid?, mailbox?_map _ keeps, Option.map_map]
  · cases found : db.mailbox? other with
    | none => rfl
    | some m => simp [(mailbox?_some found).1, differs]
  · cases found : db.mailbox? mailboxId with
    | none => rfl
    | some m =>
      obtain ⟨same, member⟩ := mailbox?_some found
      cases value : new m.highestUid with
      | none => exact absurd (List.any_eq_true.mpr ⟨m, member, by simp [same, value]⟩) fits
      | some h => simp [same, value]

/-- An `UPDATE ... RETURNING highest_uid` that returned `v` found the mailbox, and `new` took
its old value to `v`. -/
theorem updateHighestUid_eq_some {mailboxId v : Int} {new : Int → Option Int} {db db' : State}
    (h : updateHighestUid mailboxId new db = .ok (some v, db')) :
    ∃ old, db.highestUid? mailboxId = some old ∧ new old = some v ∧
      db'.highestUid? mailboxId = some v := by
  obtain ⟨-, moved, returned, -⟩ := updateHighestUid_eq_ok h
  rw [← returned] at moved
  cases found : db.highestUid? mailboxId with
  | none => simp [found] at moved
  | some old => exact ⟨old, rfl, by simpa [found] using moved.symm, returned.symm⟩

theorem updateUidValidity_frame {mailboxId validity : Int} {db db' : State}
    (h : updateUidValidity mailboxId validity db = .ok ((), db')) :
    (∀ other, db'.highestUid? other = db.highestUid? other) ∧
      db'.messages = db.messages ∧ db'.pendingUploads = db.pendingUploads ∧
      db'.messageContents = db.messageContents := by
  obtain rfl := (Prod.mk.inj (Except.ok.inj h)).2
  refine ⟨fun other => ?_, rfl, rfl, rfl⟩
  simp only [State.highestUid?]
  rw [mailbox?_map _ fun m => by split <;> rfl, Option.map_map]
  congr 1
  funext m
  simp only [Function.comp_apply]
  split <;> rfl

/-- What a successful `INSERT INTO messages` did: the rows, with their drawn `id` and
`created_modseq`, follow the old ones. -/
theorem insertMessageRows_eq_ok {rows : List MessageRow} {db db' : State} {ids : List Int}
    (h : insertMessageRows rows db = .ok (ids, db')) :
    db'.messages = db.messages ++ drawSequences db rows ∧
      db'.mailboxes = db.mailboxes ∧ db'.messageContents = db.messageContents ∧
      db'.pendingUploads = db.pendingUploads ∧ db'.sieveScripts = db.sieveScripts := by
  simp only [insertMessageRows] at h
  split at h
  · rename_i db₁ executed
    obtain ⟨-, rfl⟩ := Prod.mk.inj (Except.ok.inj h)
    exact execMessages_frame executed
  · cases h

theorem insertContent_frame {row : ContentRow} {db db' : State}
    (h : insertContent row db = .ok ((), db')) :
    db'.messages = db.messages ∧ db'.mailboxes = db.mailboxes ∧
      db'.pendingUploads = db.pendingUploads := by
  unfold insertContent at h
  split at h <;> obtain rfl := (Prod.mk.inj (Except.ok.inj h)).2 <;> exact ⟨rfl, rfl, rfl⟩

/-- After `INSERT ... ON CONFLICT (content_hash, account_id) DO NOTHING` a row with that key is
queued, and every row queued before still is. -/
theorem insertPendingUpload_eq_ok {row : PendingUploadRow} {db db' : State}
    (h : insertPendingUpload row db = .ok ((), db')) :
    db'.messages = db.messages ∧ db'.mailboxes = db.mailboxes ∧
      db.pendingUploads ⊆ db'.pendingUploads ∧
      ∃ p ∈ db'.pendingUploads, p.contentHash = row.contentHash ∧ p.accountId = row.accountId := by
  unfold insertPendingUpload at h
  split at h
  · rename_i queued
    obtain rfl := (Prod.mk.inj (Except.ok.inj h)).2
    obtain ⟨p, member, same⟩ := List.any_eq_true.mp queued
    simp only [Bool.and_eq_true, beq_iff_eq] at same
    exact ⟨rfl, rfl, List.Subset.refl _, p, member, same⟩
  · obtain rfl := (Prod.mk.inj (Except.ok.inj h)).2
    exact ⟨rfl, rfl, List.subset_append_left _ _, row, by simp, rfl, rfl⟩

end Sora.Db

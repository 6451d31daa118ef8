import Sora.Db.Schema

/-
Module: Sora.Db.SequenceTrigger
Purpose: Statements on `messages` together with the statement-level trigger
  `maintain_message_sequences` of migration 000002, which rebuilds `message_sequences` for every
  mailbox in the statement's transition tables, and the migration's bootstrap `INSERT`.
Trusted boundary: PostgreSQL's meaning of a statement with its `AFTER ... FOR EACH STATEMENT`
  trigger: both succeed or fail together, and a failed statement changes nothing.
Main exports: MessagesStatement, liveUids, sequenceRowsFor, insertSequenceRows, rebuildMailbox,
  maintainMessageSequences, execMessages, runMessages, bootstrapSequences
-/

namespace Sora.Db

/-! ### What the trigger computes for one mailbox -/

/-- The uids of the live rows of mailbox `mailboxId`, in table order. -/
def liveUids (messages : List MessageRow) (mailboxId : Int) : List Int :=
  (messages.filter (MessageRow.liveIn mailboxId)).map MessageRow.uid

/-- `ROW_NUMBER()` over an ordered uid list, numbering from `first`. -/
def numberRows (mailboxId : Int) : Int → List Int → List SequenceRow
  | _, [] => []
  | first, uid :: uids => ⟨mailboxId, uid, first⟩ :: numberRows mailboxId (first + 1) uids

/-- The rows of `SELECT m.mailbox_id, m.uid, ROW_NUMBER() OVER (ORDER BY m.uid) FROM messages m
WHERE m.mailbox_id = v AND m.expunged_at IS NULL`. -/
def sequenceRowsFor (messages : List MessageRow) (mailboxId : Int) : List SequenceRow :=
  numberRows mailboxId 1 ((liveUids messages mailboxId).insertionSort (· ≤ ·))

/-- No key of `fresh` repeats, and none is already taken in `existing`. -/
def keysFresh {κ : Type} [DecidableEq κ] (key : SequenceRow → κ)
    (existing fresh : List SequenceRow) : Bool :=
  decide ((fresh.map key).Nodup ∧ ∀ r ∈ fresh, key r ∉ existing.map key)

/-- `INSERT INTO message_sequences` of `fresh`, with PostgreSQL's checks in the order it meets
them: the `INT` range of `seqnum` while the `SELECT` is evaluated, the primary key
`(mailbox_id, uid)` and `UNIQUE (mailbox_id, seqnum)` row by row, the foreign key to
`mailboxes` at the end of the statement. -/
def insertSequenceRows (db : State) (fresh : List SequenceRow) : Except SqlError State :=
  if fresh.any (fun r => intMax < r.seqnum) then .error .numericValueOutOfRange
  else if !keysFresh (fun r => (r.mailboxId, r.uid)) db.messageSequences fresh then
    .error (.uniqueViolation "message_sequences_pkey")
  else if !keysFresh (fun r => (r.mailboxId, r.seqnum)) db.messageSequences fresh then
    .error (.uniqueViolation "message_sequences_mailbox_id_seqnum_key")
  else if fresh.any (fun r => (db.mailbox? r.mailboxId).isNone) then
    .error (.foreignKeyViolation "message_sequences_mailbox_id_fkey")
  else .ok { db with messageSequences := db.messageSequences ++ fresh }

/-- One turn of the trigger's loop, for mailbox `v`: `DELETE FROM message_sequences WHERE
mailbox_id = v`, then the `INSERT ... ROW_NUMBER()` of the live rows of `v`. The advisory lock
orders concurrent transactions and does nothing in a serial history. -/
def rebuildMailbox (db : State) (v : Int) : Except SqlError State :=
  insertSequenceRows { db with messageSequences := db.messageSequences.filter (·.mailboxId != v) }
    (sequenceRowsFor db.messages v)

/-- The trigger's loop over the affected mailboxes; a failing turn fails the statement. -/
def maintainMessageSequences : List Int → State → Except SqlError State
  | [], db => .ok db
  | v :: vs, db =>
      match rebuildMailbox db v with
      | .ok db => maintainMessageSequences vs db
      | .error e => .error e

/-! ### Statements on `messages` -/

/-- A statement on `messages` of one of the three kinds the triggers are declared for. An
`UPDATE` rewrites the rows its `WHERE` clause selects; its `SET` list may move them to another
mailbox or change their uid or `expunged_at`. -/
inductive MessagesStatement where
  | insert (rows : List MessageRow)
  | update (selected : MessageRow → Bool) (set : MessageRow → MessageRow)
  | delete (selected : MessageRow → Bool)

namespace MessagesStatement

/-- The table after the statement. -/
def apply : MessagesStatement → List MessageRow → List MessageRow
  | .insert rows, messages => messages ++ rows
  | .update selected set, messages => messages.map fun m => if selected m then set m else m
  | .delete selected, messages => messages.filter fun m => !selected m

/-- The transition table `new_table`. -/
def newTable : MessagesStatement → List MessageRow → List MessageRow
  | .insert rows, _ => rows
  | .update selected set, messages => (messages.filter selected).map set
  | .delete _, _ => []

/-- The transition table `old_table`. -/
def oldTable : MessagesStatement → List MessageRow → List MessageRow
  | .insert _, _ => []
  | .update selected _, messages => messages.filter selected
  | .delete selected, messages => messages.filter selected

/-- `SELECT DISTINCT mailbox_id FROM ... WHERE mailbox_id IS NOT NULL` over a transition table. -/
def distinctMailboxes (rows : List MessageRow) : List Int :=
  (rows.filterMap MessageRow.mailboxId).dedup

/-- `affected_mailboxes_query`, chosen by `TG_OP`. -/
def affectedMailboxes (stmt : MessagesStatement) (messages : List MessageRow) : List Int :=
  match stmt with
  | .insert _ => distinctMailboxes (stmt.newTable messages)
  | .delete _ => distinctMailboxes (stmt.oldTable messages)
  | .update _ _ => distinctMailboxes (stmt.newTable messages ++ stmt.oldTable messages)

end MessagesStatement

/-- Modelled from the spec: `messages_message_id_mailbox_id_key`, under which a `message_id` is
unique among the live rows of a mailbox. PostgreSQL checks it for every row the statement
wrote. -/
def messageIdClash (messages written : List MessageRow) : Bool :=
  written.any fun r => r.expungedAt.isNone && r.mailboxId.isSome &&
    decide (1 < messages.countP fun m =>
      m.expungedAt.isNone && m.mailboxId == r.mailboxId && m.messageId == r.messageId)

/-- A statement on `messages` followed by its statement-level trigger. The primary key on `id`
and the `message_id` constraint are checked first; the trigger then rebuilds the sequences of
the affected mailboxes. An error leaves the state as it was. -/
def execMessages (db : State) (stmt : MessagesStatement) : Except SqlError State :=
  let messages := stmt.apply db.messages
  if unique : (messages.map MessageRow.id).Nodup then
    if messageIdClash messages (stmt.newTable db.messages) then
      .error (.uniqueViolation "messages_message_id_mailbox_id_key")
    else
      maintainMessageSequences (stmt.affectedMailboxes db.messages)
        { db with messages := messages, messages_id_unique := unique }
  else .error (.uniqueViolation "messages_pkey")

/-- A history of statements, each one autocommitted: a failed statement changes nothing. -/
def runMessages (db : State) : List MessagesStatement → State
  | [] => db
  | stmt :: stmts =>
      match execMessages db stmt with
      | .ok db' => runMessages db' stmts
      | .error _ => runMessages db stmts

/-- The mailboxes that hold a live row, once each. -/
def liveMailboxes (messages : List MessageRow) : List Int :=
  (messages.filterMap fun m => if m.expungedAt.isNone then m.mailboxId else none).dedup

/-- The migration's bootstrap: `INSERT INTO message_sequences SELECT m.mailbox_id, m.uid,
ROW_NUMBER() OVER (PARTITION BY m.mailbox_id ORDER BY m.uid) FROM messages m WHERE
m.expunged_at IS NULL AND m.mailbox_id IS NOT NULL`, into the table `CREATE TABLE` has just
made. -/
def bootstrapSequences (db : State) : Except SqlError State :=
  insertSequenceRows { db with messageSequences := [] }
    ((liveMailboxes db.messages).flatMap (sequenceRowsFor db.messages))

/-! ### Spec lemmas -/

@[simp] theorem runMessages_nil (db : State) : runMessages db [] = db := rfl

theorem runMessages_cons (db : State) (stmt : MessagesStatement)
    (stmts : List MessagesStatement) :
    runMessages db (stmt :: stmts) =
      runMessages ((execMessages db stmt).toOption.getD db) stmts := by
  simp only [runMessages]
  cases execMessages db stmt <;> rfl

@[simp] theorem numberRows_map_mailboxId (v first : Int) (uids : List Int) :
    (numberRows v first uids).map SequenceRow.mailboxId = uids.map fun _ => v := by
  induction uids generalizing first <;> simp [numberRows, *]

@[simp] theorem numberRows_map_uid (v first : Int) (uids : List Int) :
    (numberRows v first uids).map SequenceRow.uid = uids := by
  induction uids generalizing first <;> simp [numberRows, *]

theorem mailboxId_of_mem_numberRows {v first : Int} {uids : List Int} {r : SequenceRow}
    (member : r ∈ numberRows v first uids) : r.mailboxId = v := by
  induction uids generalizing first with
  | nil => cases member
  | cons uid uids ih =>
      rcases List.mem_cons.mp member with rfl | rest
      · rfl
      · exact ih rest

theorem mailboxId_of_mem_sequenceRowsFor {messages : List MessageRow} {v : Int}
    {r : SequenceRow} (member : r ∈ sequenceRowsFor messages v) : r.mailboxId = v :=
  mailboxId_of_mem_numberRows member

/-- What a successful insert into `message_sequences` did, and what it checked. -/
theorem insertSequenceRows_eq_ok {db db' : State} {fresh : List SequenceRow}
    (h : insertSequenceRows db fresh = .ok db') :
    db' = { db with messageSequences := db.messageSequences ++ fresh } ∧
      (fresh.map fun r => (r.mailboxId, r.uid)).Nodup := by
  unfold insertSequenceRows at h
  split at h
  · cases h
  split at h
  · cases h
  rename_i keys
  split at h
  · cases h
  split at h
  · cases h
  simp only [keysFresh, Bool.not_eq_true', decide_eq_false_iff_not, not_not] at keys
  exact ⟨(Except.ok.inj h).symm, keys.1⟩

/-- The `ROW_NUMBER()` rows of `v` have distinct uids exactly when the live uids of `v` do. -/
theorem nodup_liveUids_of_keys {messages : List MessageRow} {v : Int}
    (keys : ((sequenceRowsFor messages v).map fun r => (r.mailboxId, r.uid)).Nodup) :
    (liveUids messages v).Nodup := by
  have keysEq : (sequenceRowsFor messages v).map (fun r => (r.mailboxId, r.uid)) =
      ((sequenceRowsFor messages v).map SequenceRow.uid).map fun u => (v, u) := by
    rw [List.map_map]
    exact List.map_congr_left fun r member => by
      simp [mailboxId_of_mem_sequenceRowsFor member]
  rw [keysEq] at keys
  have sortedNodup := keys.of_map _
  rw [sequenceRowsFor, numberRows_map_uid] at sortedNodup
  exact (List.perm_insertionSort _ _).nodup_iff.mp sortedNodup

/-- The `ROW_NUMBER()` rows depend on the messages only through the live uids. -/
theorem sequenceRowsFor_congr {messages messages' : List MessageRow} {v : Int}
    (same : liveUids messages' v = liveUids messages v) :
    sequenceRowsFor messages' v = sequenceRowsFor messages v := by
  simp only [sequenceRowsFor, same]

/-- The rows of mailbox `w` among the `ROW_NUMBER()` rows of mailbox `v`. -/
theorem filter_sequenceRowsFor (messages : List MessageRow) (v w : Int) :
    (sequenceRowsFor messages v).filter (·.mailboxId == w) =
      if w = v then sequenceRowsFor messages v else [] := by
  split
  · subst w
    exact List.filter_eq_self.mpr fun r member => by
      simp [mailboxId_of_mem_sequenceRowsFor member]
  · rename_i other
    exact List.filter_eq_nil_iff.mpr fun r member => by
      simp [mailboxId_of_mem_sequenceRowsFor member, Ne.symm other]

/-- What one turn of the trigger's loop did: the rows of `v` are replaced by the
`ROW_NUMBER()` rows of its live messages, and those have distinct uids. -/
theorem rebuildMailbox_eq_ok {db db' : State} {v : Int} (h : rebuildMailbox db v = .ok db') :
    db' = { db with messageSequences :=
        db.messageSequences.filter (·.mailboxId != v) ++ sequenceRowsFor db.messages v } ∧
      (liveUids db.messages v).Nodup := by
  obtain ⟨rfl, keys⟩ := insertSequenceRows_eq_ok h
  exact ⟨rfl, nodup_liveUids_of_keys keys⟩

/-- The trigger's loop writes `message_sequences` only. -/
theorem maintainMessageSequences_eq_ok {vs : List Int} {db db' : State}
    (h : maintainMessageSequences vs db = .ok db') :
    ∃ rows, db' = { db with messageSequences := rows } := by
  induction vs generalizing db with
  | nil => exact ⟨db.messageSequences, (Except.ok.inj h).symm⟩
  | cons v vs ih =>
      simp only [maintainMessageSequences] at h
      split at h
      · rename_i db₁ turn
        obtain ⟨rfl, -⟩ := rebuildMailbox_eq_ok turn
        obtain ⟨rows, rfl⟩ := ih h
        exact ⟨rows, rfl⟩
      · cases h

/-- A successful statement on `messages` leaves every other table as it was. -/
theorem execMessages_frame {db db' : State} {stmt : MessagesStatement}
    (h : execMessages db stmt = .ok db') :
    db'.messages = stmt.apply db.messages ∧ db'.mailboxes = db.mailboxes ∧
      db'.messageContents = db.messageContents ∧ db'.pendingUploads = db.pendingUploads ∧
      db'.sieveScripts = db.sieveScripts := by
  simp only [execMessages] at h
  split at h
  · split at h
    · cases h
    · obtain ⟨rows, rfl⟩ := maintainMessageSequences_eq_ok h
      exact ⟨rfl, rfl, rfl, rfl, rfl⟩
  · cases h

end Sora.Db

import Sora.Db.Append

/-
Module: Sora.Proofs.AppendCommit
Purpose: What a committed call of `CopyMessages`, `InsertMessage` or
  `InsertMessageFromImporter` did: one inversion lemma per function, naming the statements it
  sent and the state each left. The history proofs cite these and never unfold the Go code.
Trusted boundary: `Sora.Db.Transaction`.
Main exports: copyMessages_commit, Allocated, allocateUid_clean, insertMessage_ok,
  insertMessage_commit, insertMessageFromImporter_ok, insertMessageFromImporter_commit
-/

namespace Sora.Db

/-! ### `CopyMessages` -/

/-- A copy that committed either found nothing to copy and changed nothing, or raised the
destination's `highest_uid` by the number of sources, read its name, and inserted the copies
under the uids of that range; the map it returned is the loop's. -/
theorem copyMessages_commit {db : State} {tx : Tx} {uids : List UInt32}
    {srcMailboxId destMailboxId userId now : Int} {m : UidMap}
    (h : copyMessages (Tx.begin db) uids srcMailboxId destMailboxId userId now = (.ok m, tx))
    (clean : tx.aborted = false) :
    ∃ rows scanned, srcMailboxId ≠ destMailboxId ∧
      selectCopySources srcMailboxId uids db = .ok (rows, db) ∧
      rows.mapM (fun row => (scanUid row.2).map (row.1, ·)) = some scanned ∧
      ((scanned = [] ∧ m = [] ∧ tx.db = db) ∨
        ∃ newHighest db₁ name ids, scanned ≠ [] ∧
          updateHighestUid destMailboxId (fun h => bigintAdd h scanned.length) db =
            .ok (some newHighest, db₁) ∧
          selectMailboxName destMailboxId db₁ = .ok (some name, db₁) ∧
          let assigned := assignCopyUids (newHighest - scanned.length + 1) (scanned.map (·.2))
          insertCopies destMailboxId name (scanned.map (·.1)) assigned.1 now db₁ =
            .ok (ids, tx.db) ∧
          m = assigned.2) := by
  unfold copyMessages at h
  split at h
  · cases h
  split at h
  · cases h
  rename_i differs _ rows tx₁ selected
  split at h
  · cases h
  rename_i scanned scan
  have reads : ∀ {tx' : Tx}, tx'.aborted = false →
      (Tx.begin db).run (selectCopySources srcMailboxId uids) = (.ok rows, tx') →
      selectCopySources srcMailboxId uids db = .ok (rows, db) ∧ tx'.db = db := by
    intro tx' clean' run
    obtain ⟨_, ⟨⟩, -, select⟩ := Tx.run_clean run clean'
    simp only [selectCopySources, Except.ok.injEq, Prod.mk.injEq] at select
    exact ⟨by rw [← select.1]; rfl, select.2.symm⟩
  split at h
  · cases h
    exact ⟨rows, scanned, differs, (reads clean selected).1, scan,
      .inl ⟨List.isEmpty_iff.mp ‹_›, rfl, (reads clean selected).2⟩⟩
  rename_i nonempty
  dsimp only at h
  split at h
  rotate_left
  · cases h
  rename_i newHighest tx₂ raised
  split at h
  rotate_left
  · cases h
  rename_i name tx₃ named
  split at h
  rotate_left
  · cases h
  rename_i ids _ inserted
  cases h
  obtain ⟨_, ⟨⟩, clean₃, insert⟩ := Tx.run_clean inserted clean
  obtain ⟨_, ⟨⟩, clean₂, read⟩ := Tx.run_clean named clean₃
  obtain ⟨_, ⟨⟩, clean₁, raise⟩ := Tx.run_clean raised clean₂
  obtain ⟨select, rfl⟩ := reads clean₁ selected
  simp only [selectMailboxName, Except.ok.injEq, Prod.mk.injEq] at read
  obtain ⟨found, stays⟩ := read
  rw [← stays] at insert
  exact ⟨rows, scanned, differs, select, scan, .inr ⟨newHighest, tx₂.db, name, ids,
    fun empty => nonempty (by simp [empty]), raise, by simp [selectMailboxName, found], insert,
    rfl⟩⟩

/-- A store whose mailbox 2 has reached `highest_uid = 4294967295`, the largest `uint32`, where
`GREATEST` leaves it after an import with `PreservedUID = 4294967295`; mailbox 1 holds one live
message of uid 1. -/
def copyOverflowState : State where
  mailboxes := [⟨1, 1, "INBOX", 1, 1⟩, ⟨2, 1, "Archive", 4294967295, 1⟩]
  messages := [⟨1, 1, some 1, "INBOX", 1, "<1@INBOX>", "h", 0, [], 0, 10,
    ⟨"", "", 0, "", "", "", "", "", "", "", "", ""⟩, true, 1, none, none⟩]
  messageSequences := [⟨1, 1, 1⟩]
  messageContents := []
  pendingUploads := []
  sieveScripts := []
  messageIdSeq := 1
  modseqSeq := 1
  scriptIdSeq := 0
  messages_id_unique := by decide
  sieveScripts_id_unique := List.nodup_nil

/-- Copying uid 1 into that mailbox commits a row of uid 4294967296 and raises `highest_uid` to
it, but the map it returns sends uid 1 to 0: `imap.UID(newUID)` keeps the low 32 bits. -/
theorem copyMessages_maps_past_last_uid :
    ∃ tx, copyMessages (Tx.begin copyOverflowState) [1] 1 2 1 0 = (.ok [(1, 0)], tx) ∧
      tx.aborted = false ∧ tx.db.highestUid? 2 = some 4294967296 ∧
      (tx.db.messages.filter (·.mailboxId == some 2)).map (·.uid) = [4294967296] :=
  ⟨_, rfl, by decide, by decide, by decide⟩

/-! ### UID allocation -/

/-- What the UID allocation of both inserts did when its transaction stayed clean: it moved the
`highest_uid` of `options.mailboxId` only, to `old + 1` (which is the UID) or to
`GREATEST(old, preserved)` (the preserved UID being the UID), and touched no message. -/
structure Allocated (options : InsertMessageOptions) (db db' : State)
    (highestUid uidToUse : Int) : Prop where
  messages_eq : db'.messages = db.messages
  pendingUploads_eq : db'.pendingUploads = db.pendingUploads
  others : ∀ other, other ≠ options.mailboxId → db'.highestUid? other = db.highestUid? other
  raised : ∃ old, db.highestUid? options.mailboxId = some old ∧
    db'.highestUid? options.mailboxId = some highestUid ∧
    ((options.preservedUid = none ∧ highestUid = old + 1 ∧ uidToUse = highestUid) ∨
      ∃ p : UInt32, options.preservedUid = some p ∧ uidToUse = p.toNat ∧
        highestUid = max old p.toNat)

theorem Allocated.of_update {options : InsertMessageOptions} {new : Int → Option Int}
    {db db' : State} {highestUid uidToUse : Int}
    (h : updateHighestUid options.mailboxId new db = .ok (some highestUid, db'))
    (value : ∀ old, new old = some highestUid →
      (options.preservedUid = none ∧ highestUid = old + 1 ∧ uidToUse = highestUid) ∨
        ∃ p : UInt32, options.preservedUid = some p ∧ uidToUse = p.toNat ∧
          highestUid = max old p.toNat) :
    Allocated options db db' highestUid uidToUse := by
  obtain ⟨others, -, -, messages, pending, -⟩ := updateHighestUid_eq_ok h
  obtain ⟨old, found, moved, now⟩ := updateHighestUid_eq_some h
  exact ⟨messages, pending, others, old, found, now, value old moved⟩

/-- `UPDATE mailboxes SET uid_validity` after the allocation leaves what it established. -/
theorem Allocated.frame {options : InsertMessageOptions} {db db₁ db₂ : State}
    {highestUid uidToUse : Int} (allocated : Allocated options db db₁ highestUid uidToUse)
    (highest : ∀ other, db₂.highestUid? other = db₁.highestUid? other)
    (messages : db₂.messages = db₁.messages) (pending : db₂.pendingUploads = db₁.pendingUploads) :
    Allocated options db db₂ highestUid uidToUse := by
  obtain ⟨messages₁, pending₁, others, old, found, now, value⟩ := allocated
  exact ⟨messages.trans messages₁, pending.trans pending₁,
    fun other differs => (highest other).trans (others other differs), old, found,
    (highest _).trans now, value⟩

theorem allocateUid_clean {tx tx' : Tx} {options : InsertMessageOptions}
    {highestUid uidToUse : Int}
    (h : allocateUid tx options = (.ok (highestUid, uidToUse), tx'))
    (clean : tx'.aborted = false) :
    tx.aborted = false ∧ Allocated options tx.db tx'.db highestUid uidToUse := by
  unfold allocateUid at h
  split at h
  · rename_i p preserved
    dsimp only at h
    split at h
    rotate_left
    · cases h
    rename_i raisedTo tx₁ raised
    have moved : tx₁.aborted = false →
        tx.aborted = false ∧ Allocated options tx.db tx₁.db raisedTo p.toNat := fun clean₁ => by
      obtain ⟨_, ⟨⟩, fresh, raise⟩ := Tx.run_clean raised clean₁
      exact ⟨fresh, .of_update raise fun old value =>
        .inr ⟨p, preserved, rfl, (Option.some.inj value).symm⟩⟩
    split at h
    · split at h
      · cases h
        obtain ⟨_, -, clean₁, validity⟩ := Tx.run_clean ‹_› clean
        obtain ⟨fresh, allocated⟩ := moved clean₁
        obtain ⟨highest, messages, pending, -⟩ := updateUidValidity_frame validity
        exact ⟨fresh, allocated.frame highest messages pending⟩
      · cases h
    · cases h
      exact moved clean
  · rename_i fresh
    split at h
    rotate_left
    · cases h
    cases h
    obtain ⟨_, ⟨⟩, clean₀, raise⟩ := Tx.run_clean ‹_› clean
    exact ⟨clean₀, .of_update raise fun old value =>
      .inl ⟨fresh, bigintAdd_eq_some value, rfl⟩⟩

/-! ### `InsertMessage` and `InsertMessageFromImporter` -/

/-- What an `InsertMessage` that returned `(id, uid)` and left its transaction clean did: it
allocated a UID, inserted its row with `uploaded = false`, its content and its pending upload,
and returned the id the `INSERT` drew with the new `highest_uid`. The recovery after a duplicate
`Message-ID` never leaves the transaction clean: the failed `INSERT` aborted it. -/
theorem insertMessage_ok {tx tx' : Tx} {options : InsertMessageOptions} {upload : PendingUpload}
    {now id uid : Int} (h : insertMessage tx options upload now = (.ok (id, uid), tx'))
    (clean : tx'.aborted = false) :
    ∃ uidToUse db₁ ids db₂ db₃, tx.aborted = false ∧ Allocated options tx.db db₁ uid uidToUse ∧
      insertMessageRows [messageRowOf options (storedMessageId options now)
        (options.internalDate.getD now) uidToUse false] db₁ = .ok (ids, db₂) ∧
      insertContent (contentRowOf options now) db₂ = .ok ((), db₃) ∧
      insertPendingUpload ⟨upload.instanceId, upload.contentHash, upload.size, now,
        upload.accountId⟩ db₃ = .ok ((), tx'.db) ∧ id = ids.headD 0 := by
  unfold insertMessage at h
  dsimp only at h
  split at h
  · cases h
  rename_i highestUid uidToUse tx₁ allocated
  split at h
  · split at h
    · cases h
      obtain ⟨_, -, clean₂, -⟩ := Tx.run_clean ‹_› clean
      obtain ⟨_, ⟨⟩, -⟩ := Tx.run_clean ‹_› clean₂
    · cases h
  · cases h
  rename_i ids tx₂ inserted
  split at h
  · cases h
  rename_i tx₃ contented
  split at h
  · cases h
  cases h
  obtain ⟨_, ⟨⟩, clean₃, queue⟩ := Tx.run_clean ‹_› clean
  obtain ⟨_, ⟨⟩, clean₂, content⟩ := Tx.run_clean contented clean₃
  obtain ⟨_, ⟨⟩, clean₁, insert⟩ := Tx.run_clean inserted clean₂
  obtain ⟨fresh, allocated⟩ := allocateUid_clean allocated clean₁
  exact ⟨uidToUse, tx₁.db, ids, tx₂.db, tx₃.db, fresh, allocated, insert, content, queue, rfl⟩

/-- An `InsertMessage` that committed allocated a UID and inserted its row with
`uploaded = false`, its content and its pending upload. -/
theorem insertMessage_commit {db db' : State} {options : InsertMessageOptions}
    {upload : PendingUpload} {now : Int}
    (h : settle db (insertMessage (Tx.begin db) options upload now) = (db', true)) :
    ∃ highestUid uidToUse db₁ ids db₂ db₃, Allocated options db db₁ highestUid uidToUse ∧
      insertMessageRows [messageRowOf options (storedMessageId options now)
        (options.internalDate.getD now) uidToUse false] db₁ = .ok (ids, db₂) ∧
      insertContent (contentRowOf options now) db₂ = .ok ((), db₃) ∧
      insertPendingUpload ⟨upload.instanceId, upload.contentHash, upload.size, now,
        upload.accountId⟩ db₃ = .ok ((), db') := by
  obtain ⟨⟨_, uid⟩, tx, result, clean, rfl⟩ := settle_eq_commit h
  obtain ⟨uidToUse, db₁, ids, db₂, db₃, -, allocated, insert, content, queue, -⟩ :=
    insertMessage_ok result clean
  exact ⟨uid, uidToUse, db₁, ids, db₂, db₃, allocated, insert, content, queue⟩

/-- What an `InsertMessageFromImporter` that returned `(id, uid)` and left its transaction clean
did: it allocated the UID `uid`, inserted its row with `uploaded = true` and its content, and
returned the id the `INSERT` drew. -/
theorem insertMessageFromImporter_ok {tx tx' : Tx} {options : InsertMessageOptions}
    {now id uid : Int} (h : insertMessageFromImporter tx options now = (.ok (id, uid), tx'))
    (clean : tx'.aborted = false) :
    ∃ highestUid db₁ ids db₂, tx.aborted = false ∧ Allocated options tx.db db₁ highestUid uid ∧
      insertMessageRows [messageRowOf options (storedMessageId options now)
        (options.internalDate.getD now) uid true] db₁ = .ok (ids, db₂) ∧
      insertContent (contentRowOf options now) db₂ = .ok ((), tx'.db) ∧ id = ids.headD 0 := by
  unfold insertMessageFromImporter at h
  dsimp only at h
  split at h
  · cases h
  rename_i highestUid uidToUse tx₁ allocated
  split at h
  · split at h
    · cases h
      obtain ⟨_, -, clean₂, -⟩ := Tx.run_clean ‹_› clean
      obtain ⟨_, ⟨⟩, -⟩ := Tx.run_clean ‹_› clean₂
    · cases h
  · cases h
  rename_i ids tx₂ inserted
  split at h
  · cases h
  cases h
  obtain ⟨_, ⟨⟩, clean₂, content⟩ := Tx.run_clean ‹_› clean
  obtain ⟨_, ⟨⟩, clean₁, insert⟩ := Tx.run_clean inserted clean₂
  obtain ⟨fresh, allocated⟩ := allocateUid_clean allocated clean₁
  exact ⟨highestUid, tx₁.db, ids, tx₂.db, fresh, allocated, insert, content, rfl⟩

/-- An `InsertMessageFromImporter` that committed allocated a UID and inserted its row with
`uploaded = true` and its content. -/
theorem insertMessageFromImporter_commit {db db' : State} {options : InsertMessageOptions}
    {now : Int} (h : settle db (insertMessageFromImporter (Tx.begin db) options now) = (db', true)) :
    ∃ highestUid uidToUse db₁ ids db₂, Allocated options db db₁ highestUid uidToUse ∧
      insertMessageRows [messageRowOf options (storedMessageId options now)
        (options.internalDate.getD now) uidToUse true] db₁ = .ok (ids, db₂) ∧
      insertContent (contentRowOf options now) db₂ = .ok ((), db') := by
  obtain ⟨⟨_, uid⟩, tx, result, clean, rfl⟩ := settle_eq_commit h
  obtain ⟨highestUid, db₁, ids, db₂, -, allocated, insert, content, -⟩ :=
    insertMessageFromImporter_ok result clean
  exact ⟨highestUid, uid, db₁, ids, db₂, allocated, insert, content⟩

end Sora.Db

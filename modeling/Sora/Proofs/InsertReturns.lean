import Sora.Proofs.AppendCommit

/-
Module: Sora.Proofs.InsertReturns
Purpose: What `InsertMessage` and `InsertMessageFromImporter` return. When they commit a new row,
  the importer returns the UID the row carries and `InsertMessage` the mailbox's new
  `highest_uid`; the two differ when a preserved UID lies below the mailbox's `highest_uid`. When
  the mailbox already holds a live row with the same `Message-ID`, the `INSERT` fails and aborts
  the transaction, so the `SELECT` of the recovery fails too: the call returns an error, never the
  row it meant to find.
Trusted boundary: `Sora.Db.Transaction`, `Sora.Db.SequenceTrigger`.
Main exports: State.uidOf, insertMessage_returned_uid, insertMessageFromImporter_returned_uid,
  insertMessageRows_duplicate, appendOptions
-/

namespace Sora.Db

/-! ### The row a committed insert adds -/

/-- `SELECT uid FROM messages WHERE id = $1`. -/
def State.uidOf (db : State) (id : Int) : Option Int :=
  (db.messages.find? (·.id == id)).map (·.uid)

/-- `messages_pkey`: the lookup by id finds the one row with that id. -/
theorem State.uidOf_of_mem {db : State} {r : MessageRow} (member : r ∈ db.messages) :
    db.uidOf r.id = some r.uid := by
  unfold State.uidOf
  cases found : db.messages.find? (·.id == r.id) with
  | none => simp only [List.find?_eq_none, beq_iff_eq] at found; exact absurd rfl (found r member)
  | some r' =>
    have same : r' = r := List.inj_on_of_nodup_map db.messages_id_unique
      (List.mem_of_find?_eq_some found) member (by simpa using List.find?_some found)
    simp [same]

/-- An `INSERT` of one row returns the id it drew, under which the table then holds the row. -/
theorem insertMessageRows_single {db db' : State} {row : MessageRow} {ids : List Int}
    (h : insertMessageRows [row] db = .ok (ids, db')) : db'.uidOf (ids.headD 0) = some row.uid := by
  obtain ⟨messages, -⟩ := insertMessageRows_eq_ok h
  have returned : ids = (drawSequences db [row]).map (·.id) := by
    simp only [insertMessageRows] at h
    split at h
    · exact (Prod.mk.inj (Except.ok.inj h)).1.symm
    · cases h
  have member : { row with id := db.messageIdSeq + 1, createdModseq := db.modseqSeq + 1 } ∈
      db'.messages := by
    simp [messages, drawSequences]
  simpa [returned, drawSequences] using State.uidOf_of_mem member

/-- `InsertMessage` that returned `(id, uid)` and committed: the row with id `id` carries the UID
the allocation chose, the preserved one or `old + 1`, and `uid` is the new `highest_uid`,
`GREATEST(old, preserved)` or `old + 1`. -/
theorem insertMessage_returned_uid {tx tx' : Tx} {options : InsertMessageOptions}
    {upload : PendingUpload} {now id uid : Int}
    (h : insertMessage tx options upload now = (.ok (id, uid), tx')) (clean : tx'.aborted = false) :
    ∃ uidToUse old, tx.db.highestUid? options.mailboxId = some old ∧
      tx'.db.uidOf id = some uidToUse ∧
      ((options.preservedUid = none ∧ uid = old + 1 ∧ uidToUse = uid) ∨
        ∃ p : UInt32,
          options.preservedUid = some p ∧ uidToUse = p.toNat ∧ uid = max old p.toNat) := by
  obtain ⟨uidToUse, db₁, ids, db₂, db₃, -, allocated, insert, content, queue, rfl⟩ :=
    insertMessage_ok h clean
  obtain ⟨old, found, -, chosen⟩ := allocated.raised
  have kept : tx'.db.messages = db₂.messages :=
    (insertPendingUpload_eq_ok queue).1.trans (insertContent_frame content).1
  refine ⟨uidToUse, old, found, ?_, chosen⟩
  simpa [State.uidOf, kept] using insertMessageRows_single insert

/-- `InsertMessageFromImporter` that returned `(id, uid)` and committed: the row with id `id`
carries `uid`, which is the preserved UID when there is one and the new `highest_uid`
otherwise. -/
theorem insertMessageFromImporter_returned_uid {tx tx' : Tx} {options : InsertMessageOptions}
    {now id uid : Int} (h : insertMessageFromImporter tx options now = (.ok (id, uid), tx'))
    (clean : tx'.aborted = false) :
    tx'.db.uidOf id = some uid ∧ ∃ old, tx.db.highestUid? options.mailboxId = some old ∧
      ((options.preservedUid = none ∧ uid = old + 1) ∨
        ∃ p : UInt32, options.preservedUid = some p ∧ uid = p.toNat) := by
  obtain ⟨highestUid, db₁, ids, db₂, -, allocated, insert, content, rfl⟩ :=
    insertMessageFromImporter_ok h clean
  obtain ⟨old, found, -, chosen⟩ := allocated.raised
  refine ⟨?_, old, found, ?_⟩
  · simpa [State.uidOf, (insertContent_frame content).1] using insertMessageRows_single insert
  · rcases chosen with ⟨none, moved, rfl⟩ | ⟨p, some, rfl, -⟩
    · exact .inl ⟨none, moved⟩
    · exact .inr ⟨p, some, rfl⟩

/-- With a preserved UID below the mailbox's `highest_uid`, an `InsertMessage` that commits
stores its row under the preserved UID but returns the unchanged `highest_uid`, while
`InsertMessageFromImporter` on the same options and state returns the preserved UID. -/
theorem insertMessage_reports_highest_uid {db : State} {options : InsertMessageOptions}
    {upload : PendingUpload} {now id uid old : Int} {p : UInt32} {tx : Tx}
    (preserved : options.preservedUid = some p)
    (highest : db.highestUid? options.mailboxId = some old) (below : (p.toNat : Int) < old)
    (h : insertMessage (Tx.begin db) options upload now = (.ok (id, uid), tx))
    (clean : tx.aborted = false) :
    tx.db.uidOf id = some p.toNat ∧ uid = old ∧
      ∀ id' uid' tx',
        insertMessageFromImporter (Tx.begin db) options now = (.ok (id', uid'), tx') →
          tx'.aborted = false → tx'.db.uidOf id' = some uid' ∧ uid' = p.toNat := by
  obtain ⟨uidToUse, old', found, stored, chosen⟩ := insertMessage_returned_uid h clean
  obtain rfl : old' = old := Option.some.inj (found.symm.trans highest)
  rcases chosen with ⟨none, -⟩ | ⟨p', some, rfl, rfl⟩
  · simp [preserved] at none
  obtain rfl : p' = p := Option.some.inj (some.symm.trans preserved)
  refine ⟨stored, max_eq_left below.le, fun id' uid' tx' imported clean' => ?_⟩
  obtain ⟨stored', _, -, chosen'⟩ := insertMessageFromImporter_returned_uid imported clean'
  rcases chosen' with ⟨none, -⟩ | ⟨p'', some', rfl⟩
  · simp [preserved] at none
  · exact ⟨stored', by rw [Option.some.inj (some'.symm.trans preserved)]⟩

/-- Options for an `APPEND` of `messageId` into mailbox `mailboxId` of account 1, with the
preserved UID of an import when there is one. -/
def appendOptions (mailboxId : Int) (messageId : String) (preservedUid : Option UInt32) :
    InsertMessageOptions where
  userId := 1
  mailboxId := mailboxId
  mailboxName := "INBOX"
  contentHash := "h"
  messageId := messageId
  flags := []
  internalDate := some 0
  size := 10
  plaintextBody := ""
  rawHeaders := ""
  envelope := ⟨"", "", 0, "", "", "", "", "", "", "", "", ""⟩
  preservedUid := preservedUid
  preservedUidValidity := none
  ftsRetention := 0

/-- The upload `InsertMessage` queues in these runs. -/
def appendUpload : PendingUpload :=
  ⟨"i", "h", 10, 1⟩

/-- A store whose mailbox 1 has `highest_uid = 5` and holds no message, as after five appends
that were expunged and purged. -/
def expungedInboxState : State where
  mailboxes := [⟨1, 1, "INBOX", 5, 1⟩]
  messages := []
  messageSequences := []
  messageContents := []
  pendingUploads := []
  sieveScripts := []
  messageIdSeq := 0
  modseqSeq := 0
  scriptIdSeq := 0
  messages_id_unique := List.nodup_nil
  sieveScripts_id_unique := List.nodup_nil

/-- Importing with `PreservedUID = 3` into that mailbox: `InsertMessage` commits row 1 with uid 3
and returns uid 5; `InsertMessageFromImporter` commits the same row and returns 3. -/
theorem preserved_uid_three_reported_as_five :
    (insertMessage (Tx.begin expungedInboxState) (appendOptions 1 "<m@example.com>" (some 3))
        appendUpload 0).1 = .ok (1, 5) ∧
      (insertMessageFromImporter (Tx.begin expungedInboxState)
        (appendOptions 1 "<m@example.com>" (some 3)) 0).1 = .ok (1, 3) ∧
      (insertMessage (Tx.begin expungedInboxState) (appendOptions 1 "<m@example.com>" (some 3))
        appendUpload 0).2.db.uidOf 1 = some (3 : UInt32).toNat ∧ (5 : Int) = 5 ∧
      ∀ id' uid' tx', insertMessageFromImporter (Tx.begin expungedInboxState)
          (appendOptions 1 "<m@example.com>" (some 3)) 0 = (.ok (id', uid'), tx') →
        tx'.aborted = false → tx'.db.uidOf id' = some uid' ∧ uid' = (3 : UInt32).toNat :=
  ⟨rfl, rfl, insertMessage_reports_highest_uid rfl rfl (by decide) rfl rfl⟩

/-! ### A duplicate `Message-ID` -/

/-- An `INSERT` that breaks `messages_message_id_mailbox_id_key` fails. -/
theorem execMessages_duplicate {db : State} {rows : List MessageRow}
    (clash : messageIdClash (db.messages ++ rows) rows = true) :
    ∃ e, execMessages db (.insert rows) = .error e := by
  unfold execMessages
  dsimp only [MessagesStatement.apply, MessagesStatement.newTable]
  split <;> exact ⟨_, rfl⟩

/-- A row live in a mailbox where a live row already carries its `message_id` cannot be
inserted. -/
theorem insertMessageRows_duplicate {db : State} {row x : MessageRow} (member : x ∈ db.messages)
    (liveX : x.expungedAt = none) (liveRow : row.expungedAt = none)
    (box : x.mailboxId = row.mailboxId) (boxed : row.mailboxId.isSome = true)
    (same : x.messageId = row.messageId) : ∃ e, insertMessageRows [row] db = .error e := by
  have clash :
      messageIdClash (db.messages ++ drawSequences db [row]) (drawSequences db [row]) := by
    simp [messageIdClash, drawSequences, liveRow, boxed, List.countP_append]
    exact ⟨x, member, ⟨liveX, box⟩, same⟩
  obtain ⟨e, failed⟩ := @execMessages_duplicate
    { db with messageIdSeq := db.messageIdSeq + 1, modseqSeq := db.modseqSeq + 1 } _ clash
  exact ⟨e, by simp only [insertMessageRows, List.length_singleton, Nat.cast_one, failed]⟩

/-- In a transaction whose state holds a live row of the mailbox with the `Message-ID` of the
options, `InsertMessage` returns an error: the `INSERT` fails, and the recovery's `SELECT` then
meets the aborted transaction. The caller rolls back, and the state is the one before. -/
theorem duplicate_append_returns_error {tx : Tx} {options : InsertMessageOptions}
    {upload : PendingUpload} {now : Int} {x : MessageRow} (member : x ∈ tx.db.messages)
    (live : x.liveIn options.mailboxId = true) (same : x.messageId = options.messageId)
    (named : options.messageId ≠ "") :
    (∃ e, (insertMessage tx options upload now).1 = .error e) ∧
      ∀ db, settle db (insertMessage tx options upload now) = (db, false) := by
  suffices failed : ∃ e, (insertMessage tx options upload now).1 = .error e by
    obtain ⟨e, result⟩ := failed
    refine ⟨⟨e, result⟩, fun db => ?_⟩
    rw [← Prod.mk.eta (p := insertMessage tx options upload now), result]
    rfl
  obtain ⟨box, liveX⟩ : x.mailboxId = some options.mailboxId ∧ x.expungedAt = none := by
    simpa [MessageRow.liveIn] using live
  unfold insertMessage
  dsimp only
  split
  · exact ⟨_, rfl⟩
  rename_i highestUid uidToUse tx₁ allocated
  split
  · rw [Tx.run_of_aborted _ (Tx.run_error_aborted ‹_›)]
    exact ⟨_, rfl⟩
  · exact ⟨_, rfl⟩
  · rename_i ids tx₂ inserted
    obtain ⟨clean₁, insert, -⟩ := Tx.run_eq_ok inserted
    obtain ⟨-, allocatedState⟩ := allocateUid_clean allocated clean₁
    obtain ⟨e, failed⟩ := @insertMessageRows_duplicate _ (messageRowOf options
      (storedMessageId options now) (options.internalDate.getD now) uidToUse false) _
      (allocatedState.messages_eq ▸ member) liveX rfl box rfl (same.trans (if_neg named).symm)
    rw [failed] at insert
    cases insert

/-- The live message `<m@example.com>`, row 1 of mailbox 1 of account 1, with uid 1. -/
def existingMessage : MessageRow :=
  ⟨1, 1, some 1, "INBOX", 1, "<m@example.com>", "h", 0, [], 0, 10,
    ⟨"", "", 0, "", "", "", "", "", "", "", "", ""⟩, true, 1, none, none⟩

/-- A store whose mailbox 1 holds that message. -/
def duplicateInboxState : State where
  mailboxes := [⟨1, 1, "INBOX", 1, 1⟩]
  messages := [existingMessage]
  messageSequences := [⟨1, 1, 1⟩]
  messageContents := [⟨"h", some "", ""⟩]
  pendingUploads := []
  sieveScripts := []
  messageIdSeq := 1
  modseqSeq := 1
  scriptIdSeq := 0
  messages_id_unique := by decide
  sieveScripts_id_unique := List.nodup_nil

/-- Appending `<m@example.com>` to that mailbox again returns `ErrDBUniqueViolation`. -/
theorem duplicate_append_in_inbox :
    ((∃ e, (insertMessage (Tx.begin duplicateInboxState) (appendOptions 1 "<m@example.com>" none)
        appendUpload 0).1 = .error e) ∧
      ∀ db, settle db (insertMessage (Tx.begin duplicateInboxState)
        (appendOptions 1 "<m@example.com>" none) appendUpload 0) = (db, false)) ∧
    (insertMessage (Tx.begin duplicateInboxState) (appendOptions 1 "<m@example.com>" none)
        appendUpload 0).1 = .error .uniqueViolation :=
  ⟨duplicate_append_returns_error (List.mem_singleton_self existingMessage) rfl rfl (by decide),
    rfl⟩

end Sora.Db

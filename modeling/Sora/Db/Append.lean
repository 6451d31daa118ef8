import Sora.Db.Transaction

/-
Module: Sora.Db.Append
Purpose: `CopyMessages`, `InsertMessage` and `InsertMessageFromImporter` of `db/append.go`, each
  as the statements it sends through its transaction and the Go work between them: the UID
  allocation, the UID map of a copy, the recovery after a duplicate `Message-ID`.
Trusted boundary: `Sora.Db.Transaction`. `helpers.SanitizeUTF8` is the identity on Lean strings,
  which are valid UTF-8; the descriptive columns arrive already derived in
  `InsertMessageOptions.envelope`, and `SerializeBodyStructureGob` is taken to succeed.
Main exports: AppendError, UidMap, copyMessages, InsertMessageOptions, PendingUpload,
  allocateUid, insertMessage, insertMessageFromImporter
-/

namespace Sora.Db

/-- The errors the three functions return: the `consts` sentinels and the `fmt.Errorf` texts. -/
inductive AppendError where
  /-- "source and destination mailboxes cannot be the same" -/
  | sameMailbox
  /-- `consts.ErrInternalError` -/
  | internalError
  /-- "failed to scan message ID and UID" -/
  | scanFailed
  /-- `consts.ErrDBUpdateFailed` -/
  | updateFailed
  /-- "failed to get destination mailbox name" -/
  | mailboxNameFailed
  /-- "failed to batch copy messages" -/
  | batchCopyFailed
  /-- `consts.ErrDBUniqueViolation` -/
  | uniqueViolation
  /-- `consts.ErrDBInsertFailed` -/
  | insertFailed
deriving Repr, DecidableEq

/-! ### `CopyMessages` -/

/-- A Go `map[imap.UID]imap.UID`, as the list of its entries. -/
abbrev UidMap := List (UInt32 × UInt32)

/-- `m[k] = v`: the entry for `k` is replaced. -/
def UidMap.insert (m : UidMap) (k v : UInt32) : UidMap :=
  (k, v) :: m.filter (·.1 != k)

/-- `m[k]`, if present. -/
def UidMap.find? (m : UidMap) (k : UInt32) : Option UInt32 :=
  (List.find? (·.1 == k) m).map (·.2)

/-- `rows.Scan(&messageID, &sourceUID)` into an `imap.UID`: pgx refuses a `BIGINT` outside the
range of `uint32`. -/
def scanUid (uid : Int) : Option UInt32 :=
  if 0 ≤ uid ∧ uid < 2 ^ 32 then some (UInt32.ofNat uid.toNat) else none

/-- Go's conversion `imap.UID(newUID)` of an `int64`: the low 32 bits. -/
def uidOfInt64 (v : Int) : UInt32 :=
  UInt32.ofNat (v % 2 ^ 32).toNat

/-- `SELECT id, uid FROM messages WHERE mailbox_id = $1 AND uid = ANY($2) AND expunged_at IS
NULL ORDER BY uid`. -/
def selectCopySources (srcMailboxId : Int) (uids : List UInt32) (db : State) :
    Except SqlError (List (Int × Int) × State) :=
  let rows := db.messages.filter fun m =>
    m.liveIn srcMailboxId && uids.any fun u => (u.toNat : Int) == m.uid
  .ok ((rows.map fun m => (m.id, m.uid)).insertionSort (fun a b => a.2 ≤ b.2), db)

/-- The loop over the scanned source uids: the `i`-th gets `startUID + i`, recorded in the map
as an `imap.UID`. Returns `newUIDs` and `messageUIDMap`. -/
def assignCopyUids (startUid : Int) (sourceUids : List UInt32) : List Int × UidMap :=
  let newUids := (List.range sourceUids.length).map fun (i : Nat) => startUid + i
  (newUids, (sourceUids.zip newUids).foldl (fun m entry => m.insert entry.1 (uidOfInt64 entry.2)) [])

theorem mem_assignCopyUids_fst {startUid u : Int} {sourceUids : List UInt32}
    (member : u ∈ (assignCopyUids startUid sourceUids).1) :
    ∃ i < sourceUids.length, u = startUid + i := by
  obtain ⟨i, range, rfl⟩ := List.mem_map.mp member
  exact ⟨i, List.mem_range.mp range, rfl⟩

theorem assignCopyUids_fst_increasing (startUid : Int) (sourceUids : List UInt32) :
    (assignCopyUids startUid sourceUids).1.Pairwise (· < ·) :=
  (List.pairwise_lt_range _).map _ fun _ _ less => by omega

/-- The copies `INSERT INTO messages (...) SELECT ... FROM messages m JOIN unnest($3, $4) AS
d(message_id, new_uid) ON m.id = d.message_id` selects: each joined row moved to the
destination with its path, `\Recent` added, `flags_changed_at = NOW()` and the new uid; `id`,
`created_modseq` and `expunged_at` take their defaults. -/
def copyRows (db : State) (destMailboxId : Int) (destMailboxName : String)
    (messageIds newUids : List Int) (now : Int) : List MessageRow :=
  (messageIds.zip newUids).flatMap fun d => (db.messages.filter (·.id == d.1)).map fun m =>
    { m with
      mailboxId := some destMailboxId
      mailboxPath := destMailboxName
      flags := Int.lor m.flags FlagRecent
      flagsChangedAt := some now
      uid := d.2
      expungedAt := none }

theorem mem_copyRows {db : State} {destMailboxId : Int} {destMailboxName : String}
    {messageIds newUids : List Int} {now : Int} {r : MessageRow}
    (member : r ∈ copyRows db destMailboxId destMailboxName messageIds newUids now) :
    ∃ m ∈ db.messages, ∃ u ∈ newUids, r = { m with
      mailboxId := some destMailboxId
      mailboxPath := destMailboxName
      flags := Int.lor m.flags FlagRecent
      flagsChangedAt := some now
      uid := u
      expungedAt := none } := by
  obtain ⟨⟨i, u⟩, pair, copied⟩ := List.mem_flatMap.mp member
  obtain ⟨m, found, rfl⟩ := List.mem_map.mp copied
  exact ⟨m, List.mem_of_mem_filter found, u, (List.of_mem_zip pair).2, rfl⟩

/-- `messages_pkey`: the join on `m.id` finds at most one row per id. -/
theorem filter_id_length_le (db : State) (i : Int) :
    (db.messages.filter (·.id == i)).length ≤ 1 := by
  have distinct : ((db.messages.filter (·.id == i)).map (·.id)).Nodup :=
    db.messages_id_unique.sublist ((List.filter_sublist _).map _)
  have same : (db.messages.filter (·.id == i)).map (·.id) =
      List.replicate (db.messages.filter (·.id == i)).length i :=
    List.eq_replicate_iff.mpr ⟨List.length_map _ _, fun b member => by
      obtain ⟨m, found, rfl⟩ := List.mem_map.mp member
      simpa using (List.mem_filter.mp found).2⟩
  rw [same] at distinct
  exact List.nodup_replicate.mp distinct

/-- The copies carry the new uids in the order given, each at most once. -/
theorem copyRows_map_uid_sublist (db : State) (destMailboxId : Int) (destMailboxName : String)
    (now : Int) : ∀ messageIds newUids : List Int,
    ((copyRows db destMailboxId destMailboxName messageIds newUids now).map (·.uid)).Sublist
      newUids
  | [], _ | _ :: _, [] => by simp [copyRows]
  | i :: ids, u :: uids => by
    have rest := copyRows_map_uid_sublist db destMailboxId destMailboxName now ids uids
    simp only [copyRows, List.zip_cons_cons, List.flatMap_cons, List.map_append,
      List.map_map] at rest ⊢
    have group : ((db.messages.filter (·.id == i)).map ((·.uid) ∘ fun m => { m with
        mailboxId := some destMailboxId, mailboxPath := destMailboxName,
        flags := Int.lor m.flags FlagRecent, flagsChangedAt := some now, uid := u,
        expungedAt := none })) = List.replicate (db.messages.filter (·.id == i)).length u :=
      List.eq_replicate_iff.mpr ⟨List.length_map _ _, fun b member => by
        obtain ⟨m, -, rfl⟩ := List.mem_map.mp member
        rfl⟩
    rw [group]
    rcases Nat.le_one_iff_eq_zero_or_eq_one.mp (filter_id_length_le db i) with none | one
    · rw [none]
      exact rest.cons u
    · rw [one]
      exact rest.cons₂ u

/-- The batch copy statement, evaluated against the transaction's current state. -/
def insertCopies (destMailboxId : Int) (destMailboxName : String) (messageIds newUids : List Int)
    (now : Int) (db : State) : Except SqlError (List Int × State) :=
  insertMessageRows (copyRows db destMailboxId destMailboxName messageIds newUids now) db

/-- `CopyMessages(ctx, tx, uids, srcMailboxID, destMailboxID, userID)`; `now` is the
transaction's `NOW()`. `userID` is not read. -/
def copyMessages (tx : Tx) (uids : List UInt32) (srcMailboxId destMailboxId _userId : Int)
    (now : Int) : Except AppendError UidMap × Tx :=
  if srcMailboxId = destMailboxId then (.error .sameMailbox, tx) else
  match tx.run (selectCopySources srcMailboxId uids) with
  | (.error _, tx) => (.error .internalError, tx)
  | (.ok rows, tx) =>
    match rows.mapM (fun row => (scanUid row.2).map (row.1, ·)) with
    | none => (.error .scanFailed, tx)
    | some scanned =>
      if scanned.isEmpty then (.ok [], tx) else
      let numToCopy : Int := scanned.length
      match tx.run (updateHighestUid destMailboxId fun h => bigintAdd h numToCopy) with
      | (.ok (some newHighestUid), tx) =>
        let assigned := assignCopyUids (newHighestUid - numToCopy + 1) (scanned.map (·.2))
        match tx.run (selectMailboxName destMailboxId) with
        | (.ok (some destMailboxName), tx) =>
          match tx.run (insertCopies destMailboxId destMailboxName (scanned.map (·.1))
              assigned.1 now) with
          | (.ok _, tx) => (.ok assigned.2, tx)
          | (.error _, tx) => (.error .batchCopyFailed, tx)
        | (_, tx) => (.error .mailboxNameFailed, tx)
      | (_, tx) => (.error .updateFailed, tx)

/-! ### `InsertMessage` and `InsertMessageFromImporter` -/

/-- `InsertMessageOptions`. A zero `InternalDate` is `none`; `envelope` holds the descriptive
columns as the row stores them. -/
structure InsertMessageOptions where
  userId : Int
  mailboxId : Int
  mailboxName : String
  contentHash : String
  messageId : String
  flags : List Flag
  internalDate : Option Int
  size : Int
  plaintextBody : String
  rawHeaders : String
  envelope : Envelope
  preservedUid : Option UInt32
  preservedUidValidity : Option UInt32
  ftsRetention : Int

/-- `PendingUpload`, the upload `InsertMessage` queues. -/
structure PendingUpload where
  instanceId : String
  contentHash : String
  size : Int
  accountId : Int

/-- The `Message-ID` both inserts store: the sanitised one, or `<UnixNano@MailboxName>` when it
is empty. -/
def storedMessageId (options : InsertMessageOptions) (now : Int) : String :=
  if options.messageId = "" then "<" ++ toString now ++ "@" ++ options.mailboxName ++ ">"
  else options.messageId

/-- The UID allocation both inserts share (lines 149-188 and 369-409). A preserved UID raises
`highest_uid` to at least itself with `GREATEST` and may reset `uid_validity`; otherwise
`highest_uid` is incremented and its new value is the UID. Returns `(highestUID, uidToUse)`. -/
def allocateUid (tx : Tx) (options : InsertMessageOptions) : Except AppendError (Int × Int) × Tx :=
  match options.preservedUid with
  | some preserved =>
    let uidToUse : Int := preserved.toNat
    match tx.run (updateHighestUid options.mailboxId fun h => some (max h uidToUse)) with
    | (.ok (some highestUid), tx) =>
      match options.preservedUidValidity with
      | some validity =>
        match tx.run (updateUidValidity options.mailboxId validity.toNat) with
        | (.ok _, tx) => (.ok (highestUid, uidToUse), tx)
        | (.error _, tx) => (.error .updateFailed, tx)
      | none => (.ok (highestUid, uidToUse), tx)
    | (_, tx) => (.error .updateFailed, tx)
  | none =>
    match tx.run (updateHighestUid options.mailboxId fun h => bigintAdd h 1) with
    | (.ok (some highestUid), tx) => (.ok (highestUid, highestUid), tx)
    | (_, tx) => (.error .updateFailed, tx)

/-- The row both inserts send, before `id` and `created_modseq` are drawn. `uploaded` is the
importer's `true`, or for `InsertMessage` the column default, modelled from the spec as `false`
("starts with `uploaded=false`"). -/
def messageRowOf (options : InsertMessageOptions) (messageId : String) (internalDate uid : Int)
    (uploaded : Bool) : MessageRow where
  id := 0
  accountId := options.userId
  mailboxId := some options.mailboxId
  mailboxPath := options.mailboxName
  uid := uid
  messageId := messageId
  contentHash := options.contentHash
  flags := flagsToBitwise (splitFlags options.flags).1
  customFlags := (splitFlags options.flags).2
  internalDate := internalDate
  size := options.size
  envelope := options.envelope
  uploaded := uploaded
  createdModseq := 0
  flagsChangedAt := none
  expungedAt := none

/-- The `message_contents` row: the plain-text body is dropped past the FTS retention window. -/
def contentRowOf (options : InsertMessageOptions) (now : Int) : ContentRow where
  contentHash := options.contentHash
  textBody :=
    if 0 < options.ftsRetention ∧ options.envelope.sentDate < now - options.ftsRetention then none
    else some options.plaintextBody
  headers := options.rawHeaders

/-- `SELECT id, uid FROM messages WHERE account_id = $1 AND mailbox_id = $2 AND message_id = $3
AND expunged_at IS NULL` through `QueryRow`. -/
def selectLiveByMessageId (accountId mailboxId : Int) (messageId : String) (db : State) :
    Except SqlError (Option (Int × Int) × State) :=
  .ok ((db.messages.find? fun m =>
      m.accountId == accountId && m.liveIn mailboxId && m.messageId == messageId).map
    fun m => (m.id, m.uid), db)

/-- `InsertMessage(ctx, tx, options, upload)`; `now` stands for every `time.Now()`. -/
def insertMessage (tx : Tx) (options : InsertMessageOptions) (upload : PendingUpload)
    (now : Int) : Except AppendError (Int × Int) × Tx :=
  let messageId := storedMessageId options now
  match allocateUid tx options with
  | (.error e, tx) => (.error e, tx)
  | (.ok (highestUid, uidToUse), tx) =>
    let row := messageRowOf options messageId (options.internalDate.getD now) uidToUse false
    match tx.run (insertMessageRows [row]) with
    | (.error (.uniqueViolation "messages_message_id_mailbox_id_key"), tx) =>
      match tx.run (selectLiveByMessageId options.userId options.mailboxId messageId) with
      | (.ok (some (existingId, existingUid)), tx) => (.ok (existingId, existingUid), tx)
      | (_, tx) => (.error .uniqueViolation, tx)
    | (.error _, tx) => (.error .insertFailed, tx)
    | (.ok ids, tx) =>
      match tx.run (insertContent (contentRowOf options now)) with
      | (.error _, tx) => (.error .insertFailed, tx)
      | (.ok _, tx) =>
        match tx.run (insertPendingUpload ⟨upload.instanceId, upload.contentHash, upload.size,
            now, upload.accountId⟩) with
        | (.error _, tx) => (.error .insertFailed, tx)
        | (.ok _, tx) => (.ok (ids.headD 0, highestUid), tx)

/-- `InsertMessageFromImporter(ctx, tx, options)`: as `InsertMessage`, but the row is inserted
with `uploaded = true`, no upload is queued, and the UID returned is `uidToUse`. -/
def insertMessageFromImporter (tx : Tx) (options : InsertMessageOptions) (now : Int) :
    Except AppendError (Int × Int) × Tx :=
  let messageId := storedMessageId options now
  match allocateUid tx options with
  | (.error e, tx) => (.error e, tx)
  | (.ok (_, uidToUse), tx) =>
    let row := messageRowOf options messageId (options.internalDate.getD now) uidToUse true
    match tx.run (insertMessageRows [row]) with
    | (.error (.uniqueViolation "messages_message_id_mailbox_id_key"), tx) =>
      match tx.run (selectLiveByMessageId options.userId options.mailboxId messageId) with
      | (.ok (some (existingId, existingUid)), tx) => (.ok (existingId, existingUid), tx)
      | (_, tx) => (.error .uniqueViolation, tx)
    | (.error _, tx) => (.error .insertFailed, tx)
    | (.ok ids, tx) =>
      match tx.run (insertContent (contentRowOf options now)) with
      | (.error _, tx) => (.error .insertFailed, tx)
      | (.ok _, tx) => (.ok (ids.headD 0, uidToUse), tx)

end Sora.Db

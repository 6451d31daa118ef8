import Sora.Proofs.InsertReturns

/-
Module: Sora.Proofs.AppendHistory
Purpose: Serial histories of `InsertMessage`, `InsertMessageFromImporter` and `CopyMessages`
  transactions, and the two invariants they keep. Every message's uid stays at most its
  mailbox's `highest_uid`, which never goes down, so a UID taken from `highest_uid` lies above
  everything the mailbox held. Every row not yet uploaded has a pending upload of its content.
Trusted boundary: `Sora.Proofs.AppendCommit`; the example store of `Sora.Proofs.InsertReturns`.
Main exports: AppendCall, runAppends, HighestRaised, UidStep, UidsBounded, UploadStep,
  UploadsCovered
-/

namespace Sora.Db

/-! ### Histories -/

/-- One call of `db/append.go`, in a transaction of its own that the caller commits when the
call returns no error. -/
inductive AppendCall where
  | insertMessage (options : InsertMessageOptions) (upload : PendingUpload) (now : Int)
  | insertMessageFromImporter (options : InsertMessageOptions) (now : Int)
  | copyMessages (uids : List UInt32) (srcMailboxId destMailboxId userId now : Int)

/-- The state after the call's transaction, and whether it committed. -/
def AppendCall.perform (db : State) : AppendCall → State × Bool
  | .insertMessage options upload now =>
    settle db (Sora.Db.insertMessage (Tx.begin db) options upload now)
  | .insertMessageFromImporter options now =>
    settle db (Sora.Db.insertMessageFromImporter (Tx.begin db) options now)
  | .copyMessages uids srcMailboxId destMailboxId userId now =>
    settle db (Sora.Db.copyMessages (Tx.begin db) uids srcMailboxId destMailboxId userId now)

/-- A serial history: the calls one after another. -/
def runAppends (db : State) (calls : List AppendCall) : State :=
  calls.foldl (fun db call => (call.perform db).1) db

/-- Whether the call takes its UIDs from `highest_uid`, with no preserved UID. -/
def AppendCall.allocatesFresh : AppendCall → Bool
  | .insertMessage options _ _ | .insertMessageFromImporter options _ =>
    options.preservedUid.isNone
  | .copyMessages .. => true

/-- The message rows the call added. -/
def AppendCall.added (db : State) (call : AppendCall) : List MessageRow :=
  (call.perform db).1.messages.drop db.messages.length

/-- What the callers of `InsertMessage` pass: an upload of the message's own content, for the
message's own account. -/
def AppendCall.UploadMatches : AppendCall → Prop
  | .insertMessage options upload _ =>
    upload.contentHash = options.contentHash ∧ upload.accountId = options.userId
  | _ => True

@[simp] theorem runAppends_nil (db : State) : runAppends db [] = db := rfl

theorem runAppends_append (db : State) (calls more : List AppendCall) :
    runAppends db (calls ++ more) = runAppends (runAppends db calls) more :=
  List.foldl_append _ _ _ _

theorem runAppends_cons (db : State) (call : AppendCall) (calls : List AppendCall) :
    runAppends db (call :: calls) = runAppends (call.perform db).1 calls := rfl

/-! ### What one call does -/

/-- `highest_uid` of one mailbox before and after: the mailbox neither appears nor disappears,
and the value does not go down. -/
def HighestRaised : Option Int → Option Int → Prop
  | none, none => True
  | some h, some h' => h ≤ h'
  | _, _ => False

theorem HighestRaised.refl : ∀ o, HighestRaised o o
  | none => trivial
  | some h => le_refl h

theorem HighestRaised.trans : ∀ {a b c : Option Int},
    HighestRaised a b → HighestRaised b c → HighestRaised a c
  | none, none, none, _, _ => trivial
  | some _, some _, some _, first, second => le_trans first second

theorem HighestRaised.of_some_left {h : Int} :
    ∀ {o : Option Int}, HighestRaised (some h) o → ∃ h', o = some h' ∧ h ≤ h'
  | some _, raised => ⟨_, rfl, raised⟩

theorem HighestRaised.of_some_right {h' : Int} :
    ∀ {o : Option Int}, HighestRaised o (some h') → ∃ h, o = some h ∧ h ≤ h'
  | some _, raised => ⟨_, rfl, raised⟩

theorem highestUid?_congr {db db' : State} (same : db'.mailboxes = db.mailboxes) :
    db'.highestUid? = db.highestUid? := by
  funext M
  simp only [State.highestUid?, State.mailbox?, same]

/-- What a call does to `mailboxes` and `messages`: it appends `added` and raises
`highest_uid`; each added row sits in a mailbox at most at its new `highest_uid` and, when the
UIDs are `fresh`, above its old one and in increasing order. -/
structure UidStep (db db' : State) (added : List MessageRow) (fresh : Bool) : Prop where
  messages_eq : db'.messages = db.messages ++ added
  raised : ∀ M, HighestRaised (db.highestUid? M) (db'.highestUid? M)
  below : ∀ r ∈ added, ∃ M h', r.mailboxId = some M ∧ db'.highestUid? M = some h' ∧ r.uid ≤ h'
  above : fresh = true → ∀ r ∈ added,
    ∃ M h, r.mailboxId = some M ∧ db.highestUid? M = some h ∧ h < r.uid
  increasing : fresh = true → (added.map (·.uid)).Pairwise (· < ·)

theorem UidStep.refl (db : State) (fresh : Bool) : UidStep db db [] fresh :=
  ⟨(List.append_nil _).symm, fun M => .refl _, by simp, by simp, by simp⟩

/-- The rows the statements added are the rows `AppendCall.added` reads back. -/
theorem UidStep.added {db db' : State} {added : List MessageRow} {fresh : Bool}
    (step : UidStep db db' added fresh) : db'.messages.drop db.messages.length = added := by
  rw [step.messages_eq, List.drop_left]

/-- Both inserts: one row, in the mailbox whose `highest_uid` the allocation moved. -/
theorem UidStep.insert {options : InsertMessageOptions} {db db₁ db' : State}
    {highestUid uidToUse : Int} {row : MessageRow}
    (allocated : Allocated options db db₁ highestUid uidToUse)
    (mailbox : row.mailboxId = some options.mailboxId) (uid : row.uid = uidToUse)
    (messages : db'.messages = db₁.messages ++ drawSequences db₁ [row])
    (mailboxes : db'.mailboxes = db₁.mailboxes) :
    UidStep db db' (drawSequences db₁ [row]) options.preservedUid.isNone := by
  obtain ⟨messages₁, -, others, old, found, now, value⟩ := allocated
  have view := highestUid?_congr mailboxes
  have inserted : ∀ r ∈ drawSequences db₁ [row], r.mailboxId = some options.mailboxId ∧
      r.uid = uidToUse := by
    intro r member
    obtain ⟨_, single, _, _, rfl⟩ := mem_drawSequences member
    rw [List.mem_singleton.mp single]
    exact ⟨mailbox, uid⟩
  refine ⟨by rw [messages, messages₁], fun M => ?_, fun r member => ?_, fun fresh r member => ?_,
    fun _ => by simp [drawSequences_map (·.uid) (fun _ _ _ => rfl)]⟩
  · rw [view]
    by_cases same : M = options.mailboxId
    · subst same
      rw [found, now]
      show old ≤ highestUid
      rcases value with ⟨-, raised, -⟩ | ⟨p, -, -, raised⟩ <;> omega
    · rw [others M same]
      exact .refl _
  · obtain ⟨mailbox, assigned⟩ := inserted r member
    refine ⟨_, highestUid, mailbox, view ▸ now, ?_⟩
    rcases value with ⟨-, -, used⟩ | ⟨p, -, used, raised⟩ <;> omega
  · obtain ⟨mailbox, assigned⟩ := inserted r member
    refine ⟨_, old, mailbox, found, ?_⟩
    rcases value with ⟨-, raised, used⟩ | ⟨p, preserved, -, -⟩
    · omega
    · simp [Option.isNone_iff_eq_none.mp fresh] at preserved

/-- A copy: rows in the destination, in increasing order, under uids of the range that
`highest_uid + count` reserved. -/
theorem UidStep.copy {db db₁ db' : State} {destMailboxId newHighest : Int} {count : Nat}
    {rows : List MessageRow}
    (raise : updateHighestUid destMailboxId (fun h => bigintAdd h count) db =
      .ok (some newHighest, db₁))
    (placed : ∀ r ∈ rows, r.mailboxId = some destMailboxId ∧
      ∃ i < count, r.uid = newHighest - count + 1 + i)
    (ordered : (rows.map (·.uid)).Pairwise (· < ·))
    (messages : db'.messages = db₁.messages ++ drawSequences db₁ rows)
    (mailboxes : db'.mailboxes = db₁.mailboxes) :
    UidStep db db' (drawSequences db₁ rows) true := by
  obtain ⟨others, -, -, messages₁, -⟩ := updateHighestUid_eq_ok raise
  obtain ⟨old, found, value, now⟩ := updateHighestUid_eq_some raise
  have sum := bigintAdd_eq_some value
  have view := highestUid?_congr mailboxes
  have inserted : ∀ r ∈ drawSequences db₁ rows, r.mailboxId = some destMailboxId ∧
      ∃ i < count, r.uid = newHighest - count + 1 + i := by
    intro r member
    obtain ⟨row, listed, _, _, rfl⟩ := mem_drawSequences member
    exact placed row listed
  refine ⟨by rw [messages, messages₁], fun M => ?_, fun r member => ?_, fun _ r member => ?_,
    fun _ => by rwa [drawSequences_map (·.uid) (fun _ _ _ => rfl)]⟩
  · rw [view]
    by_cases same : M = destMailboxId
    · subst same
      rw [found, now]
      show old ≤ newHighest
      omega
    · rw [others M same]
      exact .refl _
  · obtain ⟨mailbox, i, small, assigned⟩ := inserted r member
    exact ⟨_, newHighest, mailbox, view ▸ now, by omega⟩
  · obtain ⟨mailbox, i, small, assigned⟩ := inserted r member
    exact ⟨_, old, mailbox, found, by omega⟩

/-- What a call does to `messages` and `pending_uploads`: it appends `added` and keeps every
queued upload; an added row not yet uploaded either has an upload queued for its content and
account, or copies a row not yet uploaded of the same content and account. -/
structure UploadStep (db db' : State) (added : List MessageRow) : Prop where
  messages_eq : db'.messages = db.messages ++ added
  queued : db.pendingUploads ⊆ db'.pendingUploads
  covered : ∀ r ∈ added, r.uploaded = false →
    (∃ p ∈ db'.pendingUploads, p.contentHash = r.contentHash ∧ p.accountId = r.accountId) ∨
      ∃ s ∈ db.messages, s.uploaded = false ∧ s.contentHash = r.contentHash ∧
        s.accountId = r.accountId

theorem UploadStep.refl (db : State) : UploadStep db db [] :=
  ⟨(List.append_nil _).symm, List.Subset.refl _, by simp⟩

/-- Both inserts: one row, covered by the upload queued with it when it is not uploaded. -/
theorem UploadStep.insert {db db₁ db' : State} {row : MessageRow}
    (messages : db'.messages = db.messages ++ drawSequences db₁ [row])
    (queued : db.pendingUploads ⊆ db'.pendingUploads)
    (pending : row.uploaded = false →
      ∃ p ∈ db'.pendingUploads, p.contentHash = row.contentHash ∧ p.accountId = row.accountId) :
    UploadStep db db' (drawSequences db₁ [row]) := by
  refine ⟨messages, queued, fun r member waiting => .inl ?_⟩
  obtain ⟨_, single, _, _, rfl⟩ := mem_drawSequences member
  rw [List.mem_singleton.mp single] at waiting ⊢
  exact pending waiting

/-- A copy: each row copies `uploaded`, `content_hash` and `account_id` of a row it read. -/
theorem UploadStep.copy {db db₁ db' : State} {rows : List MessageRow}
    (messages : db'.messages = db.messages ++ drawSequences db₁ rows)
    (queued : db.pendingUploads ⊆ db'.pendingUploads)
    (copied : ∀ r ∈ rows, ∃ s ∈ db.messages, s.uploaded = r.uploaded ∧
      s.contentHash = r.contentHash ∧ s.accountId = r.accountId) :
    UploadStep db db' (drawSequences db₁ rows) := by
  refine ⟨messages, queued, fun r member waiting => .inr ?_⟩
  obtain ⟨row, listed, _, _, rfl⟩ := mem_drawSequences member
  obtain ⟨s, read, same⟩ := copied row listed
  exact ⟨s, read, same.1.trans waiting, same.2⟩

theorem AppendCall.perform_rollback {db : State} {call : AppendCall}
    (h : (call.perform db).2 = false) : (call.perform db).1 = db := by
  cases call <;> exact settle_rollback h

/-- Every call of a history, committed or not, is a `UidStep`, and an `UploadStep` when it
queues the upload of its own content. -/
theorem AppendCall.steps (db : State) (call : AppendCall) :
    UidStep db (call.perform db).1 (call.added db) call.allocatesFresh ∧
      (call.UploadMatches → UploadStep db (call.perform db).1 (call.added db)) := by
  suffices ∃ added, UidStep db (call.perform db).1 added call.allocatesFresh ∧
      (call.UploadMatches → UploadStep db (call.perform db).1 added) by
    obtain ⟨added, uids, uploads⟩ := this
    rw [AppendCall.added, uids.added]
    exact ⟨uids, uploads⟩
  cases committed : (call.perform db).2 with
  | false =>
    rw [AppendCall.perform_rollback committed]
    exact ⟨[], .refl db _, fun _ => .refl db⟩
  | true =>
    have h : call.perform db = ((call.perform db).1, true) := Prod.ext rfl committed
    cases call with
    | insertMessage options upload now =>
      obtain ⟨_, _, db₁, _, db₂, db₃, allocated, insert, content, queue⟩ := insertMessage_commit h
      obtain ⟨messages₂, mailboxes₂, -, pending₂, -⟩ := insertMessageRows_eq_ok insert
      obtain ⟨messages₃, mailboxes₃, pending₃⟩ := insertContent_frame content
      obtain ⟨messages', mailboxes', queued, p, listed, sameHash, sameAccount⟩ :=
        insertPendingUpload_eq_ok queue
      have messages : _ = db₁.messages ++ _ := messages'.trans (messages₃.trans messages₂)
      refine ⟨_, .insert allocated rfl rfl messages (mailboxes'.trans (mailboxes₃.trans mailboxes₂)),
        fun matching => .insert (allocated.messages_eq ▸ messages) ?_ fun _ =>
          ⟨p, listed, sameHash.trans matching.1, sameAccount.trans matching.2⟩⟩
      rw [allocated.pendingUploads_eq.symm, ← pending₂, ← pending₃]
      exact queued
    | insertMessageFromImporter options now =>
      obtain ⟨_, _, db₁, _, db₂, allocated, insert, content⟩ := insertMessageFromImporter_commit h
      obtain ⟨messages₂, mailboxes₂, -, pending₂, -⟩ := insertMessageRows_eq_ok insert
      obtain ⟨messages', mailboxes', pending'⟩ := insertContent_frame content
      have messages : _ = db₁.messages ++ _ := messages'.trans messages₂
      refine ⟨_, .insert allocated rfl rfl messages (mailboxes'.trans mailboxes₂),
        fun _ => .insert (allocated.messages_eq ▸ messages) ?_ fun uploaded => by cases uploaded⟩
      rw [pending', pending₂, allocated.pendingUploads_eq]
      exact List.Subset.refl _
    | copyMessages uids srcMailboxId destMailboxId userId now =>
      obtain ⟨_, tx, result, clean, same⟩ := settle_eq_commit h
      obtain ⟨_, scanned, -, -, -, outcome⟩ := copyMessages_commit result clean
      rcases outcome with ⟨-, -, unchanged⟩ | ⟨newHighest, db₁, name, ids, -, raise, -, insert, -⟩
      · rw [← same, unchanged]
        exact ⟨[], .refl db _, fun _ => .refl db⟩
      obtain ⟨messages₁, mailboxes₁, -, pending₁, -⟩ := insertMessageRows_eq_ok insert
      obtain ⟨-, -, -, messages₀, pending₀, -⟩ := updateHighestUid_eq_ok raise
      rw [← same]
      refine ⟨_, .copy raise (fun r member => ?_) ?_ messages₁ mailboxes₁,
        fun _ => .copy (messages₀ ▸ messages₁) (by rw [pending₁, pending₀]; exact List.Subset.refl _) fun r member => ?_⟩
      · obtain ⟨m, -, u, assigned, rfl⟩ := mem_copyRows member
        obtain ⟨i, small, rfl⟩ := mem_assignCopyUids_fst assigned
        exact ⟨rfl, i, by simpa using small, rfl⟩
      · exact (assignCopyUids_fst_increasing _ _).sublist (copyRows_map_uid_sublist _ _ _ _ _ _)
      · obtain ⟨m, read, u, -, rfl⟩ := mem_copyRows member
        exact ⟨m, messages₀ ▸ read, rfl, rfl, rfl⟩

/-! ### Whole histories -/

/-- Along a history `messages` only grows and no `highest_uid` goes down. -/
theorem runAppends_grows (db : State) (calls : List AppendCall) :
    db.messages <+: (runAppends db calls).messages ∧
      ∀ M, HighestRaised (db.highestUid? M) ((runAppends db calls).highestUid? M) := by
  induction calls generalizing db with
  | nil => exact ⟨⟨[], List.append_nil _⟩, fun M => .refl _⟩
  | cons call calls ih =>
    obtain ⟨grows, raised⟩ := ih (call.perform db).1
    have step := (call.steps db).1
    refine ⟨?_, fun M => (step.raised M).trans (raised M)⟩
    rw [runAppends_cons]
    exact (step.messages_eq ▸ ⟨_, rfl⟩ : _ <+: _).trans grows

theorem runAppends_earlier (db : State) {pre calls : List AppendCall} (h : pre <+: calls) :
    (runAppends db pre).messages <+: (runAppends db calls).messages ∧
      ∀ M, HighestRaised ((runAppends db pre).highestUid? M) ((runAppends db calls).highestUid? M) := by
  obtain ⟨more, rfl⟩ := h
  rw [runAppends_append]
  exact runAppends_grows _ more

/-- Every message's uid is at most the `highest_uid` of its mailbox. -/
def UidsBounded (db : State) : Prop :=
  ∀ r ∈ db.messages, ∀ M h, r.mailboxId = some M → db.highestUid? M = some h → r.uid ≤ h

namespace UidsBounded

theorem empty : UidsBounded State.empty :=
  fun _ member => absurd member (List.not_mem_nil _)

theorem step {db db' : State} {added : List MessageRow} {fresh : Bool}
    (bounded : UidsBounded db) (step : UidStep db db' added fresh) : UidsBounded db' := by
  intro r member M h' mailbox now
  rw [step.messages_eq, List.mem_append] at member
  rcases member with old | new
  · have raised := step.raised M
    rw [now] at raised
    obtain ⟨h, before, le⟩ := raised.of_some_right
    exact le_trans (bounded r old M h mailbox before) le
  · obtain ⟨M', h'', mailbox', now', below⟩ := step.below r new
    obtain rfl := Option.some.inj (mailbox.symm.trans mailbox')
    obtain rfl := Option.some.inj (now.symm.trans now')
    exact below

theorem runAppends {db : State} (bounded : UidsBounded db) (calls : List AppendCall) :
    UidsBounded (runAppends db calls) := by
  induction calls generalizing db with
  | nil => exact bounded
  | cons call calls ih => exact ih (bounded.step (call.steps db).1)

/-- A UID taken from `highest_uid` lies above every uid its mailbox held. -/
theorem fresh_above {db db' : State} {added : List MessageRow} (bounded : UidsBounded db)
    (step : UidStep db db' added true) :
    ∀ r ∈ added, ∀ r' ∈ db.messages, r'.mailboxId = r.mailboxId → r'.uid < r.uid := by
  intro r new r' old same
  obtain ⟨M, h, mailbox, before, above⟩ := step.above rfl r new
  exact lt_of_le_of_lt (bounded r' old M h (same.trans mailbox) before) above

end UidsBounded

/-- Over every serial history from a state whose uids are bounded by their mailbox's
`highest_uid`: the bound still holds; no `highest_uid` has gone down since any earlier point
of the history; and the next call, when it takes its UIDs from `highest_uid`, assigns them in
increasing order, each above every uid its mailbox held at any point so far. -/
theorem uid_allocation_monotone_and_fresh {db₀ : State} (bounded : UidsBounded db₀)
    (calls : List AppendCall) (call : AppendCall) :
    let db := runAppends db₀ calls
    UidsBounded db ∧
      (∀ pre, pre <+: calls → ∀ M h, (runAppends db₀ pre).highestUid? M = some h →
        ∃ h', db.highestUid? M = some h' ∧ h ≤ h') ∧
      (call.allocatesFresh = true →
        ((call.added db).map (·.uid)).Pairwise (· < ·) ∧
          ∀ r ∈ call.added db, ∀ pre, pre <+: calls →
            ∀ r' ∈ (runAppends db₀ pre).messages, r'.mailboxId = r.mailboxId → r'.uid < r.uid) := by
  intro db
  have current := bounded.runAppends calls
  have step := (call.steps db).1
  refine ⟨current, fun pre earlier M h before => ?_, fun fresh => ⟨step.increasing fresh, ?_⟩⟩
  · have raised := (runAppends_earlier db₀ earlier).2 M
    rw [before] at raised
    exact raised.of_some_left
  · intro r new pre earlier r' old same
    exact current.fresh_above (fresh ▸ step) r new r'
      ((runAppends_earlier db₀ earlier).1.subset old) same

/-- Mailbox 1 holds the uploaded message with uid 1 and has `highest_uid = 1`; mailbox 2 is
empty. -/
def inboxAndArchive : State where
  mailboxes := [⟨1, 1, "INBOX", 1, 1⟩, ⟨2, 1, "Archive", 0, 1⟩]
  messages := [existingMessage]
  messageSequences := [⟨1, 1, 1⟩]
  messageContents := [⟨"h", some "", ""⟩]
  pendingUploads := []
  sieveScripts := []
  messageIdSeq := 1
  modseqSeq := 1
  scriptIdSeq := 0
  messages_id_unique := by decide
  sieveScripts_id_unique := List.nodup_nil

/-- An `APPEND` of `<n@example.com>` to mailbox 1, then a `COPY` of the new uid 2 to mailbox 2. -/
def appendThenCopy : List AppendCall :=
  [.insertMessage (appendOptions 1 "<n@example.com>" none) appendUpload 0,
    .copyMessages [2] 1 2 1 0]

/-- The next `APPEND`, of `<o@example.com>` to mailbox 1. -/
def nextAppend : AppendCall :=
  .insertMessage (appendOptions 1 "<o@example.com>" none) appendUpload 0

theorem inboxAndArchive_bounded : UidsBounded inboxAndArchive := by
  intro r member M h mailbox highest
  rw [List.mem_singleton.mp member] at mailbox ⊢
  obtain rfl : (1 : Int) = M := Option.some.inj mailbox
  obtain rfl : (1 : Int) = h := Option.some.inj highest
  exact le_refl _

/-- After the `APPEND` and the `COPY`, mailbox 1 holds uids 1 and 2 and mailbox 2 uid 1; the next
`APPEND` takes uid 3, above every uid mailbox 1 has held. -/
theorem uid_allocation_after_append_and_copy :
    UidsBounded inboxAndArchive ∧
      ((runAppends inboxAndArchive appendThenCopy).messages.map fun r => (r.mailboxId, r.uid)) =
        [(some 1, 1), (some 1, 2), (some 2, 1)] ∧
      ((nextAppend.added (runAppends inboxAndArchive appendThenCopy)).map
        fun r => (r.mailboxId, r.uid)) = [(some 1, 3)] ∧
      UidsBounded (runAppends inboxAndArchive appendThenCopy) ∧
      ∀ r ∈ nextAppend.added (runAppends inboxAndArchive appendThenCopy), ∀ pre,
        pre <+: appendThenCopy → ∀ r' ∈ (runAppends inboxAndArchive pre).messages,
          r'.mailboxId = r.mailboxId → r'.uid < r.uid :=
  have fresh := uid_allocation_monotone_and_fresh inboxAndArchive_bounded appendThenCopy nextAppend
  ⟨inboxAndArchive_bounded, by decide, by decide, fresh.1, (fresh.2.2 rfl).2⟩

/-! ### Pending uploads cover what is not uploaded -/

/-- Every message not yet uploaded has a pending upload for its content and account. -/
def UploadsCovered (db : State) : Prop :=
  ∀ r ∈ db.messages, r.uploaded = false →
    ∃ p ∈ db.pendingUploads, p.contentHash = r.contentHash ∧ p.accountId = r.accountId

namespace UploadsCovered

theorem empty : UploadsCovered State.empty :=
  fun _ member => absurd member (List.not_mem_nil _)

theorem step {db db' : State} {added : List MessageRow} (covered : UploadsCovered db)
    (step : UploadStep db db' added) : UploadsCovered db' := by
  intro r member waiting
  rw [step.messages_eq, List.mem_append] at member
  rcases member with old | new
  · obtain ⟨p, queued, same⟩ := covered r old waiting
    exact ⟨p, step.queued queued, same⟩
  · rcases step.covered r new waiting with queued | ⟨s, old, waiting', hash, account⟩
    · exact queued
    · obtain ⟨p, queued, hash', account'⟩ := covered s old waiting'
      exact ⟨p, step.queued queued, hash'.trans hash, account'.trans account⟩

end UploadsCovered

/-- Over every serial history whose `InsertMessage` calls queue the upload of their own
content, every message not yet uploaded keeps a pending upload for its content and account. -/
theorem pending_uploads_cover_unuploaded {db₀ : State} (covered : UploadsCovered db₀)
    (calls : List AppendCall) (matching : ∀ call ∈ calls, call.UploadMatches) :
    UploadsCovered (runAppends db₀ calls) := by
  induction calls generalizing db₀ with
  | nil => exact covered
  | cons call calls ih =>
    exact ih (covered.step ((call.steps db₀).2 (matching call (List.mem_cons_self _ _))))
      fun call' listed => matching call' (List.mem_cons_of_mem _ listed)

theorem inboxAndArchive_covered : UploadsCovered inboxAndArchive :=
  fun r member waiting => absurd waiting (by rw [List.mem_singleton.mp member]; decide)

/-- The `APPEND` adds uid 2 not yet uploaded, with its pending upload; the `COPY` adds a second
row not yet uploaded, which that upload covers too. -/
theorem pending_upload_covers_appended_copy :
    UploadsCovered inboxAndArchive ∧ (∀ call ∈ appendThenCopy, call.UploadMatches) ∧
      ((runAppends inboxAndArchive appendThenCopy).messages.map
        fun r => (r.mailboxId, r.uid, r.uploaded)) =
        [(some 1, 1, true), (some 1, 2, false), (some 2, 1, false)] ∧
      ((runAppends inboxAndArchive appendThenCopy).pendingUploads.map
        fun p => (p.contentHash, p.accountId)) = [("h", 1)] ∧
      UploadsCovered (runAppends inboxAndArchive appendThenCopy) :=
  have matching : ∀ call ∈ appendThenCopy, call.UploadMatches := by
    simp [appendThenCopy, AppendCall.UploadMatches, appendUpload, appendOptions]
  ⟨inboxAndArchive_covered, matching, by decide, by decide,
    pending_uploads_cover_unuploaded inboxAndArchive_covered appendThenCopy matching⟩

end Sora.Db

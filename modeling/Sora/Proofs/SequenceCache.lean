import Sora.Db.SequenceTrigger
import Mathlib.Data.List.Dedup

/-
Module: Sora.Proofs.SequenceCache
Layer: Proofs
Purpose: The sequence cache of migration 000002 agrees with the live rows of every mailbox after
  every successful statement on `messages`. One turn of the trigger's loop replaces the rows of
  its mailbox by the `ROW_NUMBER()` rows of the live uids (`rebuildMailbox_eq_ok`); the loop does
  this for each affected mailbox and leaves the others alone (`maintain_filter`), and a mailbox
  outside the transition tables keeps its live uids (`liveUids_apply_of_not_mem`). So the
  invariant `SequencesAgree` holds after the bootstrap and is kept by every statement
  (`SequencesAgree.execMessages`, `SequencesAgree.runMessages`). The `ROW_NUMBER()` rows are
  then read back row by row: the row of a uid carries its rank among the live uids
  (`mem_sequenceRowsFor`), so the sequence numbers are `1..N` in uid order.
Trusted boundary: none beyond `Sora.Db.SequenceTrigger`.
Main exports: SequencesAgree, SequencesAgree.execMessages, SequencesAgree.runMessages,
  SequencesAgree.bootstrap, mem_sequenceRowsFor, execMessages_error_of_duplicate,
  message_sequences_match_live_uids
-/

namespace Sora.Db

/-! ### Rows of one mailbox -/

/-- Keeping the rows of `w` after the trigger's `DELETE` and `INSERT` for mailbox `v`. -/
theorem filter_rebuilt (rows : List SequenceRow) (messages : List MessageRow) (v w : Int) :
    (rows.filter (·.mailboxId != v) ++ sequenceRowsFor messages v).filter (·.mailboxId == w) =
      if w = v then sequenceRowsFor messages v else rows.filter (·.mailboxId == w) := by
  rw [List.filter_append, filter_sequenceRowsFor]
  by_cases same : w = v
  · subst w
    have kept : (rows.filter (·.mailboxId != v)).filter (·.mailboxId == v) = [] :=
      List.filter_eq_nil_iff.mpr fun r member => by simpa using (List.mem_filter.mp member).2
    rw [kept, if_pos rfl, if_pos rfl, List.nil_append]
  · have kept : (rows.filter (·.mailboxId != v)).filter (·.mailboxId == w) =
        rows.filter (·.mailboxId == w) := by
      rw [List.filter_filter]
      exact List.filter_congr fun r _ => by
        by_cases here : r.mailboxId = w <;> simp [here, same]
    rw [kept, if_neg same, if_neg same, List.append_nil]

/-- The trigger's loop rebuilds exactly the listed mailboxes. -/
theorem maintain_filter {vs : List Int} {db db' : State}
    (h : maintainMessageSequences vs db = .ok db') :
    db'.messages = db.messages ∧ db'.mailboxes = db.mailboxes ∧
      ∀ w, (w ∈ vs → (liveUids db.messages w).Nodup ∧
          db'.messageSequences.filter (·.mailboxId == w) = sequenceRowsFor db.messages w) ∧
        (w ∉ vs → db'.messageSequences.filter (·.mailboxId == w) =
          db.messageSequences.filter (·.mailboxId == w)) := by
  induction vs generalizing db with
  | nil =>
      cases h
      exact ⟨rfl, rfl, fun w => ⟨fun member => absurd member (List.not_mem_nil w), fun _ => rfl⟩⟩
  | cons v vs ih =>
      simp only [maintainMessageSequences] at h
      split at h
      · rename_i db₁ turn
        obtain ⟨rfl, nodup⟩ := rebuildMailbox_eq_ok turn
        obtain ⟨sameMessages, sameMailboxes, rest⟩ := ih h
        refine ⟨sameMessages, sameMailboxes, fun w => ⟨fun member => ?_, fun outside => ?_⟩⟩
        · by_cases later : w ∈ vs
          · exact (rest w).1 later
          · have first : w = v := by simpa [later] using member
            subst w
            rw [(rest v).2 later, filter_rebuilt, if_pos rfl]
            exact ⟨nodup, rfl⟩
        · simp only [List.mem_cons, not_or] at outside
          rw [(rest w).2 outside.2, filter_rebuilt, if_neg outside.1]
      · cases h

/-! ### The transition tables -/

theorem mem_affectedMailboxes {stmt : MessagesStatement} {messages : List MessageRow} {w : Int} :
    w ∈ stmt.affectedMailboxes messages ↔
      ∃ r ∈ stmt.newTable messages ++ stmt.oldTable messages, r.mailboxId = some w := by
  have tables : stmt.affectedMailboxes messages =
      MessagesStatement.distinctMailboxes (stmt.newTable messages ++ stmt.oldTable messages) := by
    cases stmt <;> simp [MessagesStatement.affectedMailboxes, MessagesStatement.newTable,
      MessagesStatement.oldTable]
  rw [tables, MessagesStatement.distinctMailboxes, List.mem_dedup, List.mem_filterMap]

/-- A mailbox outside the transition tables keeps its live uids. -/
theorem liveUids_apply_of_not_mem {stmt : MessagesStatement} {messages : List MessageRow}
    {w : Int} (outside : w ∉ stmt.affectedMailboxes messages) :
    liveUids (stmt.apply messages) w = liveUids messages w := by
  rw [mem_affectedMailboxes] at outside
  push_neg at outside
  have notLive : ∀ r ∈ stmt.newTable messages ++ stmt.oldTable messages,
      MessageRow.liveIn w r = false := fun r member => by
    simp [MessageRow.liveIn, outside r member]
  cases stmt with
  | insert rows =>
      have : rows.filter (MessageRow.liveIn w) = [] :=
        List.filter_eq_nil_iff.mpr fun r member => by
          simpa using notLive r (List.mem_append_left _ member)
      simp [liveUids, MessagesStatement.apply, List.filter_append, this]
  | update selected set =>
      have sameTest : ∀ r ∈ messages, MessageRow.liveIn w (if selected r then set r else r) =
          MessageRow.liveIn w r := fun r member => by
        by_cases chosen : selected r
        · rw [if_pos chosen,
            notLive (set r) (List.mem_append_left _
              (List.mem_map_of_mem set (List.mem_filter.mpr ⟨member, chosen⟩))),
            notLive r (List.mem_append_right _ (List.mem_filter.mpr ⟨member, chosen⟩))]
        · rw [if_neg chosen]
      have fixed : ∀ r ∈ messages.filter (MessageRow.liveIn w),
          (if selected r then set r else r) = r := fun r member => by
        rw [List.mem_filter] at member
        have unselected : selected r = false := by
          by_contra chosen
          rw [Bool.not_eq_false] at chosen
          have := notLive r (List.mem_append_right _ (List.mem_filter.mpr ⟨member.1, chosen⟩))
          rw [member.2] at this
          cases this
        rw [if_neg (by simp [unselected])]
      have sameFilter : messages.filter
          (MessageRow.liveIn w ∘ fun m => if selected m then set m else m) =
          messages.filter (MessageRow.liveIn w) :=
        List.filter_congr fun r member => sameTest r member
      simp only [liveUids, MessagesStatement.apply, List.filter_map]
      rw [sameFilter, List.map_congr_left fixed, List.map_id']
  | delete selected =>
      simp only [liveUids, MessagesStatement.apply, List.filter_filter]
      congr 1
      exact List.filter_congr fun r member => by
        by_cases chosen : selected r
        · have := notLive r (by simp [MessagesStatement.oldTable, member, chosen])
          simp [chosen, this]
        · simp [chosen]

/-! ### One statement -/

/-- What a successful statement on `messages` did: the table is the statement's result, each
mailbox in the transition tables has the `ROW_NUMBER()` rows of its live uids and those are
distinct, and every other mailbox keeps its rows. -/
theorem execMessages_eq_ok {db db' : State} {stmt : MessagesStatement}
    (h : execMessages db stmt = .ok db') :
    db'.messages = stmt.apply db.messages ∧
      ∀ w, (w ∈ stmt.affectedMailboxes db.messages → (liveUids db'.messages w).Nodup ∧
          db'.messageSequences.filter (·.mailboxId == w) = sequenceRowsFor db'.messages w) ∧
        (w ∉ stmt.affectedMailboxes db.messages →
          db'.messageSequences.filter (·.mailboxId == w) =
            db.messageSequences.filter (·.mailboxId == w)) := by
  simp only [execMessages] at h
  split at h
  · split at h
    · cases h
    · obtain ⟨sameMessages, -, rebuilt⟩ := maintain_filter h
      rw [sameMessages]
      exact ⟨rfl, rebuilt⟩
  · cases h

/-! ### The invariant -/

/-- The rows of `message_sequences` for mailbox `v` are, up to order, the `ROW_NUMBER()` rows of
its live uids, and those uids are distinct. -/
def SequencesAgreeAt (db : State) (v : Int) : Prop :=
  (liveUids db.messages v).Nodup ∧
    (db.messageSequences.filter (·.mailboxId == v)).Perm (sequenceRowsFor db.messages v)

/-- `SequencesAgreeAt` holds for every mailbox. -/
def SequencesAgree (db : State) : Prop :=
  ∀ v, SequencesAgreeAt db v

/-- The rows of mailbox `v` among the bootstrap's rows, one block per mailbox in `vs`. -/
theorem filter_flatMap_sequenceRowsFor (messages : List MessageRow) {vs : List Int}
    (distinct : vs.Nodup) (v : Int) :
    (vs.flatMap (sequenceRowsFor messages)).filter (·.mailboxId == v) =
      if v ∈ vs then sequenceRowsFor messages v else [] := by
  induction vs with
  | nil => rfl
  | cons w ws ih =>
      obtain ⟨fresh, distinct⟩ := List.nodup_cons.mp distinct
      rw [List.flatMap_cons, List.filter_append, filter_sequenceRowsFor, ih distinct]
      by_cases same : v = w
      · subst w
        simp [fresh]
      · simp [same]

theorem liveUids_eq_nil_of_not_mem {messages : List MessageRow} {v : Int}
    (outside : v ∉ liveMailboxes messages) : liveUids messages v = [] := by
  refine List.eq_nil_iff_forall_not_mem.mpr fun u member => outside ?_
  obtain ⟨r, live, -⟩ := List.mem_map.mp member
  obtain ⟨_, live⟩ := List.mem_filter.mp live
  simp only [MessageRow.liveIn, Bool.and_eq_true, beq_iff_eq, Option.isNone_iff_eq_none] at live
  simp only [liveMailboxes, List.mem_dedup, List.mem_filterMap]
  exact ⟨r, (List.mem_filter.mp ‹_›).1, by simp [live.1, live.2]⟩

namespace SequencesAgree

/-- The bootstrap `INSERT`, when it succeeds, establishes the invariant from any table. -/
theorem bootstrap {db db' : State} (h : bootstrapSequences db = .ok db') : SequencesAgree db' := by
  obtain ⟨rfl, keys⟩ := insertSequenceRows_eq_ok h
  have distinct : (liveMailboxes db.messages).Nodup := List.nodup_dedup _
  intro v
  simp only [SequencesAgreeAt, List.nil_append]
  rw [filter_flatMap_sequenceRowsFor _ distinct]
  split
  · refine ⟨nodup_liveUids_of_keys ?_, List.Perm.refl _⟩
    have block := (List.filter_sublist (p := (·.mailboxId == v))
      ((liveMailboxes db.messages).flatMap (sequenceRowsFor db.messages))).map
        fun r => (r.mailboxId, r.uid)
    rw [filter_flatMap_sequenceRowsFor _ distinct, if_pos ‹_›] at block
    exact keys.sublist block
  · rw [sequenceRowsFor, liveUids_eq_nil_of_not_mem ‹_›]
    exact ⟨List.nodup_nil, List.Perm.refl _⟩

/-- Every successful statement on `messages` keeps the invariant. -/
theorem execMessages {db db' : State} {stmt : MessagesStatement} (agree : SequencesAgree db)
    (h : execMessages db stmt = .ok db') : SequencesAgree db' := by
  obtain ⟨table, rows⟩ := execMessages_eq_ok h
  intro w
  by_cases touched : w ∈ stmt.affectedMailboxes db.messages
  · obtain ⟨nodup, rebuilt⟩ := (rows w).1 touched
    exact ⟨nodup, rebuilt ▸ List.Perm.refl _⟩
  · have same := liveUids_apply_of_not_mem touched
    rw [← table] at same
    refine ⟨same ▸ (agree w).1, ?_⟩
    rw [(rows w).2 touched, sequenceRowsFor_congr same]
    exact (agree w).2

/-- The invariant holds after every history of statements. -/
theorem runMessages {db : State} (agree : SequencesAgree db) :
    ∀ stmts, SequencesAgree (Sora.Db.runMessages db stmts)
  | [] => agree
  | stmt :: stmts => by
      rw [runMessages_cons]
      cases h : Sora.Db.execMessages db stmt with
      | ok db' => exact (agree.execMessages h).runMessages stmts
      | error _ => exact agree.runMessages stmts

end SequencesAgree

/-- Under the invariant, a statement that leaves two live rows of one mailbox with the same uid
fails: the trigger's `INSERT` breaks the primary key of `message_sequences`. -/
theorem execMessages_error_of_duplicate {db : State} {stmt : MessagesStatement} {v : Int}
    (agree : SequencesAgree db) (duplicate : ¬ (liveUids (stmt.apply db.messages) v).Nodup) :
    ∃ e, execMessages db stmt = .error e := by
  cases h : execMessages db stmt with
  | error e => exact ⟨e, rfl⟩
  | ok db' =>
      obtain ⟨table, rows⟩ := execMessages_eq_ok h
      by_cases touched : v ∈ stmt.affectedMailboxes db.messages
      · exact absurd (table ▸ ((rows v).1 touched).1) duplicate
      · exact absurd ((liveUids_apply_of_not_mem touched).symm ▸ (agree v).1) duplicate

/-! ### Reading the rows back -/

/-- The rank of `u` among `uids`: how many of them are at most `u`. Among distinct uids, `u` is
the `k`-th smallest exactly when its rank is `k`. -/
def uidRank (uids : List Int) (u : Int) : Int :=
  ((uids.filter (· ≤ u)).length : Int)

theorem uidRank_perm {uids uids' : List Int} (perm : uids.Perm uids') (u : Int) :
    uidRank uids u = uidRank uids' u := by
  simp only [uidRank, (perm.filter _).length_eq]

/-- A larger member has a larger rank. -/
theorem uidRank_lt_of_lt {uids : List Int} {u₁ u₂ : Int} (lt : u₁ < u₂) (member : u₂ ∈ uids) :
    uidRank uids u₁ < uidRank uids u₂ := by
  have sub := List.monotone_filter_right uids (p := (· ≤ u₁)) (q := (· ≤ u₂)) fun x below => by
    simp only [decide_eq_true_eq] at below ⊢
    exact below.trans lt.le
  have differ : uids.filter (· ≤ u₁) ≠ uids.filter (· ≤ u₂) := fun same => by
    have top : u₂ ∈ uids.filter (· ≤ u₂) := List.mem_filter.mpr ⟨member, by simp⟩
    rw [← same, List.mem_filter, decide_eq_true_eq] at top
    exact absurd top.2 (not_le.mpr lt)
  have shorter := lt_of_le_of_ne sub.length_le fun same => differ (sub.eq_of_length same)
  simp only [uidRank]
  exact_mod_cast shorter

/-- `ROW_NUMBER()` over a strictly increasing list gives each uid its rank. -/
theorem mem_numberRows {uids : List Int} (sorted : uids.Sorted (· < ·)) (v first : Int)
    (r : SequenceRow) :
    r ∈ numberRows v first uids ↔
      r.mailboxId = v ∧ r.uid ∈ uids ∧ r.seqnum = first - 1 + uidRank uids r.uid := by
  induction uids generalizing first with
  | nil => simp [numberRows]
  | cons a uids ih =>
      obtain ⟨above, sorted⟩ := List.sorted_cons.mp sorted
      have rankHead : uidRank (a :: uids) a = 1 := by
        have none : uids.filter (· ≤ a) = [] :=
          List.filter_eq_nil_iff.mpr fun b member => by simpa using above b member
        simp [uidRank, none]
      have rankTail : ∀ u ∈ uids, uidRank (a :: uids) u = 1 + uidRank uids u :=
        fun u member => by
          simp only [uidRank, List.filter_cons, decide_eq_true_eq, if_pos (above u member).le,
            List.length_cons]
          omega
      rw [numberRows, List.mem_cons, ih sorted]
      constructor
      · rintro (rfl | ⟨mailbox, member, seqnum⟩)
        · exact ⟨rfl, List.mem_cons_self _ _, by simp [rankHead]⟩
        · refine ⟨mailbox, List.mem_cons_of_mem _ member, ?_⟩
          rw [rankTail _ member, seqnum]
          omega
      · rintro ⟨mailbox, member, seqnum⟩
        rcases List.mem_cons.mp member with head | tail
        · left
          obtain ⟨w, u, k⟩ := r
          simp only at mailbox head seqnum
          subst mailbox head
          simp [seqnum, rankHead]
        · right
          refine ⟨mailbox, tail, ?_⟩
          rw [seqnum, rankTail _ tail]
          omega

/-- The `ROW_NUMBER()` rows of a mailbox with distinct live uids give each its rank. -/
theorem mem_sequenceRowsFor {messages : List MessageRow} {v : Int}
    (nodup : (liveUids messages v).Nodup) (r : SequenceRow) :
    r ∈ sequenceRowsFor messages v ↔
      r.mailboxId = v ∧ r.uid ∈ liveUids messages v ∧
        r.seqnum = uidRank (liveUids messages v) r.uid := by
  have perm := List.perm_insertionSort (· ≤ ·) (liveUids messages v)
  have sorted := (List.sorted_insertionSort (· ≤ ·) (liveUids messages v)).lt_of_le
    (perm.nodup_iff.mpr nodup)
  rw [sequenceRowsFor, mem_numberRows sorted, perm.mem_iff, uidRank_perm perm]
  simp

theorem nodup_sequenceRowsFor {messages : List MessageRow} {v : Int}
    (nodup : (liveUids messages v).Nodup) : (sequenceRowsFor messages v).Nodup := by
  refine List.Nodup.of_map SequenceRow.uid ?_
  rw [sequenceRowsFor, numberRows_map_uid]
  exact (List.perm_insertionSort _ _).nodup_iff.mpr nodup

theorem numberRows_map_seqnum (v first : Int) (uids : List Int) :
    (numberRows v first uids).map SequenceRow.seqnum =
      (List.range uids.length).map fun (i : Nat) => (i : Int) + first := by
  induction uids generalizing first with
  | nil => rfl
  | cons a uids ih =>
      rw [numberRows, List.map_cons, ih, List.length_cons, List.range_succ_eq_map]
      simp only [List.map_cons, List.map_map, Nat.cast_zero, zero_add, Function.comp_def,
        Nat.cast_succ, List.cons.injEq, true_and]
      exact List.map_congr_left fun i _ => by omega

/-- What `message_sequences` holds for mailbox `v`, row by row: its rows are distinct and are
exactly the `(v, u, k)` with `u` the `k`-th smallest live uid of `v`. -/
def SequencesExactAt (db : State) (v : Int) : Prop :=
  (db.messageSequences.filter (·.mailboxId == v)).Nodup ∧
    ∀ u k, (⟨v, u, k⟩ : SequenceRow) ∈ db.messageSequences ↔
      u ∈ liveUids db.messages v ∧ k = uidRank (liveUids db.messages v) u

theorem SequencesAgreeAt.exact {db : State} {v : Int} (agree : SequencesAgreeAt db v) :
    SequencesExactAt db v := by
  obtain ⟨nodup, perm⟩ := agree
  refine ⟨perm.nodup_iff.mpr (nodup_sequenceRowsFor nodup), fun u k => ?_⟩
  have inFilter : (⟨v, u, k⟩ : SequenceRow) ∈ db.messageSequences ↔
      ⟨v, u, k⟩ ∈ db.messageSequences.filter (·.mailboxId == v) := by
    simp [List.mem_filter]
  rw [inFilter, perm.mem_iff, mem_sequenceRowsFor nodup]
  simp

/-- The sequence numbers of mailbox `v` are `1..N`, once each, for `N` live messages. -/
theorem SequencesAgreeAt.seqnums {db : State} {v : Int} (agree : SequencesAgreeAt db v) :
    ((db.messageSequences.filter (·.mailboxId == v)).map SequenceRow.seqnum).Perm
      ((List.range (liveUids db.messages v).length).map fun (i : Nat) => (i : Int) + 1) := by
  have numbered := agree.2.map SequenceRow.seqnum
  rwa [sequenceRowsFor, numberRows_map_seqnum, List.length_insertionSort] at numbered

/-- Starting from the migration's bootstrap, after every history of statements on `messages`
the sequence rows of every mailbox are exactly its live uids numbered `1..N` in uid order; the
next statement keeps the rows of the mailboxes outside its transition tables, and fails when it
would leave two live rows of a mailbox with one uid. -/
theorem message_sequences_match_live_uids {db₀ db₁ : State}
    (boot : bootstrapSequences db₀ = .ok db₁) (stmts : List MessagesStatement) (v : Int) :
    let db := runMessages db₁ stmts
    SequencesExactAt db v ∧
      ((db.messageSequences.filter (·.mailboxId == v)).map SequenceRow.seqnum).Perm
        ((List.range (liveUids db.messages v).length).map fun (i : Nat) => (i : Int) + 1) ∧
      (∀ u₁ u₂ k₁ k₂, (⟨v, u₁, k₁⟩ : SequenceRow) ∈ db.messageSequences →
        (⟨v, u₂, k₂⟩ : SequenceRow) ∈ db.messageSequences → u₁ < u₂ → k₁ < k₂) ∧
      (∀ stmt db', execMessages db stmt = .ok db' →
        v ∉ stmt.affectedMailboxes db.messages →
          db'.messageSequences.filter (·.mailboxId == v) =
            db.messageSequences.filter (·.mailboxId == v)) ∧
      (∀ stmt, ¬ (liveUids (stmt.apply db.messages) v).Nodup →
        ∃ e, execMessages db stmt = .error e) := by
  intro db
  have agree : SequencesAgree db := (SequencesAgree.bootstrap boot).runMessages stmts
  obtain ⟨_, rows⟩ := (agree v).exact
  refine ⟨(agree v).exact, (agree v).seqnums, fun u₁ u₂ k₁ k₂ first second lt => ?_,
    fun stmt db' h outside => ((execMessages_eq_ok h).2 v).2 outside,
    fun stmt duplicate => execMessages_error_of_duplicate agree duplicate⟩
  obtain ⟨-, rfl⟩ := (rows u₁ k₁).mp first
  obtain ⟨member, rfl⟩ := (rows u₂ k₂).mp second
  exact uidRank_lt_of_lt lt member

/-- A live message of account 1, row `id` of mailbox 1 with the uid `uid`. -/
def inboxRow (id uid : Int) : MessageRow :=
  ⟨id, 1, some 1, "INBOX", uid, "<" ++ toString id ++ "@example.com>", "h", 0, [], 0, 10,
    ⟨"", "", 0, "", "", "", "", "", "", "", "", ""⟩, true, 1, none, none⟩

/-- Mailboxes 1 and 2; mailbox 1 holds uids 7 and 3, in that table order. The migration has not
run yet. -/
def twoMailboxes : State where
  mailboxes := [⟨1, 1, "INBOX", 9, 1⟩, ⟨2, 1, "Archive", 1, 1⟩]
  messages := [inboxRow 1 7, inboxRow 2 3]
  messageSequences := []
  messageContents := []
  pendingUploads := []
  sieveScripts := []
  messageIdSeq := 2
  modseqSeq := 2
  scriptIdSeq := 0
  messages_id_unique := by decide
  sieveScripts_id_unique := List.nodup_nil

/-- The state the bootstrap leaves: uid 3 is first and uid 7 second. -/
def twoMailboxesBooted : State :=
  { twoMailboxes with messageSequences := [⟨1, 3, 1⟩, ⟨1, 7, 2⟩] }

/-- Two messages arrive in mailbox 1, a third with a uid already live there is refused, uid 3 is
expunged, and uid 7 moves to mailbox 2 as uid 1. -/
def inboxStatements : List MessagesStatement :=
  [.insert [inboxRow 3 5, inboxRow 4 9], .insert [inboxRow 5 5],
    .update (·.id == 2) fun m => { m with expungedAt := some 0 },
    .update (·.id == 1) fun m => { m with mailboxId := some 2, uid := 1 }]

/-- After those statements mailbox 1 is numbered 1, 2 over uids 5, 9 and mailbox 2 holds uid 1. -/
theorem message_sequences_renumbered_by_statements :
    bootstrapSequences twoMailboxes = .ok twoMailboxesBooted ∧
      (runMessages twoMailboxesBooted inboxStatements).messageSequences =
        [⟨2, 1, 1⟩, ⟨1, 5, 1⟩, ⟨1, 9, 2⟩] ∧
      SequencesExactAt (runMessages twoMailboxesBooted inboxStatements) 1 ∧
      SequencesExactAt (runMessages twoMailboxesBooted inboxStatements) 2 :=
  have boot : bootstrapSequences twoMailboxes = .ok twoMailboxesBooted := rfl
  ⟨boot, by decide, (message_sequences_match_live_uids boot inboxStatements 1).1,
    (message_sequences_match_live_uids boot inboxStatements 2).1⟩

end Sora.Db

import Sora.Proofs.ConnectionLimiter

/-
Module: Sora.Proofs.SequentialLimiter
Purpose: What `ConnectionLimiter` keeps when each call returns before the next one starts.
  `currentTotal` is the number of live connections; a key has an entry in `perIPConnections`
  exactly when it has live connections counted per IP, and the entry is their number; `Accept`
  succeeds exactly when both limits allow it by these counts. Whether a connection is counted per
  IP is decided from its address, while its count is filed under its key: a trusted
  `*net.TCPAddr` and an address text with no port file under the same key, and only the second
  is counted.
Trusted boundary: `Sora.Server.ConnectionLimiter`.
Main exports: Thread.run_accept, Thread.run_release, Settled, Settled.accept, Settled.release,
  Settled.cleanup, Settled.accept_live, Settled.calls, sequential_counts_exact
-/

namespace Sora.Server

open Sora.Db (Bytes)
open Sora.ManageSieve (utf8)

variable {κ : Type}

/-! ### One call, run to its return -/

section OneCall

variable [DecidableEq κ]

/-- `Accept`, from its call to its return with no other goroutine moving: refused at the total
limit; for a connection counted per IP, refused at its key's limit, and otherwise given the
key's counter, created when the key has no entry; otherwise accepted with no counter. -/
theorem Thread.run_accept (cfg : Config) (ip : κ) (trusted : Bool) (sh : Shared κ) :
    Thread.run cfg ip trusted 6 .start sh =
      if 0 < cfg.maxConnections ∧ cfg.maxConnections ≤ sh.currentTotal then (.refused, sh)
      else if cfg.tracks trusted then
        match sh.perIPConnections.lookup ip with
        | some ref =>
          if cfg.maxPerIP ≤ sh.counter ref then (.refused, sh)
          else (.accepted (some ref),
            Shared.addCounter { sh with currentTotal := sh.currentTotal + 1 } ref 1)
        | none =>
          (.accepted (some sh.counters.length), Shared.addCounter
            ⟨sh.currentTotal + 1, (ip, sh.counters.length) :: sh.perIPConnections,
              sh.counters ++ [0]⟩ sh.counters.length 1)
      else (.accepted none, { sh with currentTotal := sh.currentTotal + 1 }) := by
  by_cases full : 0 < cfg.maxConnections ∧ cfg.maxConnections ≤ sh.currentTotal
  · simp [Thread.run, Thread.step, Pc.returned, full]
  by_cases tracked : cfg.tracks trusted = true
  · cases found : sh.perIPConnections.lookup ip with
    | none => simp [Thread.run, Thread.step, Pc.returned, full, tracked, found]
    | some ref =>
      by_cases over : cfg.maxPerIP ≤ sh.counter ref <;>
        simp [Thread.run, Thread.step, Pc.returned, full, tracked, found, over]
  · simp [Thread.run, Thread.step, Pc.returned, full, tracked]

/-- The release function, from its call to its return: `currentTotal` comes down by one, and
so does the connection's counter, whose key's entry is deleted when it reads zero. -/
theorem Thread.run_release (cfg : Config) (ip : κ) (trusted : Bool) (counter : Option Nat)
    (sh : Shared κ) :
    Thread.run cfg ip trusted 3 (.releaseTotal counter) sh =
      (.released, match counter with
        | none => { sh with currentTotal := sh.currentTotal - 1 }
        | some ref =>
          let down := Shared.addCounter { sh with currentTotal := sh.currentTotal - 1 } ref (-1)
          if down.counter ref ≤ 0 then
            { down with perIPConnections := down.perIPConnections.filter (·.1 != ip) }
          else down) := by
  cases counter with
  | none => simp [Thread.run, Thread.step, Pc.returned]
  | some ref =>
    dsimp only
    split_ifs with low <;> simp [Thread.run, Thread.step, Pc.returned, low]

end OneCall

/-! ### Live connections and counters -/

@[simp] theorem Pc.live_released : Pc.released.live = false := rfl

@[simp] theorem Limiter.liveCount_snoc (l : Limiter κ) (sh : Shared κ) (t : Thread κ) :
    (⟨sh, l.threads ++ [t]⟩ : Limiter κ).liveCount = l.liveCount + t.pc.live.toNat := by
  simp [Limiter.liveCount, List.countP_append]; rfl

theorem Limiter.liveCount_set (l : Limiter κ) (sh : Shared κ) {i : Nat}
    (hi : i < l.threads.length) (t : Thread κ) :
    (⟨sh, l.threads.set i t⟩ : Limiter κ).liveCount + l.threads[i].pc.live.toNat =
      l.liveCount + t.pc.live.toNat :=
  countP_set_add _ hi t

theorem Limiter.liveCount_released {l : Limiter κ} {i : Nat} (hi : i < l.threads.length)
    (live : l.threads[i].pc.live) (sh : Shared κ) :
    (⟨sh, l.threads.set i ⟨l.threads[i].ip, l.threads[i].trusted, .released⟩⟩ :
        Limiter κ).liveCount =
      l.liveCount - 1 := by
  have := Limiter.liveCount_set l sh hi ⟨l.threads[i].ip, l.threads[i].trusted, .released⟩
  simp only [live, Pc.live_released, Bool.toNat_true, Bool.toNat_false, add_zero] at this
  omega

@[simp] theorem Shared.perIPConnections_addCounter (sh : Shared κ) (ref : Nat) (delta : Int) :
    (sh.addCounter ref delta).perIPConnections = sh.perIPConnections := rfl

@[simp] theorem Shared.currentTotal_addCounter (sh : Shared κ) (ref : Nat) (delta : Int) :
    (sh.addCounter ref delta).currentTotal = sh.currentTotal := rfl

@[simp] theorem Shared.addCounter_withTotal (sh : Shared κ) (total : Int) (ref : Nat)
    (delta : Int) :
    Shared.addCounter { sh with currentTotal := total } ref delta =
      { sh.addCounter ref delta with currentTotal := total } := rfl

theorem Shared.counter_of_length_le (sh : Shared κ) {ref : Nat} (h : sh.counters.length ≤ ref) :
    sh.counter ref = 0 := by
  simp [Shared.counter, List.getD_eq_getElem?_getD, List.getElem?_eq_none h]

variable [DecidableEq κ]

@[simp] theorem Limiter.liveTracked_snoc (cfg : Config) (l : Limiter κ) (sh : Shared κ)
    (t : Thread κ) (ip : κ) :
    (⟨sh, l.threads ++ [t]⟩ : Limiter κ).liveTracked cfg ip =
      l.liveTracked cfg ip + (t.ip == ip && t.pc.live && cfg.tracks t.trusted).toNat := by
  simp [Limiter.liveTracked, List.countP_append]; rfl

theorem Limiter.liveTracked_set (cfg : Config) (l : Limiter κ) (sh : Shared κ) {i : Nat}
    (hi : i < l.threads.length) (t : Thread κ) (ip : κ) :
    (⟨sh, l.threads.set i t⟩ : Limiter κ).liveTracked cfg ip +
        (l.threads[i].ip == ip && l.threads[i].pc.live && cfg.tracks l.threads[i].trusted).toNat =
      l.liveTracked cfg ip + (t.ip == ip && t.pc.live && cfg.tracks t.trusted).toNat :=
  countP_set_add _ hi t

theorem Limiter.liveTracked_released (cfg : Config) {l : Limiter κ} {i : Nat}
    (hi : i < l.threads.length) (live : l.threads[i].pc.live) (sh : Shared κ) (k : κ) :
    (⟨sh, l.threads.set i ⟨l.threads[i].ip, l.threads[i].trusted, .released⟩⟩ :
        Limiter κ).liveTracked cfg k =
      l.liveTracked cfg k - (l.threads[i].ip == k && cfg.tracks l.threads[i].trusted).toNat := by
  have :=
    Limiter.liveTracked_set cfg l sh hi ⟨l.threads[i].ip, l.threads[i].trusted, .released⟩ k
  simp only [live, Pc.live_released, Bool.and_true, Bool.false_and, Bool.and_false,
    Bool.toNat_false, add_zero] at this
  omega

theorem Limiter.liveTracked_pos {cfg : Config} {l : Limiter κ} {t : Thread κ}
    (ht : t ∈ l.threads)
    (live : t.pc.live) (tracked : cfg.tracks t.trusted) : 0 < l.liveTracked cfg t.ip :=
  List.countP_pos_iff.mpr ⟨t, ht, by simp [live, tracked]⟩

/-! ### The map and its counters -/

theorem lookup_cons_pair (map : List (κ × Nat)) (k k' : κ) (r : Nat) :
    ((k', r) :: map).lookup k = if k = k' then some r else map.lookup k := by
  by_cases hk : k = k'
  · simp [hk]
  · simp [List.lookup_cons, beq_false_of_ne hk, hk]

theorem lookup_filter_of_found (map : List (κ × Nat)) (p : κ × Nat → Bool) (k : κ)
    (found : ∀ r, map.lookup k = some r → p (k, r)) :
    (map.filter p).lookup k = map.lookup k := by
  induction map with
  | nil => rfl
  | cons e map ih =>
    obtain ⟨k', r'⟩ := e
    simp only [lookup_cons_pair] at found ⊢
    by_cases hk : k = k'
    · subst hk
      simp [List.filter_cons, found r' (by simp)]
    · simp only [hk, ↓reduceIte] at found ⊢
      simp only [List.filter_cons]
      split <;> simp [lookup_cons_pair, hk, ih found]

theorem lookup_filter_key (map : List (κ × Nat)) (ip k : κ) :
    (map.filter (·.1 != ip)).lookup k = if k = ip then none else map.lookup k := by
  split_ifs with hk
  · subst hk
    exact List.lookup_eq_none_iff.mpr fun p hp =>
      bne_iff_ne.mpr (Ne.symm (bne_iff_ne.mp (List.mem_filter.mp hp).2))
  · exact lookup_filter_of_found map _ k fun _ _ => by simpa using hk

@[simp] theorem Shared.entry_withTotal (sh : Shared κ) (total : Int) (k : κ) :
    ({ sh with currentTotal := total } : Shared κ).entry k = sh.entry k := rfl

/-- Adding to the counter of one key's entry moves that key's entry and no other, when entries
have distinct, allocated counters. -/
theorem Shared.entry_addCounter {sh : Shared κ} {ip : κ} {ref : Nat}
    (distinct : ∀ ip ip' ref, sh.perIPConnections.lookup ip = some ref →
      sh.perIPConnections.lookup ip' = some ref → ip = ip')
    (found : sh.perIPConnections.lookup ip = some ref) (alloc : ref < sh.counters.length)
    (delta : Int) (k : κ) :
    (sh.addCounter ref delta).entry k = (sh.entry k).map (· + if k = ip then delta else 0) := by
  simp only [Shared.entry, Shared.perIPConnections_addCounter]
  cases hk : sh.perIPConnections.lookup k with
  | none => rfl
  | some r =>
    have same : ref = r ↔ k = ip :=
      ⟨fun h => distinct k ip r hk (h ▸ found), fun h => by subst h; simpa [found] using hk⟩
    simp [Shared.counter_addCounter alloc, same]

/-- A fresh entry for `ip`, whose new counter has been added 1, reads 1; no other entry moves. -/
theorem Shared.entry_fresh {sh : Shared κ}
    (alloc : ∀ ip ref, sh.perIPConnections.lookup ip = some ref → ref < sh.counters.length)
    (total : Int) (ip k : κ) :
    (Shared.addCounter
        ⟨total, (ip, sh.counters.length) :: sh.perIPConnections, sh.counters ++ [0]⟩
        sh.counters.length 1).entry k = if k = ip then some 1 else sh.entry k := by
  have grown : sh.counters.length < (⟨total, (ip, sh.counters.length) :: sh.perIPConnections,
      sh.counters ++ [0]⟩ : Shared κ).counters.length := by simp
  simp only [Shared.entry, Shared.perIPConnections_addCounter, lookup_cons_pair]
  split_ifs with hk
  · simp [Shared.counter_addCounter grown, Shared.counter_append_zero,
      sh.counter_of_length_le le_rfl]
  · cases hl : sh.perIPConnections.lookup k with
    | none => rfl
    | some r =>
      simp [Shared.counter_addCounter grown, Shared.counter_append_zero,
        (alloc k r hl).ne']

/-- Deleting a key's entry. -/
theorem Shared.entry_filter_key (sh : Shared κ) (ip k : κ) :
    ({ sh with perIPConnections := sh.perIPConnections.filter (·.1 != ip) } : Shared κ).entry k =
      if k = ip then none else sh.entry k := by
  simp only [Shared.entry, lookup_filter_key]
  split_ifs <;> rfl

/-! ### Between two calls -/

/-- What holds between two calls: `currentTotal` counts the live connections; each key's entry
is the number of its live connections counted per IP, and there is an entry exactly when that
number is positive; a live connection counted per IP holds the counter of its key's entry, and
an uncounted one holds none; entries have distinct, allocated counters. -/
structure Settled (cfg : Config) (l : Limiter κ) : Prop where
  total : l.shared.currentTotal = l.liveCount
  entry : ∀ ip, l.shared.entry ip =
    if 0 < l.liveTracked cfg ip then some (l.liveTracked cfg ip : Int) else none
  holds : ∀ t ∈ l.threads, ∀ c, t.pc = .accepted c →
    c = if cfg.tracks t.trusted then l.shared.perIPConnections.lookup t.ip else none
  distinct : ∀ ip ip' ref, l.shared.perIPConnections.lookup ip = some ref →
    l.shared.perIPConnections.lookup ip' = some ref → ip = ip'
  allocated : ∀ ip ref, l.shared.perIPConnections.lookup ip = some ref →
    ref < l.shared.counters.length

namespace Settled

variable {cfg : Config} {l : Limiter κ}

theorem found (inv : Settled cfg l) {ip : κ} {ref : Nat}
    (h : l.shared.perIPConnections.lookup ip = some ref) :
    l.shared.counter ref = l.liveTracked cfg ip ∧ 0 < l.liveTracked cfg ip := by
  have := inv.entry ip
  simp only [Shared.entry, h, Option.map_some'] at this
  split_ifs at this with pos
  exact ⟨Option.some_injective _ this, pos⟩

theorem missing (inv : Settled cfg l) {ip : κ} (h : l.shared.perIPConnections.lookup ip = none) :
    l.liveTracked cfg ip = 0 := by
  have := inv.entry ip
  simp only [Shared.entry, h, Option.map_none'] at this
  split_ifs at this with pos
  omega

/-- An `Accept` that returned an error. -/
theorem refuse (inv : Settled cfg l) (ip : κ) (trusted : Bool) :
    Settled cfg ⟨l.shared, l.threads ++ [⟨ip, trusted, .refused⟩]⟩ where
  total := by simp [inv.total, Pc.live]
  entry k := by simpa [Pc.live] using inv.entry k
  holds t ht c hc := by
    rcases List.mem_append.mp ht with old | new
    · exact inv.holds t old c hc
    · simp only [List.mem_singleton] at new; subst new; cases hc
  distinct := inv.distinct
  allocated := inv.allocated

/-- An `Accept` of a connection not counted per IP. -/
theorem admitUntracked (inv : Settled cfg l) (ip : κ) {trusted : Bool}
    (untracked : cfg.tracks trusted = false) :
    Settled cfg ⟨{ l.shared with currentTotal := l.shared.currentTotal + 1 },
      l.threads ++ [⟨ip, trusted, .accepted none⟩]⟩ where
  total := by simp [inv.total, Pc.live]
  entry k := by simpa [untracked] using inv.entry k
  holds t ht c hc := by
    rcases List.mem_append.mp ht with old | new
    · exact inv.holds t old c hc
    · simp only [List.mem_singleton] at new; subst new; cases hc; simp [untracked]
  distinct := inv.distinct
  allocated := inv.allocated

/-- An `Accept` counted per IP whose key has an entry. -/
theorem admitExisting (inv : Settled cfg l) {ip : κ} {trusted : Bool}
    (tracked : cfg.tracks trusted = true) {ref : Nat}
    (found : l.shared.perIPConnections.lookup ip = some ref) :
    Settled cfg
      ⟨Shared.addCounter { l.shared with currentTotal := l.shared.currentTotal + 1 } ref 1,
      l.threads ++ [⟨ip, trusted, .accepted (some ref)⟩]⟩ where
  total := by simp [inv.total, Pc.live]
  entry k := by
    simp only [Shared.addCounter_withTotal, Shared.entry_withTotal,
      Shared.entry_addCounter inv.distinct found (inv.allocated ip ref found), inv.entry k,
      Limiter.liveTracked_snoc]
    by_cases hk : k = ip
    · subst hk
      simp [(inv.found found).2, tracked, Pc.live]
    · simp [hk, beq_false_of_ne (Ne.symm hk)]
  holds t ht c hc := by
    rcases List.mem_append.mp ht with old | new
    · exact inv.holds t old c hc
    · simp only [List.mem_singleton] at new; subst new; cases hc; simp [tracked, found]
  distinct := inv.distinct
  allocated := by simpa using inv.allocated

/-- An `Accept` counted per IP whose key has no entry. -/
theorem admitNew (inv : Settled cfg l) {ip : κ} {trusted : Bool}
    (tracked : cfg.tracks trusted = true)
    (missing : l.shared.perIPConnections.lookup ip = none) :
    Settled cfg ⟨Shared.addCounter ⟨l.shared.currentTotal + 1,
        (ip, l.shared.counters.length) :: l.shared.perIPConnections, l.shared.counters ++ [0]⟩
        l.shared.counters.length 1,
      l.threads ++ [⟨ip, trusted, .accepted (some l.shared.counters.length)⟩]⟩ where
  total := by simp [inv.total, Pc.live]
  entry k := by
    rw [Shared.entry_fresh inv.allocated, Limiter.liveTracked_snoc]
    by_cases hk : k = ip
    · subst hk
      simp [inv.missing missing, tracked, Pc.live]
    · simp [hk, beq_false_of_ne (Ne.symm hk), inv.entry k]
  holds t ht c hc := by
    rcases List.mem_append.mp ht with old | new
    · have before := inv.holds t old c hc
      simp only [Shared.perIPConnections_addCounter, lookup_cons_pair]
      split_ifs at before ⊢ with tr same
      · have := Limiter.liveTracked_pos old (by simp [hc, Pc.live]) tr
        rw [same, inv.missing missing] at this
        cases this
      · exact before
      · exact before
    · simp only [List.mem_singleton] at new; subst new; cases hc; simp [tracked]
  distinct k k' r := by
    simp only [Shared.perIPConnections_addCounter, lookup_cons_pair]
    have fresh := fun k r h => (inv.allocated k r h).ne'
    split_ifs with hk hk' hk'
    · exact fun _ _ => hk.trans hk'.symm
    · intro h h'; cases h; exact absurd rfl (fresh k' _ h')
    · intro h h'; cases h'; exact absurd rfl (fresh k _ h)
    · exact inv.distinct k k' r
  allocated k r := by
    simp only [Shared.perIPConnections_addCounter, lookup_cons_pair, Shared.addCounter_length,
      List.length_append, List.length_singleton]
    split_ifs
    · intro h; cases h; omega
    · intro h; have := inv.allocated k r h; omega

/-- An `Accept`, run to its return. -/
theorem accept (inv : Settled cfg l) (ip : κ) (trusted : Bool) :
    Settled cfg ⟨(Thread.run cfg ip trusted 6 .start l.shared).2,
      l.threads ++ [⟨ip, trusted, (Thread.run cfg ip trusted 6 .start l.shared).1⟩]⟩ := by
  rw [Thread.run_accept]
  split_ifs with full tracked
  · exact inv.refuse ip trusted
  · cases found : l.shared.perIPConnections.lookup ip with
    | none => exact inv.admitNew tracked found
    | some ref =>
      simp only
      split_ifs
      · exact inv.refuse ip trusted
      · exact inv.admitExisting tracked found
  · exact inv.admitUntracked ip (by simpa using tracked)

/-- A release leaves `currentTotal` one lower and one connection fewer live. -/
theorem total_released (inv : Settled cfg l) {i : Nat} (hi : i < l.threads.length)
    (live : l.threads[i].pc.live) (sh : Shared κ)
    (lower : sh.currentTotal = l.shared.currentTotal - 1) :
    sh.currentTotal =
      (⟨sh, l.threads.set i ⟨l.threads[i].ip, l.threads[i].trusted, .released⟩⟩ :
        Limiter κ).liveCount := by
  have pos : 0 < l.liveCount := List.countP_pos_iff.mpr ⟨_, List.getElem_mem hi, live⟩
  rw [Limiter.liveCount_released hi live, lower, inv.total]
  omega

/-- The release function of a connection not counted per IP. -/
theorem releaseUntracked (inv : Settled cfg l) {i : Nat} (hi : i < l.threads.length)
    (accepted : l.threads[i].pc = .accepted none)
    (untracked : cfg.tracks l.threads[i].trusted = false) :
    Settled cfg ⟨{ l.shared with currentTotal := l.shared.currentTotal - 1 },
      l.threads.set i ⟨l.threads[i].ip, l.threads[i].trusted, .released⟩⟩ := by
  have live : l.threads[i].pc.live := by simp [accepted, Pc.live]
  refine ⟨?_, fun k => ?_, fun t ht c hc => ?_, inv.distinct, inv.allocated⟩
  · exact inv.total_released hi live _ rfl
  · rw [Limiter.liveTracked_released cfg hi live]
    simpa [untracked] using inv.entry k
  · rcases List.mem_or_eq_of_mem_set ht with old | rfl
    · exact inv.holds t old c hc
    · cases hc

/-- The release function's `Add(-1)` on the counter of the key `ip`'s entry: that entry reads
one less, and every other entry is as it was. -/
theorem entry_down (inv : Settled cfg l) {ip : κ} {ref : Nat}
    (found : l.shared.perIPConnections.lookup ip = some ref) (total : Int) (k : κ) :
    (Shared.addCounter { l.shared with currentTotal := total } ref (-1)).entry k =
      (l.shared.entry k).map (· + if k = ip then -1 else 0) := by
  simp only [Shared.addCounter_withTotal, Shared.entry_withTotal]
  exact Shared.entry_addCounter inv.distinct found (inv.allocated _ ref found) (-1) k

/-- The release function of a connection counted per IP whose key has other live connections:
the entry's counter comes down by one and the entry stays. -/
theorem releaseKept (inv : Settled cfg l) {i : Nat} (hi : i < l.threads.length) {ref : Nat}
    (accepted : l.threads[i].pc = .accepted (some ref))
    (tracked : cfg.tracks l.threads[i].trusted = true)
    (found : l.shared.perIPConnections.lookup l.threads[i].ip = some ref)
    (more : 1 < l.liveTracked cfg l.threads[i].ip) :
    Settled cfg
      ⟨Shared.addCounter { l.shared with currentTotal := l.shared.currentTotal - 1 } ref (-1),
        l.threads.set i ⟨l.threads[i].ip, l.threads[i].trusted, .released⟩⟩ := by
  have live : l.threads[i].pc.live := by simp [accepted, Pc.live]
  refine ⟨inv.total_released hi live _ rfl, fun k => ?_, fun t ht c hc => ?_, inv.distinct,
    fun k r h => (Shared.addCounter_length _ ref (-1)).symm ▸ inv.allocated k r h⟩
  · rw [inv.entry_down found, inv.entry k, Limiter.liveTracked_released cfg hi live]
    by_cases hk : k = l.threads[i].ip
    · simp [hk, tracked, more, (inv.found found).2]
      omega
    · simp [hk, beq_false_of_ne (Ne.symm hk)]
  · rcases List.mem_or_eq_of_mem_set ht with old | rfl
    · exact inv.holds t old c hc
    · cases hc

/-- The release function of the last live connection counted under its key: the entry's counter
comes down to zero and the entry is deleted. -/
theorem releaseLast (inv : Settled cfg l) {i : Nat} (hi : i < l.threads.length) {ref : Nat}
    (accepted : l.threads[i].pc = .accepted (some ref))
    (tracked : cfg.tracks l.threads[i].trusted = true)
    (found : l.shared.perIPConnections.lookup l.threads[i].ip = some ref)
    (last : l.liveTracked cfg l.threads[i].ip = 1) :
    let down :=
      Shared.addCounter { l.shared with currentTotal := l.shared.currentTotal - 1 } ref (-1)
    Settled cfg
      ⟨{ down with perIPConnections := down.perIPConnections.filter (·.1 != l.threads[i].ip) },
        l.threads.set i ⟨l.threads[i].ip, l.threads[i].trusted, .released⟩⟩ := by
  intro down
  have live : l.threads[i].pc.live := by simp [accepted, Pc.live]
  have downMap : down.perIPConnections = l.shared.perIPConnections := rfl
  have downEntry : ∀ k, down.entry k =
      (l.shared.entry k).map (· + if k = l.threads[i].ip then -1 else 0) := inv.entry_down found _
  refine ⟨inv.total_released hi live _ rfl, fun k => ?_, fun t ht c hc => ?_, fun k k' r => ?_,
    fun k r => ?_⟩
  · rw [Shared.entry_filter_key, Limiter.liveTracked_released cfg hi live]
    by_cases hk : k = l.threads[i].ip
    · simp [hk, last, tracked]
    · simp [hk, beq_false_of_ne (Ne.symm hk), downEntry, inv.entry k]
  · rcases List.mem_or_eq_of_mem_set ht with old | rfl
    · have before := inv.holds t old c hc
      simp only [lookup_filter_key, downMap]
      split_ifs at before ⊢ with tr same
      · have := Limiter.liveTracked_pos ht (by simp [hc, Pc.live]) tr
        rw [same, Limiter.liveTracked_released cfg hi live] at this
        simp [last, tracked] at this
      · exact before
      · exact before
    · cases hc
  · simp only [lookup_filter_key, downMap]
    split_ifs
    · simp
    · simp
    · simp
    · exact inv.distinct k k' r
  · simp only [lookup_filter_key, downMap, down, Shared.addCounter_length]
    split_ifs
    · simp
    · exact inv.allocated k r

/-- The release function of a connection counted per IP: the entry's counter comes down by one,
and the entry is deleted when it reads zero. -/
theorem releaseTracked (inv : Settled cfg l) {i : Nat} (hi : i < l.threads.length) {ref : Nat}
    (accepted : l.threads[i].pc = .accepted (some ref))
    (tracked : cfg.tracks l.threads[i].trusted = true)
    (found : l.shared.perIPConnections.lookup l.threads[i].ip = some ref) :
    let down :=
      Shared.addCounter { l.shared with currentTotal := l.shared.currentTotal - 1 } ref (-1)
    Settled cfg ⟨if down.counter ref ≤ 0 then
        { down with perIPConnections := down.perIPConnections.filter (·.1 != l.threads[i].ip) }
      else down, l.threads.set i ⟨l.threads[i].ip, l.threads[i].trusted, .released⟩⟩ := by
  intro down
  obtain ⟨counted, pos⟩ := inv.found found
  have downRef : down.counter ref = l.liveTracked cfg l.threads[i].ip - 1 := by
    have := @Shared.counter_addCounter κ
      { l.shared with currentTotal := l.shared.currentTotal - 1 } ref (inv.allocated _ ref found)
      (-1) ref
    rw [this, if_pos rfl, ← counted]
    rfl
  split_ifs with low
  · exact inv.releaseLast hi accepted tracked found (by omega)
  · exact inv.releaseKept hi accepted tracked found (by omega)

/-- A release function that `Accept` returned and nobody has called yet, run to its return. -/
theorem release (inv : Settled cfg l) {i : Nat} (hi : i < l.threads.length) {c : Option Nat}
    (accepted : l.threads[i].pc = .accepted c) :
    Settled cfg
      ⟨(Thread.run cfg l.threads[i].ip l.threads[i].trusted 3 (.releaseTotal c) l.shared).2,
        l.threads.set i ⟨l.threads[i].ip, l.threads[i].trusted,
          (Thread.run cfg l.threads[i].ip l.threads[i].trusted 3 (.releaseTotal c)
            l.shared).1⟩⟩ := by
  have holds := inv.holds _ (List.getElem_mem hi) c accepted
  rw [Thread.run_release]
  cases tracked : cfg.tracks l.threads[i].trusted
  · simp only [tracked, Bool.false_eq_true, ↓reduceIte] at holds
    subst holds
    exact inv.releaseUntracked hi accepted tracked
  · simp only [tracked, ↓reduceIte] at holds
    cases found : l.shared.perIPConnections.lookup l.threads[i].ip with
    | none =>
      have := Limiter.liveTracked_pos (List.getElem_mem hi) (by simp [accepted, Pc.live]) tracked
      rw [inv.missing found] at this
      cases this
    | some ref =>
      rw [found] at holds
      subst holds
      exact inv.releaseTracked hi accepted tracked found

theorem lookup_cleanup (inv : Settled cfg l) (k : κ) :
    l.shared.cleanup.perIPConnections.lookup k = l.shared.perIPConnections.lookup k :=
  lookup_filter_of_found _ _ k fun _ found => by
    simpa [(inv.found found).1] using (inv.found found).2

/-- `cleanup` deletes nothing: every entry's counter is positive. -/
theorem cleanup (inv : Settled cfg l) : Settled cfg { l with shared := l.shared.cleanup } where
  total := inv.total
  entry k := .trans (by simp only [Shared.entry, inv.lookup_cleanup k]; rfl) (inv.entry k)
  holds t ht c hc := by simpa only [inv.lookup_cleanup] using inv.holds t ht c hc
  distinct k k' r := by simpa only [inv.lookup_cleanup] using inv.distinct k k' r
  allocated k r := by simpa only [inv.lookup_cleanup] using inv.allocated k r

theorem empty : Settled cfg (Limiter.empty : Limiter κ) where
  total := rfl
  entry k := by simp [Limiter.empty, Shared.entry, Limiter.liveTracked]
  holds t ht := by simp [Limiter.empty] at ht
  distinct := by simp [Limiter.empty]
  allocated := by simp [Limiter.empty]

/-- `Accept` succeeds exactly when `currentTotal`, the number of live connections, is under
`maxConnections`, and, for a connection counted per IP, its key's counted live connections are
under `maxPerIP`. -/
theorem accept_live (inv : Settled cfg l) (ip : κ) (trusted : Bool) :
    (Thread.run cfg ip trusted 6 .start l.shared).1.live =
      (decide (cfg.maxConnections ≤ 0 ∨ (l.liveCount : Int) < cfg.maxConnections) &&
        decide (cfg.maxPerIP ≤ 0 ∨ trusted ∨
          (l.liveTracked cfg ip : Int) < cfg.maxPerIP)) := by
  have total := inv.total
  rw [Thread.run_accept]
  by_cases full : 0 < cfg.maxConnections ∧ cfg.maxConnections ≤ l.shared.currentTotal
  · simp only [full, and_self, ↓reduceIte, Pc.live]
    symm
    simp only [Bool.and_eq_false_iff, decide_eq_false_iff_not]
    omega
  have under : cfg.maxConnections ≤ 0 ∨ (l.liveCount : Int) < cfg.maxConnections := by omega
  simp only [full, ↓reduceIte, under, true_or, decide_True, Bool.true_and]
  cases tracked : cfg.tracks trusted
  · simp only [Config.tracks, Bool.and_eq_false_iff, decide_eq_false_iff_not, not_lt,
      Bool.not_eq_false'] at tracked
    simp only [Bool.false_eq_true, ↓reduceIte, Pc.live]
    symm
    simpa only [decide_eq_true_eq] using tracked.imp_right Or.inl
  · simp only [Config.tracks, Bool.and_eq_true, decide_eq_true_eq, Bool.not_eq_true'] at tracked
    cases found : l.shared.perIPConnections.lookup ip with
    | none => simp [Pc.live, tracked, inv.missing found]
    | some ref =>
      simp only [(inv.found found).1]
      split_ifs with over <;> simp [Pc.live, tracked] <;> omega

/-- One call on the limiter, run to its return. -/
theorem call {l : Limiter Bytes} (inv : Settled cfg l)
    (parseIP : Bytes → Option IP) (c : Call) : Settled cfg (l.call cfg parseIP c) := by
  cases c with
  | accept remoteAddr => exact inv.accept _ _
  | release conn =>
    simp only [Limiter.call, Limiter.release]
    split
    · rename_i t ht
      obtain ⟨hi, rfl⟩ := List.getElem?_eq_some_iff.mp ht
      split
      · exact inv.release hi ‹_›
      · exact inv
    · exact inv
  | cleanup => exact inv.cleanup
  | getStats => exact inv

theorem calls {l : Limiter Bytes} (inv : Settled cfg l)
    (parseIP : Bytes → Option IP) (calls : List Call) :
    Settled cfg (l.calls cfg parseIP calls) := by
  induction calls generalizing l with
  | nil => exact inv
  | cons c calls ih => exact ih (inv.call parseIP c)

end Settled

/-- Over every sequential run from a fresh limiter: `currentTotal` is the number of live
connections; a key has an entry exactly when it has live connections counted per IP, and the
entry is their number; and `Accept` succeeds exactly when the live total is under
`maxConnections` and, unless `isTrustedConnection` holds of the address, the connections counted
under its key are under `maxPerIP`. -/
theorem sequential_counts_exact (cfg : Config) (parseIP : Bytes → Option IP) (calls : List Call)
    (ip : Bytes) (remoteAddr : Addr) :
    let l := Limiter.calls cfg parseIP Limiter.empty calls
    l.shared.currentTotal = l.liveCount ∧
      l.shared.entry ip =
        (if 0 < l.liveTracked cfg ip then some (l.liveTracked cfg ip : Int) else none) ∧
      (l.accept cfg parseIP remoteAddr).1 =
        (decide (cfg.maxConnections ≤ 0 ∨ (l.liveCount : Int) < cfg.maxConnections) &&
          decide (cfg.maxPerIP ≤ 0 ∨ isTrustedConnection cfg parseIP remoteAddr = true ∨
            (l.liveTracked cfg (addrKey remoteAddr) : Int) < cfg.maxPerIP)) :=
  have inv := Settled.empty.calls parseIP calls
  ⟨inv.total, inv.entry ip, inv.accept_live _ _⟩

/-! ### Trust goes by address, counts by key -/

/-- The IP of a `*net.TCPAddr` or `*net.UDPAddr` is trusted when a trusted network contains it. -/
theorem isTrustedConnection_ipPort (cfg : Config) (parseIP : Bytes → Option IP) (ip : IP)
    (text : Bytes) :
    isTrustedConnection cfg parseIP (.ipPort ip text) =
      (!cfg.trustedNets.isEmpty && cfg.trustedNets.any (· ip)) := by
  cases h : cfg.trustedNets.isEmpty <;> simp [isTrustedConnection, h]

/-- Any other address whose text does not split into host and port is not trusted, whatever IP
its text names. -/
theorem isTrustedConnection_unsplit (cfg : Config) (parseIP : Bytes → Option IP) {text : Bytes}
    (unsplit : splitHostPort text = none) :
    isTrustedConnection cfg parseIP (.other text) = false := by
  simp [isTrustedConnection, unsplit]

/-- One connection per IP outside 10.0.0.0/8, and no limit in total. -/
def onePerIPOutsideTen : Config := ⟨0, 1, [fun ip => ip.head? == some 10]⟩

/-- A TCP connection from 10.0.0.1, port 1. -/
def tcpFromTen : Addr := .ipPort [10, 0, 0, 1] (utf8 "10.0.0.1:1")

/-- An address whose text is the IP 10.0.0.1 with no port. -/
def bareTen : Addr := .other (utf8 "10.0.0.1")

/-- A trusted connection from 10.0.0.1, then two from the bare address 10.0.0.1. -/
def mixedCalls : List Call := [.accept tcpFromTen, .accept bareTen, .accept bareTen]

/-- Both addresses are filed under the key 10.0.0.1, whose IP lies in the trusted network, but
only the TCP address is trusted. The first two `Accept`s succeed and the third is refused; the
key then has two live connections while its entry reads one. -/
theorem trust_follows_address_not_key (parseIP : Bytes → Option IP) :
    let l := Limiter.calls onePerIPOutsideTen parseIP Limiter.empty mixedCalls
    addrKey tcpFromTen = addrKey bareTen ∧
      onePerIPOutsideTen.trustedNets.any (· [10, 0, 0, 1]) = true ∧
      isTrustedConnection onePerIPOutsideTen parseIP tcpFromTen = true ∧
      isTrustedConnection onePerIPOutsideTen parseIP bareTen = false ∧
      l.threads.map (·.pc.live) = [true, true, false] ∧
      l.liveFrom (addrKey bareTen) = 2 ∧ l.shared.entry (addrKey bareTen) = some 1 :=
  by
  have tcp : isTrustedConnection onePerIPOutsideTen parseIP tcpFromTen = true := by
    rw [tcpFromTen, isTrustedConnection_ipPort]; decide
  have bare : isTrustedConnection onePerIPOutsideTen parseIP bareTen = false :=
    isTrustedConnection_unsplit _ _ (by decide)
  simp only [Limiter.calls, mixedCalls, List.foldl, Limiter.call, Limiter.accept, tcp, bare]
  decide

end Sora.Server

import Sora.Proxy.PrelookupCache
import Sora.ManageSieve.Wire

/-
Module: Sora.Proofs.PrelookupCache
Purpose: What `prelookupCache` keeps over every run of calls, and where `evictOldest` falls
  short. Its loop finds an entry that no entry expires before, in whatever order `range` visits
  the map, and a `Set` into a full cache deletes that entry, unless its key is the empty string:
  `oldestKey` starts as the empty string, and `evictOldest` reads that value as "nothing found".
  Over runs that never store the empty key the cache stays within `maxSize`. Once the empty key
  holds the entry that expires first, no `Set` evicts, and each `Set` of a new key adds an entry.
Trusted boundary: `Sora.Proxy.PrelookupCache`.
Main exports: OldestSoFar, oldestKey_earliest, evictOldest_cases, Bounded, calls_within_maxSize,
  EmptyKeyEarliest, sets_grow_past_maxSize
-/

namespace Sora.Proxy

open Sora.Db (Bytes)
open Sora.ManageSieve (utf8)

variable {ι : Type}

/-! ### The loop of evictOldest -/

/-- What the loop of `evictOldest` knows after visiting `seen`: nothing yet while `first` holds,
and otherwise the key and time of a visited entry that no visited entry expires before. -/
def OldestSoFar (seen : List (Bytes × CacheEntry ι)) (acc : Bytes × Int × Bool) : Prop :=
  if acc.2.2 then seen = []
  else (∃ e ∈ seen, e.1 = acc.1 ∧ e.2.expiresAt = acc.2.1) ∧
    ∀ e ∈ seen, acc.2.1 ≤ e.2.expiresAt

theorem OldestSoFar.step {seen : List (Bytes × CacheEntry ι)} {acc : Bytes × Int × Bool}
    (h : OldestSoFar seen acc) (e : Bytes × CacheEntry ι) :
    OldestSoFar (seen ++ [e]) (oldestStep acc e) := by
  obtain ⟨key, time, first⟩ := acc
  cases first with
  | true =>
    simp only [OldestSoFar, ↓reduceIte] at h
    subst h
    simp [OldestSoFar, oldestStep]
  | false =>
    simp only [OldestSoFar, Bool.false_eq_true, ↓reduceIte] at h
    obtain ⟨⟨w, hw, hk, ht⟩, low⟩ := h
    by_cases earlier : e.2.expiresAt < time
    · simp only [OldestSoFar, oldestStep, earlier, decide_True, Bool.or_true, ↓reduceIte,
        Bool.false_eq_true]
      refine ⟨⟨e, by simp, rfl, rfl⟩, fun e' he' => ?_⟩
      rcases List.mem_append.mp he' with old | new
      · have := low e' old; omega
      · rw [List.mem_singleton.mp new]
    · simp only [OldestSoFar, oldestStep, earlier, decide_False, Bool.or_false, Bool.false_eq_true,
        ↓reduceIte]
      refine ⟨⟨w, List.mem_append_left _ hw, hk, ht⟩, fun e' he' => ?_⟩
      rcases List.mem_append.mp he' with old | new
      · exact low e' old
      · rw [List.mem_singleton.mp new]; omega

theorem OldestSoFar.foldl {seen : List (Bytes × CacheEntry ι)} {acc : Bytes × Int × Bool}
    (h : OldestSoFar seen acc) (visit : List (Bytes × CacheEntry ι)) :
    OldestSoFar (seen ++ visit) (visit.foldl oldestStep acc) := by
  induction visit generalizing seen acc with
  | nil => simpa using h
  | cons e visit ih => simpa using ih (h.step e)

/-- The loop of `evictOldest` over a non-empty map, in whatever order `range` takes, finds the
key of an entry that no entry expires before. -/
theorem oldestKey_earliest (m : GoMap (CacheEntry ι)) (order : RangeOrder (CacheEntry ι))
    (nonempty : m.len ≠ 0) :
    ∃ e ∈ m.entries, e.1 = ((order.visit m.entries).foldl oldestStep ([], 0, true)).1 ∧
      ∀ e' ∈ m.entries, e.2.expiresAt ≤ e'.2.expiresAt := by
  have perm := order.perm m.entries
  have found := (show OldestSoFar [] (([] : Bytes), (0 : Int), true) from rfl).foldl
    (order.visit m.entries)
  simp only [List.nil_append] at found
  unfold OldestSoFar at found
  split_ifs at found with first
  · exact absurd (perm.length_eq.symm.trans (congrArg List.length found)) nonempty
  · obtain ⟨⟨e, he, hk, ht⟩, low⟩ := found
    exact ⟨e, perm.mem_iff.mp he, hk, fun e' he' => ht ▸ low e' (perm.mem_iff.mpr he')⟩

/-- `evictOldest` on a non-empty cache deletes the key of an entry that no entry expires
before, or nothing when that key is the empty string. -/
theorem evictOldest_cases (c : PrelookupCache ι) (order : RangeOrder (CacheEntry ι))
    (nonempty : c.entries.len ≠ 0) :
    ∃ e ∈ c.entries.entries, (∀ e' ∈ c.entries.entries, e.2.expiresAt ≤ e'.2.expiresAt) ∧
      c.evictOldest order =
        if e.1 ≠ [] then { c with entries := c.entries.delete e.1 } else c := by
  obtain ⟨e, he, hk, low⟩ := oldestKey_earliest c.entries order nonempty
  exact ⟨e, he, low, by simp only [PrelookupCache.evictOldest, nonempty, ↓reduceIte, hk]⟩


/-! ### The bound, over runs that never store the empty key -/

theorem evictOldest_maxSize (c : PrelookupCache ι) (order : RangeOrder (CacheEntry ι)) :
    (c.evictOldest order).maxSize = c.maxSize := by
  unfold PrelookupCache.evictOldest
  dsimp only
  split_ifs <;> rfl

theorem call_maxSize (c : PrelookupCache ι) (call : CacheCall ι) :
    (c.call call).maxSize = c.maxSize := by
  cases call with
  | get key now =>
    simp only [PrelookupCache.call, PrelookupCache.get]
    split
    · rfl
    · split_ifs <;> rfl
  | set key info authResult now order =>
    simp only [PrelookupCache.call, PrelookupCache.set]
    split_ifs
    · exact evictOldest_maxSize c order
    · rfl
  | cleanup now | getStats => rfl

theorem calls_maxSize (c : PrelookupCache ι) (calls : List (CacheCall ι)) :
    (c.calls calls).maxSize = c.maxSize := by
  induction calls generalizing c with
  | nil => rfl
  | cons call calls ih => exact (ih (c.call call)).trans (call_maxSize c call)

/-- The call is a `Set` under the empty key. -/
def CacheCall.setsEmptyKey : CacheCall ι → Bool
  | .set key .. => key.isEmpty
  | _ => false

/-- A cache within its `maxSize`, with no entry under the empty key. -/
structure Bounded (c : PrelookupCache ι) : Prop where
  positive : 0 < c.maxSize
  within : (c.entries.len : Int) ≤ c.maxSize
  named : ∀ e ∈ c.entries.entries, e.1 ≠ []

namespace Bounded

variable {c : PrelookupCache ι}

theorem newPrelookupCache (positiveTTL negativeTTL maxSize : Int) :
    Bounded (Sora.Proxy.newPrelookupCache positiveTTL negativeTTL maxSize : PrelookupCache ι) where
  positive := by simp only [Sora.Proxy.newPrelookupCache]; split_ifs <;> omega
  within := by
    simp only [Sora.Proxy.newPrelookupCache, GoMap.empty, GoMap.len, List.length_nil, Nat.cast_zero]
    split_ifs <;> omega
  named := by simp [Sora.Proxy.newPrelookupCache, GoMap.empty]

/-- `Get` changes only the counts of hits and misses. -/
theorem get (h : Bounded c) (key : Bytes) (now : Int) : Bounded (c.get key now).2 := by
  unfold PrelookupCache.get
  split
  · exact ⟨h.1, h.2, h.3⟩
  · split_ifs <;> exact ⟨h.1, h.2, h.3⟩

theorem cleanup (h : Bounded c) (now : Int) : Bounded (c.cleanup now) where
  positive := h.positive
  within := le_trans (by exact_mod_cast GoMap.len_filter_le _ _) h.within
  named e he := h.named e (List.mem_of_mem_filter he)

/-- The cache `Set` stores into, after it evicted if the cache was full, has room for one more
entry: `evictOldest` finds an entry, whose key is not empty, and deletes it. -/
theorem room (h : Bounded c) (order : RangeOrder (CacheEntry ι)) :
    let evicted := if c.maxSize ≤ c.entries.len then c.evictOldest order else c
    Bounded evicted ∧ (evicted.entries.len : Int) < evicted.maxSize := by
  intro evicted
  by_cases full : c.maxSize ≤ c.entries.len
  · have nonempty : c.entries.len ≠ 0 := by have := h.positive; omega
    obtain ⟨e, he, -, evict⟩ := evictOldest_cases c order nonempty
    have shrink := GoMap.len_delete_of_mem c.entries (List.mem_map_of_mem _ he)
    simp only [evicted, full, ↓reduceIte, evict, h.named e he, ne_eq, not_false_eq_true]
    have := h.within
    refine ⟨⟨h.positive, ?_, fun e' he' => h.named e' (List.mem_of_mem_filter he')⟩, ?_⟩ <;>
      dsimp only <;> omega
  · simp only [evicted, full, ↓reduceIte]
    exact ⟨h, by omega⟩

theorem set (h : Bounded c) {key : Bytes} (named : key ≠ []) (info : ι) (authResult : AuthResult)
    (now : Int) (order : RangeOrder (CacheEntry ι)) :
    Bounded (c.set key info authResult now order) := by
  obtain ⟨evicted, room⟩ := h.room order
  refine ⟨evicted.positive, ?_, fun e he => (mem_assign he).elim (evicted.named e) ?_⟩
  · simp only [PrelookupCache.set, GoMap.len_insert]
    split_ifs at room ⊢ <;> push_cast <;> omega
  · rintro rfl; exact named

theorem call (h : Bounded c) (call : CacheCall ι) (named : call.setsEmptyKey = false) :
    Bounded (c.call call) := by
  cases call with
  | get key now => exact h.get key now
  | set key info authResult now order =>
    exact h.set (by simpa [CacheCall.setsEmptyKey] using named) info authResult now order
  | cleanup now => exact h.cleanup now
  | getStats => exact h

theorem calls (h : Bounded c) (calls : List (CacheCall ι))
    (named : ∀ call ∈ calls, call.setsEmptyKey = false) : Bounded (c.calls calls) := by
  induction calls generalizing c with
  | nil => exact h
  | cons call calls ih =>
    exact ih (h.call call (named call (List.mem_cons_self _ _)))
      fun call' h' => named call' (List.mem_cons_of_mem _ h')

end Bounded

/-- Over every run of calls that never stores the empty key, in whatever orders the `range`s of
`evictOldest` take, the cache stays within its `maxSize`. -/
theorem calls_within_maxSize (positiveTTL negativeTTL maxSize : Int) (calls : List (CacheCall ι))
    (named : ∀ call ∈ calls, call.setsEmptyKey = false) :
    let c := (newPrelookupCache positiveTTL negativeTTL maxSize : PrelookupCache ι).calls calls
    (c.entries.len : Int) ≤
      (newPrelookupCache positiveTTL negativeTTL maxSize : PrelookupCache ι).maxSize :=
  calls_maxSize (newPrelookupCache positiveTTL negativeTTL maxSize) calls ▸
    ((Bounded.newPrelookupCache positiveTTL negativeTTL maxSize).calls calls named).within

/-- A `range` that visits the entries as they are stored. -/
def inPlace : RangeOrder (CacheEntry ι) :=
  ⟨id, List.Perm.refl⟩

/-- `Set`s of `a` and then `b` into a cache of one entry. -/
def twoSets : List (CacheCall Unit) :=
  [.set (utf8 "a") () (.other 0) 0 inPlace, .set (utf8 "b") () (.other 0) 1 inPlace]

theorem two_sets_within_one_entry :
    (∀ call ∈ twoSets, call.setsEmptyKey = false) ∧
      (((newPrelookupCache 300 60 1 : PrelookupCache Unit).calls twoSets).entries.len : Int) ≤
        (newPrelookupCache 300 60 1 : PrelookupCache Unit).maxSize :=
  have named : ∀ call ∈ twoSets, call.setsEmptyKey = false := by decide
  ⟨named, calls_within_maxSize 300 60 1 twoSets named⟩

/-! ### The empty key -/

/-- The entry under the empty key expires before every other entry. -/
def EmptyKeyEarliest (c : PrelookupCache ι) (earliest : CacheEntry ι) : Prop :=
  ([], earliest) ∈ c.entries.entries ∧
    ∀ e ∈ c.entries.entries, e.1 ≠ [] → earliest.expiresAt < e.2.expiresAt

/-- Then `evictOldest` finds that entry, in whatever order, and deletes nothing. -/
theorem evictOldest_of_empty_key_earliest {c : PrelookupCache ι} {earliest : CacheEntry ι}
    (h : EmptyKeyEarliest c earliest) (order : RangeOrder (CacheEntry ι)) :
    c.evictOldest order = c := by
  obtain ⟨e, he, low, evict⟩ :=
    evictOldest_cases c order (List.ne_nil_of_mem h.1 ∘ List.length_eq_zero.mp)
  rw [evict]
  by_cases named : e.1 = []
  · simp [named]
  · have later := h.2 e he named
    have first : e.2.expiresAt ≤ earliest.expiresAt := low _ h.1
    omega

/-- So `Set` stores its entry whether or not the cache is full. -/
theorem set_of_empty_key_earliest {c : PrelookupCache ι} {earliest : CacheEntry ι}
    (h : EmptyKeyEarliest c earliest) (key : Bytes) (info : ι) (authResult : AuthResult)
    (now : Int) (order : RangeOrder (CacheEntry ι)) :
    c.set key info authResult now order =
      let isNegative := authResult == .userNotFound || authResult == .failed
      { c with entries := c.entries.insert key ⟨info, authResult,
          now + if isNegative then c.negativeTTL else c.positiveTTL, isNegative⟩ } := by
  simp only [PrelookupCache.set, evictOldest_of_empty_key_earliest h order, ite_self]

/-- A `Set` of another key, whose entry expires later, keeps the empty key's entry earliest. -/
theorem EmptyKeyEarliest.set {c : PrelookupCache ι} {earliest : CacheEntry ι}
    (h : EmptyKeyEarliest c earliest) {key : Bytes} (named : key ≠ []) (info : ι)
    (authResult : AuthResult) {now : Int}
    (later : earliest.expiresAt < now + min c.positiveTTL c.negativeTTL)
    (order : RangeOrder (CacheEntry ι)) :
    EmptyKeyEarliest (c.set key info authResult now order) earliest := by
  rw [set_of_empty_key_earliest h]
  refine ⟨mem_assign_of_ne h.1 (Ne.symm named), fun e he other => ?_⟩
  rcases mem_assign he with old | rfl
  · exact h.2 e old other
  · dsimp only
    split_ifs <;> omega

/-- Each `Set` of a new key then adds an entry, full cache or not: a run of such `Set`s grows
the cache by one entry each, past any `maxSize`. -/
theorem sets_grow_past_maxSize {c : PrelookupCache ι} {earliest : CacheEntry ι}
    (h : EmptyKeyEarliest c earliest) (info : ι) (authResult : AuthResult)
    (sets : List (Bytes × Int × RangeOrder (CacheEntry ι)))
    (fresh : (sets.map (·.1) ++ c.entries.entries.map (·.1)).Nodup)
    (later : ∀ s ∈ sets, earliest.expiresAt < s.2.1 + min c.positiveTTL c.negativeTTL) :
    (c.calls (sets.map fun s => .set s.1 info authResult s.2.1 s.2.2)).entries.len =
      c.entries.len + sets.length := by
  induction sets generalizing c with
  | nil => rfl
  | cons s sets ih =>
    obtain ⟨key, now, order⟩ := s
    simp only [List.map_cons, List.cons_append, List.nodup_cons, List.mem_append, not_or]
      at fresh
    have named : key ≠ [] := fun empty => fresh.1.2 (empty ▸ List.mem_map_of_mem _ h.1)
    have step := h.set named info authResult (later _ (List.mem_cons_self _ _)) order
    have grown : (c.set key info authResult now order).entries.len = c.entries.len + 1 := by
      rw [set_of_empty_key_earliest h, GoMap.len_insert, if_neg fresh.1.2]
    have keys : (c.set key info authResult now order).entries.entries.map (·.1) =
        c.entries.entries.map (·.1) ++ [key] := by
      rw [set_of_empty_key_earliest h]
      exact (keys_assign _ _ _).trans (if_neg fresh.1.2)
    have ttl : min (c.set key info authResult now order).positiveTTL
        (c.set key info authResult now order).negativeTTL = min c.positiveTTL c.negativeTTL := by
      rw [set_of_empty_key_earliest h]
    have rest := ih step
      (by
        rw [keys, ← List.append_assoc, List.nodup_append_comm, List.singleton_append]
        exact List.nodup_cons.mpr ⟨List.not_mem_append fresh.1.1 fresh.1.2, fresh.2⟩)
      (fun s hs => ttl ▸ later s (List.mem_cons_of_mem _ hs))
    show ((c.set key info authResult now order).calls _).entries.len = _
    rw [rest, grown, List.length_cons]
    omega

/-- A cache of one entry. -/
def oneEntryCache : PrelookupCache Unit :=
  newPrelookupCache 300 60 1

/-- The cache of one entry after a `Set` under the empty key at time 0. -/
def emptyKeyCache : PrelookupCache Unit :=
  oneEntryCache.set [] () (.other 0) 0 inPlace

/-- Two new keys, set late enough that the empty key's entry expires first. -/
def lateSets : List (Bytes × Int × RangeOrder (CacheEntry Unit)) :=
  [(utf8 "a", 250, inPlace), (utf8 "b", 251, inPlace)]

theorem empty_key_cache_grows_to_three :
    EmptyKeyEarliest emptyKeyCache ⟨(), .other 0, 300, false⟩ ∧
      (lateSets.map (·.1) ++ emptyKeyCache.entries.entries.map (·.1)).Nodup ∧
      (∀ s ∈ lateSets, (300 : Int) < s.2.1 + min emptyKeyCache.positiveTTL emptyKeyCache.negativeTTL) ∧
      (emptyKeyCache.calls (lateSets.map fun s => .set s.1 () (.other 0) s.2.1 s.2.2)).entries.len =
        emptyKeyCache.entries.len + lateSets.length :=
  have stored : emptyKeyCache.entries.entries = [([], ⟨(), .other 0, 300, false⟩)] := rfl
  have h : EmptyKeyEarliest emptyKeyCache ⟨(), .other 0, 300, false⟩ :=
    ⟨by rw [stored]; exact List.mem_singleton_self _, by simp [stored]⟩
  have fresh : (lateSets.map (·.1) ++ emptyKeyCache.entries.entries.map (·.1)).Nodup := by
    rw [stored]; decide
  have later : ∀ s ∈ lateSets,
      (300 : Int) < s.2.1 + min emptyKeyCache.positiveTTL emptyKeyCache.negativeTTL := by decide
  ⟨h, fresh, later, sets_grow_past_maxSize h () (.other 0) lateSets fresh later⟩

/-- In a cache of one entry, a `Set` under the empty key and then a `Set` of another key, a time
unit later, leave two entries, in whatever order `evictOldest`'s `range` takes: the empty key's
entry, which expires first, is the one the loop finds, and it is not deleted. -/
theorem empty_key_outlives_eviction (first second : RangeOrder (CacheEntry Unit)) :
    let c := oneEntryCache.calls
      [.set [] () (.other 0) 0 first, .set (utf8 "a") () (.other 0) 1 second]
    c.maxSize = 1 ∧ c.entries.len = 2 ∧
      c.entries.entries =
        [([], ⟨(), .other 0, 300, false⟩), (utf8 "a", ⟨(), .other 0, 301, false⟩)] := by
  have stored : (oneEntryCache.set [] () (.other 0) 0 first).entries.entries =
      [([], ⟨(), .other 0, 300, false⟩)] := rfl
  have size : (oneEntryCache.set [] () (.other 0) 0 first).maxSize = 1 := rfl
  have ttl : (oneEntryCache.set [] () (.other 0) 0 first).positiveTTL = 300 := rfl
  have earliest : EmptyKeyEarliest (oneEntryCache.set [] () (.other 0) 0 first)
      ⟨(), .other 0, 300, false⟩ :=
    ⟨by rw [stored]; exact List.mem_singleton_self _, by simp [stored]⟩
  have kept := evictOldest_of_empty_key_earliest earliest second
  have run : oneEntryCache.calls
      [.set [] () (.other 0) 0 first, .set (utf8 "a") () (.other 0) 1 second] =
      (oneEntryCache.set [] () (.other 0) 0 first).set (utf8 "a") () (.other 0) 1 second := rfl
  dsimp only
  rw [run]
  generalize oneEntryCache.set [] () (.other 0) 0 first = c1 at stored size ttl kept
  have positive : (AuthResult.other 0 == .userNotFound || AuthResult.other 0 == .failed) = false :=
    rfl
  simp only [PrelookupCache.set, kept, ite_self, size, ttl, GoMap.len, GoMap.insert, stored,
    positive, Bool.false_eq_true, ↓reduceIte]
  decide

end Sora.Proxy

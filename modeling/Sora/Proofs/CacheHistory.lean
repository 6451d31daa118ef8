import Sora.Proofs.PrelookupCache
import Sora.ManageSieve.Wire

/-
Module: Sora.Proofs.CacheHistory
Purpose: What `prelookupCache.Get` can answer. Over every run of calls from a new cache, in
  whatever orders the `range` of `evictOldest` visits the map, each entry the cache holds is what
  the last `Set` of its key stored, with the expiry that `Set` gave it: eviction and `cleanup`
  only delete entries, and `Set` replaces its key's entry in place. So `Get` answers only the
  info and result of the last `Set` of the key, and only while that `Set`'s TTL lasts. And a
  `Get` right after a `Set` answers what it stored until its TTL runs out, even when the `Set`
  had to evict.
Trusted boundary: `Sora.Proxy.PrelookupCache`.
Main exports: ttlOf, lastSet, Remembers, get_after_set, get_answers_last_set
-/

namespace Sora.Proxy

open Sora.Db (Bytes)
open Sora.ManageSieve (utf8)

variable {ι : Type}

/-! ### The last `Set` of a key -/

/-- The TTL `Set` gives an entry with the result `authResult`. -/
def PrelookupCache.ttlOf (c : PrelookupCache ι) (authResult : AuthResult) : Int :=
  if authResult == .userNotFound || authResult == .failed then c.negativeTTL else c.positiveTTL

/-- The entry `Set` stores for `info` and `authResult` at the time `now`. -/
def PrelookupCache.entryFor (c : PrelookupCache ι) (info : ι) (authResult : AuthResult)
    (now : Int) : CacheEntry ι :=
  ⟨info, authResult, now + c.ttlOf authResult, authResult == .userNotFound || authResult == .failed⟩

/-- The info, the result and the time of the last `Set` of `key`, after one more call. -/
def lastSetStep (key : Bytes) (last : Option (ι × AuthResult × Int)) :
    CacheCall ι → Option (ι × AuthResult × Int)
  | .set k info authResult now _ => if k = key then some (info, authResult, now) else last
  | _ => last

/-- The info, the result and the time of the last `Set` of `key` in a run. -/
def lastSet (key : Bytes) (calls : List (CacheCall ι)) : Option (ι × AuthResult × Int) :=
  calls.foldl (lastSetStep key) none

theorem lastSet_append_singleton (key : Bytes) (calls : List (CacheCall ι)) (call : CacheCall ι) :
    lastSet key (calls ++ [call]) = lastSetStep key (lastSet key calls) call := by
  simp [lastSet]

/-- Every entry of `c` is what the last `Set` of its key in `hist` stored, expiring when that
`Set`'s TTL runs out. -/
def Remembers (c : PrelookupCache ι) (hist : List (CacheCall ι)) : Prop :=
  ∀ e ∈ c.entries.entries, ∃ setAt, lastSet e.1 hist = some (e.2.info, e.2.authResult, setAt) ∧
    e.2.expiresAt = setAt + c.ttlOf e.2.authResult

/-! ### What each call does to the entries -/

theorem mem_of_get?_eq_some {m : GoMap (CacheEntry ι)} {key : Bytes} {entry : CacheEntry ι}
    (h : m.get? key = some entry) : (key, entry) ∈ m.entries := by
  obtain ⟨_, _, split, -⟩ := List.lookup_eq_some_iff.mp h
  exact split ▸ List.mem_append_right _ (List.mem_cons_self _ _)

/-- `evictOldest` deletes at most one entry, and changes no other field. -/
theorem evictOldest_entries (c : PrelookupCache ι) (order : RangeOrder (CacheEntry ι)) :
    (∀ e ∈ (c.evictOldest order).entries.entries, e ∈ c.entries.entries) ∧
      (c.evictOldest order).ttlOf = c.ttlOf := by
  unfold PrelookupCache.evictOldest
  dsimp only
  split_ifs
  · exact ⟨fun _ => id, rfl⟩
  · exact ⟨fun _ mem => (List.mem_filter.mp mem).1, rfl⟩
  · exact ⟨fun _ => id, rfl⟩

/-- The cache `Set` stores into: that of the call, or what `evictOldest` left of it. -/
theorem set_eq (c : PrelookupCache ι) (key : Bytes) (info : ι) (authResult : AuthResult)
    (now : Int) (order : RangeOrder (CacheEntry ι)) :
    ∃ c' : PrelookupCache ι, (∀ e ∈ c'.entries.entries, e ∈ c.entries.entries) ∧
      c'.ttlOf = c.ttlOf ∧
      c.set key info authResult now order =
        { c' with entries := c'.entries.insert key (c.entryFor info authResult now) } := by
  by_cases full : c.maxSize ≤ c.entries.len
  · obtain ⟨kept, ttl⟩ := evictOldest_entries c order
    refine ⟨c.evictOldest order, kept, ttl, ?_⟩
    have same : (c.evictOldest order).entryFor info authResult now = c.entryFor info authResult now :=
      by simp only [PrelookupCache.entryFor, ttl]
    simp only [PrelookupCache.set, full, ↓reduceIte, ← same]
    rfl
  · exact ⟨c, fun _ => id, rfl, by simp only [PrelookupCache.set, full, ↓reduceIte]; rfl⟩

/-- After `Set`, the entry of its key is the one it stored; the others were there before. -/
theorem mem_set {c : PrelookupCache ι} {key : Bytes} {info : ι} {authResult : AuthResult}
    {now : Int} {order : RangeOrder (CacheEntry ι)} {e : Bytes × CacheEntry ι}
    (mem : e ∈ (c.set key info authResult now order).entries.entries) :
    e = (key, c.entryFor info authResult now) ∨ (e.1 ≠ key ∧ e ∈ c.entries.entries) := by
  obtain ⟨c', kept, -, stored⟩ := set_eq c key info authResult now order
  rw [stored] at mem
  have self := mem_of_get?_eq_some
    (GoMap.get?_insert_self c'.entries key (c.entryFor info authResult now))
  by_cases same : e.1 = key
  · exact .inl (List.inj_on_of_nodup_map (c'.entries.insert key _).keys_nodup mem self same)
  · exact .inr ⟨same, kept e ((mem_assign mem).resolve_right fun h => same (h ▸ rfl))⟩

/-! ### One call, then a run -/

theorem call_ttlOf (c : PrelookupCache ι) (call : CacheCall ι) : (c.call call).ttlOf = c.ttlOf := by
  cases call with
  | get key now =>
    simp only [PrelookupCache.call, PrelookupCache.get]
    split
    · rfl
    · split_ifs <;> rfl
  | set key info authResult now order =>
    obtain ⟨c', -, ttl, stored⟩ := set_eq c key info authResult now order
    simp only [PrelookupCache.call, stored]
    exact ttl
  | cleanup now | getStats => rfl

theorem calls_ttlOf (c : PrelookupCache ι) (calls : List (CacheCall ι)) :
    (c.calls calls).ttlOf = c.ttlOf := by
  induction calls generalizing c with
  | nil => rfl
  | cons call calls ih => exact (ih (c.call call)).trans (call_ttlOf c call)

theorem call_entries (c : PrelookupCache ι) (key : Bytes) (now : Int) :
    ((c.get key now).2).entries = c.entries := by
  simp only [PrelookupCache.get]
  split
  · rfl
  · split_ifs <;> rfl

/-- One call keeps every entry the last `Set` of its key. -/
theorem Remembers.call {c : PrelookupCache ι} {hist : List (CacheCall ι)} (h : Remembers c hist)
    (call : CacheCall ι) : Remembers (c.call call) (hist ++ [call]) := by
  intro e mem
  rw [lastSet_append_singleton, call_ttlOf]
  cases call with
  | get key now =>
    rw [PrelookupCache.call, call_entries] at mem
    exact h e mem
  | set key info authResult now order =>
    rcases mem_set mem with rfl | ⟨other, old⟩
    · exact ⟨now, by simp [lastSetStep, PrelookupCache.entryFor], rfl⟩
    · simpa [lastSetStep, Ne.symm other] using h e old
  | cleanup now => exact h e (List.mem_filter.mp mem).1
  | getStats => exact h e mem

theorem Remembers.calls {c : PrelookupCache ι} {hist : List (CacheCall ι)} (h : Remembers c hist)
    (calls : List (CacheCall ι)) : Remembers (c.calls calls) (hist ++ calls) := by
  induction calls generalizing c hist with
  | nil => simpa using h
  | cons call calls ih =>
    simpa using ih (h.call call)

/-! ### What `Get` answers -/

/-- `Get` answers the entry of its key, when that has not expired. -/
theorem get_answered {c : PrelookupCache ι} {key : Bytes} {now : Int} {info : ι}
    {authResult : AuthResult} (answered : (c.get key now).1 = some (info, authResult)) :
    ∃ entry, (key, entry) ∈ c.entries.entries ∧ entry.info = info ∧
      entry.authResult = authResult ∧ now ≤ entry.expiresAt := by
  unfold PrelookupCache.get at answered
  split at answered
  · cases answered
  · rename_i entry found
    split_ifs at answered with expired
    cases answered
    exact ⟨entry, mem_of_get?_eq_some found, rfl, rfl, by omega⟩

/-- A `Get` right after a `Set` of the same key answers what the `Set` stored until its TTL runs
out, whether or not the `Set` had to evict. -/
theorem get_after_set (c : PrelookupCache ι) (key : Bytes) (info : ι) (authResult : AuthResult)
    (now : Int) (order : RangeOrder (CacheEntry ι)) (later : Int) :
    ((c.set key info authResult now order).get key later).1 =
      if now + c.ttlOf authResult < later then none else some (info, authResult) := by
  obtain ⟨c', -, -, stored⟩ := set_eq c key info authResult now order
  simp only [stored, PrelookupCache.get, GoMap.get?_insert_self, PrelookupCache.entryFor]
  split_ifs <;> rfl

/-- Over every run of calls from a new cache, in whatever orders `evictOldest` ranges over the
map, `Get` answers only the info and result that the last `Set` of its key stored, and only
while that `Set`'s TTL lasts: eviction and `cleanup` can make it miss, never answer stale or
foreign data. -/
theorem get_answers_last_set (positiveTTL negativeTTL maxSize : Int) (calls : List (CacheCall ι))
    (key : Bytes) (now : Int) (info : ι) (authResult : AuthResult)
    (answered : (((newPrelookupCache positiveTTL negativeTTL maxSize).calls calls).get key
      now).1 = some (info, authResult)) :
    ∃ setAt, lastSet key calls = some (info, authResult, setAt) ∧
      now ≤ setAt + if authResult == .userNotFound || authResult == .failed then negativeTTL
        else positiveTTL := by
  have remembers : Remembers ((newPrelookupCache positiveTTL negativeTTL maxSize).calls calls)
      ([] ++ calls) := Remembers.calls (fun _ mem => absurd mem (List.not_mem_nil _)) calls
  obtain ⟨entry, mem, rfl, rfl, fresh⟩ := get_answered answered
  obtain ⟨setAt, last, expiry⟩ := remembers _ mem
  refine ⟨setAt, by simpa using last, ?_⟩
  have ttl := calls_ttlOf (@newPrelookupCache ι positiveTTL negativeTTL maxSize) calls
  rw [expiry, ttl] at fresh
  exact fresh

/-- Into a cache of two entries: `alice` at time 0, `bob` at 5, `alice` again at 10 (the full
cache first evicts the old `alice`), then `carol` at 20 (which evicts `bob`). -/
def aliceSetTwice : List (CacheCall Nat) :=
  [.set (utf8 "alice") 1 (.other 0) 0 inPlace, .set (utf8 "bob") 9 (.other 0) 5 inPlace,
    .set (utf8 "alice") 2 (.other 0) 10 inPlace, .set (utf8 "carol") 3 (.other 0) 20 inPlace]

/-- Asked at time 100, the cache answers the info of the second `Set` of `alice`, and misses `bob`,
evicted before its TTL ran out. -/
theorem alice_answered_by_second_set :
    (((newPrelookupCache 300 60 2).calls aliceSetTwice).get (utf8 "alice") 100).1 =
        some (2, .other 0) ∧
      (((newPrelookupCache 300 60 2).calls aliceSetTwice).get (utf8 "bob") 100).1 = none ∧
      ∃ setAt, lastSet (utf8 "alice") aliceSetTwice = some (2, .other 0, setAt) ∧
        100 ≤ setAt + if AuthResult.other 0 == .userNotFound || AuthResult.other 0 == .failed
          then 60 else 300 :=
  have answered : (((newPrelookupCache 300 60 2).calls aliceSetTwice).get (utf8 "alice") 100).1 =
      some (2, .other 0) := by decide
  ⟨answered, by decide, get_answers_last_set 300 60 2 _ _ _ _ _ answered⟩

end Sora.Proxy

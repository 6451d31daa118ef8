import Sora.Go.Map

/-
Module: Sora.Proxy.PrelookupCache
Purpose: `prelookupCache` of package `proxy`: `newPrelookupCache`, `Get`, `Set` with its
  `evictOldest`, `cleanup` and `GetStats`, each one call that holds `mu` from start to end. The
  entries are a Go `map[string]*cacheEntry` (`Sora.Go.Map`); a call that ranges over the map is
  given the order it visits the entries in.
Trusted boundary: `time.Now()` is the argument `now` of a call, and `After` and `Before` compare
  those times. `AuthResult` and `UserRoutingInfo` are declared outside the files modelled: the
  cache reads of an `AuthResult` only whether it is `AuthUserNotFound` or `AuthFailed`, and only
  stores and returns the routing info. The cleanup goroutine is modelled by calls of `cleanup`;
  `Stop`, the ticker and logging are left out.
Main exports: AuthResult, CacheEntry, PrelookupCache, newPrelookupCache, PrelookupCache.get,
  oldestStep, PrelookupCache.evictOldest, PrelookupCache.set, PrelookupCache.cleanup,
  PrelookupCache.getStats, CacheCall, PrelookupCache.calls
-/

namespace Sora.Proxy

open Sora.Db (Bytes)

/-! ### The cache -/

/-- An `AuthResult`, by what the cache tells apart. -/
inductive AuthResult where
  | userNotFound
  | failed
  /-- Any other result. -/
  | other (code : Int)
deriving Repr, DecidableEq

/-- A `*cacheEntry`; `info` is the `*UserRoutingInfo` it holds, and `expiresAt` a time. -/
structure CacheEntry (ι : Type) where
  info : ι
  authResult : AuthResult
  expiresAt : Int
  isNegative : Bool
deriving Repr, DecidableEq

/-- A `*prelookupCache`, by the fields its calls read and write. -/
structure PrelookupCache (ι : Type) where
  entries : GoMap (CacheEntry ι)
  positiveTTL : Int
  negativeTTL : Int
  maxSize : Int
  hits : UInt64
  misses : UInt64

variable {ι : Type}

/-- `newPrelookupCache`: a `maxSize` of zero or less is replaced by 10000. -/
def newPrelookupCache (positiveTTL negativeTTL maxSize : Int) : PrelookupCache ι :=
  ⟨.empty, positiveTTL, negativeTTL, if maxSize ≤ 0 then 10000 else maxSize, 0, 0⟩

/-- `Get(key)` at the time `now`: the entry's info and result, unless the key has no entry or
its entry has expired; a hit or a miss is counted. -/
def PrelookupCache.get (c : PrelookupCache ι) (key : Bytes) (now : Int) :
    Option (ι × AuthResult) × PrelookupCache ι :=
  match c.entries.get? key with
  | none => (none, { c with misses := c.misses + 1 })
  | some entry =>
    if entry.expiresAt < now then (none, { c with misses := c.misses + 1 })
    else (some (entry.info, entry.authResult), { c with hits := c.hits + 1 })

/-- One turn of the loop of `evictOldest`: `oldestKey`, `oldestTime` and `first` after it. -/
def oldestStep (acc : Bytes × Int × Bool) (e : Bytes × CacheEntry ι) : Bytes × Int × Bool :=
  if acc.2.2 || decide (e.2.expiresAt < acc.2.1) then (e.1, e.2.expiresAt, false) else acc

/-- `evictOldest`, with its `range` in the order `order`: the key the loop finds is deleted,
unless it is the empty string, which `oldestKey` starts as. -/
def PrelookupCache.evictOldest (c : PrelookupCache ι) (order : RangeOrder (CacheEntry ι)) :
    PrelookupCache ι :=
  if c.entries.len = 0 then c
  else
    let oldestKey := ((order.visit c.entries.entries).foldl oldestStep ([], 0, true)).1
    if oldestKey ≠ [] then { c with entries := c.entries.delete oldestKey } else c

/-- `Set(key, info, authResult)` at the time `now`, with the order of `evictOldest`'s `range`:
a full cache first evicts, then the entry is stored with the TTL of its kind of result. -/
def PrelookupCache.set (c : PrelookupCache ι) (key : Bytes) (info : ι) (authResult : AuthResult)
    (now : Int) (order : RangeOrder (CacheEntry ι)) : PrelookupCache ι :=
  let c := if c.maxSize ≤ c.entries.len then c.evictOldest order else c
  let isNegative := authResult == .userNotFound || authResult == .failed
  let ttl := if isNegative then c.negativeTTL else c.positiveTTL
  { c with entries := c.entries.insert key ⟨info, authResult, now + ttl, isNegative⟩ }

/-- `cleanup` at the time `now`: every expired entry is deleted. -/
def PrelookupCache.cleanup (c : PrelookupCache ι) (now : Int) : PrelookupCache ι :=
  { c with entries := c.entries.filter fun _ entry => !decide (entry.expiresAt < now) }

/-- `GetStats`: hits, misses and the number of entries. -/
def PrelookupCache.getStats (c : PrelookupCache ι) : UInt64 × UInt64 × Nat :=
  (c.hits, c.misses, c.entries.len)

/-- A call on the cache, with the time `time.Now()` reads in it. -/
inductive CacheCall (ι : Type) where
  | get (key : Bytes) (now : Int)
  | set (key : Bytes) (info : ι) (authResult : AuthResult) (now : Int)
      (order : RangeOrder (CacheEntry ι))
  | cleanup (now : Int)
  | getStats

/-- One call; `GetStats` changes nothing. -/
def PrelookupCache.call (c : PrelookupCache ι) : CacheCall ι → PrelookupCache ι
  | .get key now => (c.get key now).2
  | .set key info authResult now order => c.set key info authResult now order
  | .cleanup now => c.cleanup now
  | .getStats => c

/-- The calls one after another. -/
def PrelookupCache.calls (c : PrelookupCache ι) (calls : List (CacheCall ι)) :
    PrelookupCache ι :=
  calls.foldl PrelookupCache.call c

end Sora.Proxy

import Sora.Server.Net

/-
Module: Sora.Server.ConnectionLimiter
Purpose: `ConnectionLimiter` of package `server`: `CanAccept`, `Accept`, the release function
  `Accept` returns, `cleanup` and `GetStats`, as goroutines that interleave. Each atomic `Load` or
  `Add` and each section under `mu` is one step of the goroutine that makes it. A sequential run,
  where each call returns before the next one starts, runs the same steps one goroutine at a
  time.
Trusted boundary: `Sora.Server.Net`. The map key of an address and whether `isTrustedConnection`
  holds of it are computed once per goroutine, as `CanAccept` and `Accept` compute them from the
  same address. Logging is left out.
Main exports: Config, Shared, Pc, Thread, Limiter, Move, Limiter.move, Limiter.run,
  Limiter.liveTracked, isTrustedConnection, addrKey, Thread.run, Limiter.accept, Limiter.release,
  Call, Limiter.calls
-/

namespace Sora.Server

open Sora.Db (Bytes)

/-- The fields of a `ConnectionLimiter` that never change. -/
structure Config where
  maxConnections : Int
  maxPerIP : Int
  trustedNets : List IPNet

/-- `cl.maxPerIP > 0 && !isTrusted`: the connection is counted per IP. -/
def Config.tracks (cfg : Config) (trusted : Bool) : Bool :=
  decide (0 < cfg.maxPerIP) && !trusted

/-- What the goroutines share: `currentTotal`, the map `perIPConnections` from a key to the
address of its counter, and the `atomic.Int64` counters themselves, by address. -/
structure Shared (κ : Type) where
  currentTotal : Int
  perIPConnections : List (κ × Nat)
  counters : List Int
deriving Repr, DecidableEq

variable {κ : Type} [DecidableEq κ]

/-- The counter at an address. -/
def Shared.counter (sh : Shared κ) (ref : Nat) : Int :=
  sh.counters.getD ref 0

/-- `Add(delta)` on the counter at `ref`. -/
def Shared.addCounter (sh : Shared κ) (ref : Nat) (delta : Int) : Shared κ :=
  { sh with counters := sh.counters.modify (· + delta) ref }

/-- The value of `perIPConnections[ip]`, when the map holds the key. -/
def Shared.entry (sh : Shared κ) (ip : κ) : Option Int :=
  (sh.perIPConnections.lookup ip).map sh.counter

/-- Where a goroutine is in `Accept` or in the release function it returned; the arguments are
the locals it holds. -/
inductive Pc where
  /-- `Accept` called: `CanAccept` is about to load `currentTotal`. -/
  | start
  /-- `CanAccept` is about to read the map under `mu.RLock`. -/
  | lookup
  /-- `CanAccept` is about to load the counter the map held. -/
  | check (counter : Nat)
  /-- `CanAccept` passed: `currentTotal.Add(1)` is next. -/
  | addTotal
  /-- About to find or create the key's counter under `mu.Lock`. -/
  | register
  /-- `ipCounter.Add(1)` is next. -/
  | addPerIP (counter : Nat)
  /-- `Accept` returned an error. -/
  | refused
  /-- `Accept` returned its release function, which captured `ipCounter` (`nil` when the
  connection is not counted per IP). -/
  | accepted (counter : Option Nat)
  /-- The release function was called: `currentTotal.Add(-1)` is next. -/
  | releaseTotal (counter : Option Nat)
  /-- `ipCounter.Add(-1)` is next. -/
  | releasePerIP (counter : Nat)
  /-- The counter came down to zero: under `mu.Lock`, the key's entry is deleted if the counter
  still reads zero or less. -/
  | delete (counter : Nat)
  /-- The release function returned. -/
  | released
deriving Repr, DecidableEq

/-- A goroutine that calls `Accept` for a connection whose address has the key `ip`, and later
its release; `trusted` is what `isTrustedConnection` says of the address. -/
structure Thread (κ : Type) where
  ip : κ
  trusted : Bool
  pc : Pc
deriving Repr, DecidableEq

/-- One step of a goroutine: where it is next, and the shared state after the step. A goroutine
that returned stays where it is. -/
def Thread.step (cfg : Config) (ip : κ) (trusted : Bool) : Pc → Shared κ → Pc × Shared κ
  | .start, sh =>
    if 0 < cfg.maxConnections ∧ cfg.maxConnections ≤ sh.currentTotal then (.refused, sh)
    else if cfg.tracks trusted then (.lookup, sh) else (.addTotal, sh)
  | .lookup, sh =>
    match sh.perIPConnections.lookup ip with
    | some ref => (.check ref, sh)
    | none => (.addTotal, sh)
  | .check ref, sh => if cfg.maxPerIP ≤ sh.counter ref then (.refused, sh) else (.addTotal, sh)
  | .addTotal, sh =>
    (if cfg.tracks trusted then .register else .accepted none,
      { sh with currentTotal := sh.currentTotal + 1 })
  | .register, sh =>
    match sh.perIPConnections.lookup ip with
    | some ref => (.addPerIP ref, sh)
    | none =>
      (.addPerIP sh.counters.length,
        { sh with
          perIPConnections := (ip, sh.counters.length) :: sh.perIPConnections
          counters := sh.counters ++ [0] })
  | .addPerIP ref, sh => (.accepted (some ref), sh.addCounter ref 1)
  | .accepted counter, sh => (.releaseTotal counter, sh)
  | .releaseTotal counter, sh =>
    let sh := { sh with currentTotal := sh.currentTotal - 1 }
    match counter with
    | some ref => (.releasePerIP ref, sh)
    | none => (.released, sh)
  | .releasePerIP ref, sh =>
    let sh := sh.addCounter ref (-1)
    (if sh.counter ref ≤ 0 then .delete ref else .released, sh)
  | .delete ref, sh =>
    (.released,
      if sh.counter ref ≤ 0 then
        { sh with perIPConnections := sh.perIPConnections.filter (·.1 != ip) }
      else sh)
  | .refused, sh => (.refused, sh)
  | .released, sh => (.released, sh)

/-- `cleanup`: under `mu.Lock`, every entry whose counter reads zero or less is deleted. -/
def Shared.cleanup (sh : Shared κ) : Shared κ :=
  { sh with perIPConnections := sh.perIPConnections.filter fun e => 0 < sh.counter e.2 }

/-- The shared state and every goroutine. -/
structure Limiter (κ : Type) where
  shared : Shared κ
  threads : List (Thread κ)
deriving Repr, DecidableEq

/-- What the scheduler runs next: one step of a goroutine, or a pass of `cleanup`. -/
inductive Move where
  | step (thread : Nat)
  | cleanup
deriving Repr, DecidableEq

/-- One move of the scheduler; a move of a goroutine that does not exist changes nothing. -/
def Limiter.move (cfg : Config) (l : Limiter κ) : Move → Limiter κ
  | .step i =>
    match l.threads.get? i with
    | some t =>
      let next := Thread.step cfg t.ip t.trusted t.pc l.shared
      { shared := next.2, threads := l.threads.set i { t with pc := next.1 } }
    | none => l
  | .cleanup => { l with shared := l.shared.cleanup }

/-- An interleaving: the moves one after another. -/
def Limiter.run (cfg : Config) (l : Limiter κ) (moves : List Move) : Limiter κ :=
  moves.foldl (Limiter.move cfg) l

/-- A fresh limiter and one goroutine about to call `Accept` for each connection of `conns`: the
key of its address and whether `isTrustedConnection` holds of it. -/
def Limiter.initial (conns : List (κ × Bool)) : Limiter κ :=
  ⟨⟨0, [], []⟩, conns.map fun conn => ⟨conn.1, conn.2, .start⟩⟩

/-- The connection is accepted and its release function not yet called. -/
def Pc.live : Pc → Bool
  | .accepted _ => true
  | _ => false

/-- Accepted connections not yet released. -/
def Limiter.liveCount (l : Limiter κ) : Nat :=
  l.threads.countP (·.pc.live)

/-- Accepted connections with the key `ip` not yet released. -/
def Limiter.liveFrom (l : Limiter κ) (ip : κ) : Nat :=
  l.threads.countP fun t => t.ip == ip && t.pc.live

/-- Accepted connections with the key `ip` not yet released that are counted per IP. -/
def Limiter.liveTracked (cfg : Config) (l : Limiter κ) (ip : κ) : Nat :=
  l.threads.countP fun t => t.ip == ip && t.pc.live && cfg.tracks t.trusted

/-! ### Addresses -/

/-- `isTrustedConnection`: the IP of a `*net.TCPAddr` or `*net.UDPAddr`, or the host of any
other address's text as `net.ParseIP` reads it, lies in one of the trusted networks. An address
whose text does not split into host and port is not trusted. -/
def isTrustedConnection (cfg : Config) (parseIP : Bytes → Option IP) (remoteAddr : Addr) : Bool :=
  if cfg.trustedNets.isEmpty then false
  else match remoteAddr with
    | .ipPort ip _ => cfg.trustedNets.any (· ip)
    | .other text =>
      match splitHostPort text with
      | none => false
      | some (host, _) =>
        match parseIP host with
        | none => false
        | some ip => cfg.trustedNets.any (· ip)

/-- The key `CanAccept` and `Accept` file an address under: the host `net.SplitHostPort` finds in
its text, or the whole text when it does not split. -/
def addrKey (remoteAddr : Addr) : Bytes :=
  match splitHostPort remoteAddr.text with
  | some (host, _) => host
  | none => remoteAddr.text

/-! ### Calls one after another -/

/-- The goroutine has returned from its call: `Accept` with an error or with its release
function, or the release function itself. -/
def Pc.returned : Pc → Bool
  | .refused | .accepted _ | .released => true
  | _ => false

/-- One goroutine alone, stepped for at most `fuel` steps until it returns. -/
def Thread.run (cfg : Config) (ip : κ) (trusted : Bool) :
    Nat → Pc → Shared κ → Pc × Shared κ
  | 0, pc, sh => (pc, sh)
  | fuel + 1, pc, sh =>
    if pc.returned then (pc, sh)
    else
      let next := Thread.step cfg ip trusted pc sh
      Thread.run cfg ip trusted fuel next.1 next.2

/-- A limiter with no connection. -/
def Limiter.empty : Limiter κ :=
  ⟨⟨0, [], []⟩, []⟩

/-- `Accept(remoteAddr)`, run to its return while no other goroutine moves (six steps are
enough): whether it returned a release function, and the limiter after. The new connection is
the goroutine `l.threads.length`. -/
def Limiter.accept (cfg : Config) (parseIP : Bytes → Option IP) (l : Limiter Bytes)
    (remoteAddr : Addr) : Bool × Limiter Bytes :=
  let trusted := isTrustedConnection cfg parseIP remoteAddr
  let done := Thread.run cfg (addrKey remoteAddr) trusted 6 .start l.shared
  (done.1.live, ⟨done.2, l.threads ++ [⟨addrKey remoteAddr, trusted, done.1⟩]⟩)

/-- The release function of connection `conn`, run to its return (three steps after the call
are enough). Only a function `Accept` returned and nobody has called yet is called. -/
def Limiter.release (cfg : Config) (l : Limiter κ) (conn : Nat) : Limiter κ :=
  match l.threads[conn]? with
  | some t =>
    match t.pc with
    | .accepted counter =>
      let done := Thread.run cfg t.ip t.trusted 3 (.releaseTotal counter) l.shared
      ⟨done.2, l.threads.set conn { t with pc := done.1 }⟩
    | _ => l
  | none => l

/-- `GetStats`: `currentTotal`, and each entry's key with its counter. -/
def Limiter.stats (l : Limiter κ) : Int × List (κ × Int) :=
  (l.shared.currentTotal, l.shared.perIPConnections.map fun e => (e.1, l.shared.counter e.2))

/-- A call on the limiter. -/
inductive Call where
  | accept (remoteAddr : Addr)
  /-- The release function of the `conn`-th connection accepted or refused. -/
  | release (conn : Nat)
  | cleanup
  | getStats

/-- One call, run to its return. `GetStats` reads under `mu.RLock` and changes nothing. -/
def Limiter.call (cfg : Config) (parseIP : Bytes → Option IP) (l : Limiter Bytes) :
    Call → Limiter Bytes
  | .accept remoteAddr => (l.accept cfg parseIP remoteAddr).2
  | .release conn => l.release cfg conn
  | .cleanup => { l with shared := l.shared.cleanup }
  | .getStats => l

/-- A sequential run: the calls one after another. -/
def Limiter.calls (cfg : Config) (parseIP : Bytes → Option IP) (l : Limiter Bytes)
    (calls : List Call) : Limiter Bytes :=
  calls.foldl (Limiter.call cfg parseIP) l

end Sora.Server

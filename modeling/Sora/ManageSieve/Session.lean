import Sora.ManageSieve.Wire
import Sora.Db.SieveScripts

/-
Module: Sora.ManageSieve.Session
Purpose: The state of a `ManageSieveSession` of `server/userapi/message_list.go` and the parts
  of it every command shares: the session mutex, the calls `handleConnection` defers, `Close`,
  the capability lines, and the two ways of authenticating (`LOGIN` and SASL `PLAIN`).
Trusted boundary: `MutexTimeoutHelper` is not under src. An acquisition times out exactly when
  the session itself still holds the mutex in a conflicting mode; no other goroutine holds it
  across a command. `server.NewAddress`, the `rdb` account lookups, `sieve.Load`, the rate
  limiter, the session context and the TLS handshake are the `Oracle`.
Main exports: Lock, User, ServerConfig, Oracle, Session, World, Event, Presented, close,
  capabilityLines, loginCredentials, saslPlain, authenticateSession
-/

namespace Sora.ManageSieve

open Sora.Db

/-! ### The mutex -/

/-- The session's `sync.RWMutex`: whether a writer holds it, and how many readers. -/
structure Lock where
  writer : Bool
  readers : Nat
deriving Repr, DecidableEq

/-- Nobody holds the mutex. -/
def Lock.free : Lock := ⟨false, 0⟩

/-- `AcquireWriteLockWithTimeout`. -/
def Lock.acquireWrite (l : Lock) : Option Lock :=
  if !l.writer && l.readers == 0 then some { l with writer := true } else none

/-- `AcquireReadLockWithTimeout`. -/
def Lock.acquireRead (l : Lock) : Option Lock :=
  if !l.writer then some { l with readers := l.readers + 1 } else none

/-- The `release` of a write lock. -/
def Lock.releaseWrite (l : Lock) : Lock :=
  { l with writer := false }

/-! ### Configuration and the outside world -/

/-- `server.User`: the full address `server.NewAddress` parsed, and the account id. -/
structure User where
  address : Bytes
  userId : Int
deriving Repr, DecidableEq

/-- The fields of `ManageSieveServer` a session reads. -/
structure ServerConfig where
  masterSASLUsername : Bytes
  masterSASLPassword : Bytes
  useStartTLS : Bool
  /-- `tlsConfig != nil` -/
  tlsConfigured : Bool
  insecureAuth : Bool
  maxScriptSize : Int
  supportedExtensions : List Bytes
  /-- `authLimiter != nil` -/
  authLimiter : Bool

/-- What the session's outside world answers. Answers that may change while the session runs
are indexed by the iteration of the command loop. -/
structure Oracle where
  /-- `strings.ToUpper` of text that is not ASCII. -/
  unicodeUpper : Bytes → Bytes
  /-- `server.NewAddress(s)` followed by `FullAddress()`. -/
  newAddress : Bytes → Option Bytes
  /-- `sieve.Load` under the given extensions: the error text, or `none` when it loads. -/
  sieveLoad : Bytes → List Bytes → Option Bytes
  /-- `rdb.AuthenticateWithRetry(address, password)`. -/
  authenticate : Bytes → Bytes → Option Int
  /-- `rdb.GetAccountIDByAddressWithRetry(address)`. -/
  accountIdByAddress : Bytes → Option Int
  /-- `authLimiter.CanAttemptAuthWithProxy` refuses. -/
  rateLimited : Nat → Bool
  /-- `s.ctx.Err() != nil`. -/
  cancelled : Nat → Bool
  /-- `tlsConn.Handshake()` fails. -/
  handshakeFails : Nat → Bool
  /-- The `now()` of the statements a command sends. -/
  now : Nat → Int
  /-- The largest buffer `make([]byte, n)` returns; a larger one ends the process. -/
  maxAlloc : Nat

/-! ### The session -/

/-- A call `handleConnection` deferred to its return. -/
inductive Deferred where
  /-- `defer s.Close()` -/
  | close
  /-- `defer release()` of a write lock -/
  | release
deriving Repr, DecidableEq

/-- The fields of `ManageSieveSession` the commands read and write. `reader` is what
`s.reader` will still yield; `tlsInput` what the client sends once TLS is up. -/
structure Session where
  authenticated : Bool
  user : Option User
  isTLS : Bool
  useMasterDB : Bool
  lock : Lock
  reader : Bytes
  tlsInput : Bytes
  /-- `s.releaseConn != nil` -/
  releaseConn : Bool
  deferred : List Deferred

/-- The counters of the server a session moves. -/
structure Counters where
  totalConnections : Int
  authenticatedConnections : Int
  /-- `metrics.ConnectionsCurrent` -/
  connectionsCurrent : Int
  /-- `metrics.AuthenticatedConnectionsCurrent` -/
  authenticatedConnectionsCurrent : Int
  /-- Calls of the limiter's release function. -/
  limiterReleases : Nat
deriving Repr, DecidableEq

/-- A call the session makes on `rdb`. -/
inductive Call where
  | authenticate (address password : Bytes)
  | accountIdByAddress (address : Bytes)
  | getUserScripts (userId : Int)
  | getScriptByName (name : Bytes) (userId : Int)
  | createScript (userId : Int) (name script : Bytes)
  | updateScript (scriptId userId : Int) (name script : Bytes)
  | setScriptActive (scriptId userId : Int)
  | deleteScript (scriptId userId : Int)
deriving Repr, DecidableEq

/-- The account a call on `sieve_scripts` names, if it is one. -/
def Call.scriptAccount : Call → Option Int
  | .getUserScripts userId | .getScriptByName _ userId | .createScript userId _ _
  | .updateScript _ userId _ _ | .setScriptActive _ userId | .deleteScript _ userId => some userId
  | .authenticate .. | .accountIdByAddress .. => none

/-- The credentials of an authentication, as the command carried them. -/
inductive Presented where
  /-- `LOGIN address password` -/
  | login (address password : Bytes)
  /-- SASL `PLAIN`: authorization identity, authentication identity, password. -/
  | plain (authzId authnId password : Bytes)
deriving Repr, DecidableEq

/-- What the session did that others see, in order. -/
inductive Event where
  | call (c : Call)
  /-- The session became authenticated as `user` on the credentials `presented`. -/
  | authenticated (presented : Presented) (user : User)
deriving Repr, DecidableEq

/-- Everything outside the session: the store behind `rdb`, the counters, the bytes sent to the
client, and the events. -/
structure World where
  store : State
  counters : Counters
  output : Bytes
  events : List Event

/-- Write to the client (every write is flushed before the next read). -/
def World.send (w : World) (bytes : Bytes) : World :=
  { w with output := w.output ++ bytes }

/-- Record a call on `rdb`. -/
def World.record (w : World) (c : Call) : World :=
  { w with events := w.events ++ [.call c] }

@[simp] theorem World.send_events (w : World) (bytes : Bytes) : (w.send bytes).events = w.events :=
  rfl

@[simp] theorem World.send_counters (w : World) (bytes : Bytes) :
    (w.send bytes).counters = w.counters :=
  rfl

@[simp] theorem World.record_events (w : World) (c : Call) :
    (w.record c).events = w.events ++ [.call c] :=
  rfl

@[simp] theorem World.record_counters (w : World) (c : Call) :
    (w.record c).counters = w.counters :=
  rfl

/-- "NO Server busy, try again later" -/
def busy : Bytes := utf8 "NO Server busy, try again later\r\n"

/-! ### `Close` -/

/-- `Close()`. Its write lock, when it gets one, is released as it returns, so the mutex is as
before; without one it closes all the same. -/
def close (s : Session) (w : World) : Session × World :=
  let c := w.counters
  let c := { c with
    totalConnections := c.totalConnections - 1
    connectionsCurrent := c.connectionsCurrent - 1
    limiterReleases := if s.releaseConn then c.limiterReleases + 1 else c.limiterReleases }
  let s := { s with releaseConn := false }
  match s.user with
  | some _ =>
    let c := if s.authenticated then
      { c with
        authenticatedConnections := c.authenticatedConnections - 1
        authenticatedConnectionsCurrent := c.authenticatedConnectionsCurrent - 1 }
      else c
    ({ s with user := none, authenticated := false }, { w with counters := c })
  | none => (s, { w with counters := c })

@[simp] theorem close_user (s : Session) (w : World) : (close s w).1.user = none := by
  unfold close; dsimp only; cases h : s.user <;> simp [h]

@[simp] theorem close_events (s : Session) (w : World) : (close s w).2.events = w.events := by
  unfold close; dsimp only; cases s.user <;> rfl

@[simp] theorem close_totalConnections (s : Session) (w : World) :
    (close s w).2.counters.totalConnections = w.counters.totalConnections - 1 := by
  unfold close; dsimp only
  cases s.user with
  | none => rfl
  | some => dsimp only; split <;> rfl

@[simp] theorem close_deferred (s : Session) (w : World) : (close s w).1.deferred = s.deferred := by
  unfold close; dsimp only; cases s.user <;> rfl

@[simp] theorem close_releaseConn (s : Session) (w : World) : (close s w).1.releaseConn = false := by
  unfold close; dsimp only; cases s.user <;> rfl

@[simp] theorem close_limiterReleases (s : Session) (w : World) :
    (close s w).2.counters.limiterReleases = w.counters.limiterReleases + s.releaseConn.toNat := by
  unfold close; dsimp only
  cases s.user with
  | none => cases s.releaseConn <;> rfl
  | some => dsimp only; split <;> cases s.releaseConn <;> rfl

/-- Run what `handleConnection` deferred, the last deferred first. -/
def runDeferred : List Deferred → Session → World → Session × World
  | [], s, w => (s, w)
  | .release :: rest, s, w => runDeferred rest { s with lock := s.lock.releaseWrite } w
  | .close :: rest, s, w =>
    let (s, w) := close s w
    runDeferred rest s w

/-! ### Capabilities -/

/-- `sendCapabilities`: the full lines under a read lock, released as it returns; two fixed
lines when the read lock times out. -/
def capabilityLines (cfg : ServerConfig) (s : Session) : Bytes :=
  match s.lock.acquireRead with
  | none => utf8 "\"IMPLEMENTATION\" \"ManageSieve\"\r\n\"SIEVE\" \"fileinto vacation\"\r\n"
  | some _ =>
    let extensions := if cfg.supportedExtensions.isEmpty then utf8 "fileinto vacation"
      else (cfg.supportedExtensions.intersperse (utf8 " ")).flatten
    utf8 "\"IMPLEMENTATION\" \"ManageSieve\"\r\n" ++
      utf8 "\"SIEVE\" \"" ++ extensions ++ utf8 "\"\r\n" ++
      (if cfg.tlsConfigured && cfg.useStartTLS && !s.isTLS then utf8 "\"STARTTLS\"\r\n" else []) ++
      (if !s.isTLS && cfg.insecureAuth then utf8 "\"AUTH=PLAIN\"\r\n" else []) ++
      (if 0 < cfg.maxScriptSize then
        utf8 "\"MAXSCRIPTSIZE\" \"" ++ decimal cfg.maxScriptSize ++ utf8 "\"\r\n" else [])

/-- `sendCapabilitiesGreeting`. -/
def greeting (cfg : ServerConfig) (s : Session) : Bytes :=
  capabilityLines cfg s ++
    if cfg.tlsConfigured && cfg.useStartTLS && !s.isTLS then
      utf8 "OK (STARTTLS) \"Sora\" ManageSieve server ready.\r\n"
    else utf8 "OK \"Sora\" ManageSieve server ready.\r\n"

/-! ### Authentication -/

/-- The master credentials are configured and `name`, `password` are exactly them. -/
def masterMatches (cfg : ServerConfig) (name password : Bytes) : Bool :=
  !cfg.masterSASLUsername.isEmpty && !cfg.masterSASLPassword.isEmpty &&
    name == cfg.masterSASLUsername && password == cfg.masterSASLPassword

/-- `LOGIN` after the address parsed and the rate limiter let it through: the master password
first, for the account of the address itself, then `AuthenticateWithRetry`. The account id, or
the response of the failure. -/
def loginCredentials (o : Oracle) (cfg : ServerConfig) (address password : Bytes) (w : World) :
    Except Bytes Int × World :=
  if masterMatches cfg address password then
    let w := w.record (.accountIdByAddress address)
    match o.accountIdByAddress address with
    | some userId => (.ok userId, w)
    | none => (.error (utf8 "NO Authentication failed\r\n"), w)
  else
    let w := w.record (.authenticate address password)
    match o.authenticate address password with
    | some userId => (.ok userId, w)
    | none => (.error (utf8 "NO Authentication failed\r\n"), w)

/-- `handleAuthenticate` from the decoded SASL `PLAIN` triple to the user to become: master
impersonation of the authorization identity, or regular authentication of the authentication
identity. -/
def saslPlain (o : Oracle) (cfg : ServerConfig) (n : Nat) (authzId authnId password : Bytes)
    (w : World) : Except Bytes User × World :=
  if masterMatches cfg authnId password then
    if authzId.isEmpty then
      (.error (utf8 "NO Master SASL login requires an authorization identity.\r\n"), w)
    else match o.newAddress authzId with
      | none => (.error (utf8 "NO Invalid impersonation target user format\r\n"), w)
      | some address =>
        let w := w.record (.accountIdByAddress address)
        match o.accountIdByAddress address with
        | none => (.error (utf8 "NO Impersonation target user not found\r\n"), w)
        | some userId => (.ok ⟨address, userId⟩, w)
  else if !authzId.isEmpty && authzId != authnId then
    (.error (utf8 "NO Proxy authentication not supported\r\n"), w)
  else match o.newAddress authnId with
    | none => (.error (utf8 "NO Invalid username format\r\n"), w)
    | some address =>
      if cfg.authLimiter && o.rateLimited n then
        (.error (utf8 "NO Too many authentication attempts. Please try again later.\r\n"), w)
      else
        let w := w.record (.authenticate address password)
        match o.authenticate address password with
        | none => (.error (utf8 "NO Authentication failed\r\n"), w)
        | some userId => (.ok ⟨address, userId⟩, w)

/-- What both commands do under the write lock once the credentials passed. -/
def authenticateSession (presented : Presented) (user : User) (s : Session) (w : World) :
    Session × World :=
  let c := w.counters
  ({ s with authenticated := true, user := some user },
    World.send { w with
      counters := { c with
        authenticatedConnections := c.authenticatedConnections + 1
        authenticatedConnectionsCurrent := c.authenticatedConnectionsCurrent + 1 }
      events := w.events ++ [.authenticated presented user] }
      (utf8 "OK Authenticated\r\n"))

@[simp] theorem authenticateSession_user (presented : Presented) (user : User) (s : Session)
    (w : World) : (authenticateSession presented user s w).1.user = some user :=
  rfl

@[simp] theorem authenticateSession_events (presented : Presented) (user : User) (s : Session)
    (w : World) :
    (authenticateSession presented user s w).2.events = w.events ++ [.authenticated presented user] :=
  rfl

end Sora.ManageSieve

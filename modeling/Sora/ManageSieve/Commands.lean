import Sora.ManageSieve.Session

/-
Module: Sora.ManageSieve.Commands
Purpose: `handleConnection` of `server/userapi/message_list.go`: the command loop, one case per
  command as the `switch` has it, and the handlers it calls (`handleListScripts`,
  `handleGetScript`, `handlePutScript`, `handleSetActive`, `handleDeleteScript`,
  `handleAuthenticate`).
Trusted boundary: `Sora.ManageSieve.Session`. The `rdb` script calls run the function of
  `db/append.go` of the same name in a transaction of their own, committed when it returns no
  error; the lookups read the store directly. Metrics, logging and `TrackUserActivity` are left
  out: nothing here reads them.
Main exports: Flow, Command, handleLogin, handleAuthenticate, handlePutScript, dispatch,
  commandLoop, Ending, handleConnection
-/

namespace Sora.ManageSieve

open Sora.Db

/-- How an iteration of the command loop ends. -/
inductive Flow where
  /-- On to the next command line (`continue`, or the end of the `switch`). -/
  | next
  /-- `return` from `handleConnection`: its deferred calls run. -/
  | exit
  /-- A runtime panic. -/
  | crash
deriving Repr, DecidableEq

/-- What an iteration leaves: the session, the world, and how it ends. -/
abbrev Outcome := Session × World × Flow

/-- Send a response and go on to the next command. -/
def respond (s : Session) (w : World) (response : String) : Outcome :=
  (s, w.send (utf8 response), .next)

/-- An `rdb` write: the function in a transaction of its own, committed when it returns no
error. Whether it committed. -/
def World.write {α : Type} (w : World) (c : Call) (f : Tx → Except ScriptError α × Tx) :
    Bool × World :=
  let settled := settle w.store (f (Tx.begin w.store))
  (settled.2, { w.record c with store := settled.1 })

@[simp] theorem World.write_events {α : Type} (w : World) (c : Call)
    (f : Tx → Except ScriptError α × Tx) : (w.write c f).2.events = w.events ++ [.call c] :=
  rfl

/-- Phase 3 of the script handlers: pin the session to the master database under a write lock,
released at once; when the lock times out, nothing changes. -/
def pinMaster (s : Session) : Session :=
  match s.lock.acquireWrite with
  | some _ => { s with useMasterDB := true }
  | none => s

@[simp] theorem pinMaster_user (s : Session) : (pinMaster s).user = s.user := by
  unfold pinMaster; split <;> rfl

/-- Phase 1 of every script handler: `UserID()` under a read lock that is released at once. The
user is there whenever `authenticated` is; were it not, `UserID()` on a nil `*User` would
panic. -/
def withUserId (s : Session) (w : World) (body : Int → Outcome) : Outcome :=
  match s.lock.acquireRead with
  | none => (s, w.send busy, .next)
  | some _ =>
    match s.user with
    | some user => body user.userId
    | none => (s, w, .crash)

/-! ### Script commands -/

/-- One line of the `LISTSCRIPTS` response. -/
def scriptLine (script : SieveScriptRow) : Bytes :=
  utf8 "\"" ++ script.name ++ utf8 "\"" ++ (if script.active then utf8 " ACTIVE" else []) ++
    utf8 "\r\n"

/-- `handleListScripts`. -/
def handleListScripts (o : Oracle) (n : Nat) (s : Session) (w : World) : Outcome :=
  if o.cancelled n then respond s w "NO Session closed\r\n" else
  withUserId s w fun userId =>
    let w := w.record (.getUserScripts userId)
    (s, w.send ((getUserScripts userId w.store).flatMap scriptLine ++ utf8 "OK\r\n"), .next)

/-- `handleGetScript`. -/
def handleGetScript (o : Oracle) (n : Nat) (name : Bytes) (s : Session) (w : World) : Outcome :=
  if o.cancelled n then respond s w "NO Session closed\r\n" else
  withUserId s w fun userId =>
    let w := w.record (.getScriptByName name userId)
    match getScriptByName name userId w.store with
    | .ok (some script) =>
      (s, w.send (utf8 "\x7b" ++ decimal script.script.length ++ utf8 "\x7d\r\n" ++ script.script ++
        utf8 "OK\r\n"), .next)
    | _ => respond s w "NO No such script\r\n"

/-- `handlePutScript`: the name loses its surrounding quotes, the script is checked against
`MAXSCRIPTSIZE` and `sieve.Load`, then updated when the name exists and created otherwise. -/
def handlePutScript (o : Oracle) (cfg : ServerConfig) (n : Nat) (name content : Bytes)
    (s : Session) (w : World) : Outcome :=
  if o.cancelled n then respond s w "NO Session closed\r\n" else
  let name := trimByte name 0x22
  if name.isEmpty then respond s w "NO Script name cannot be empty\r\n" else
  withUserId s w fun userId =>
    if 0 < cfg.maxScriptSize ∧ cfg.maxScriptSize < content.length then
      (s, w.send (utf8 "NO (MAXSCRIPTSIZE) Script size " ++ decimal content.length ++
        utf8 " exceeds maximum allowed size " ++ decimal cfg.maxScriptSize ++ utf8 "\r\n"), .next)
    else match o.sieveLoad content cfg.supportedExtensions with
    | some error => (s, w.send (utf8 "NO Script validation failed: " ++ error ++ utf8 "\r\n"), .next)
    | none =>
      let w := w.record (.getScriptByName name userId)
      match getScriptByName name userId w.store with
      | .error _ => respond s w "NO Internal server error\r\n"
      | .ok (some script) =>
        match w.write (.updateScript script.id userId name content)
            (updateScript · script.id userId name content (o.now n)) with
        | (true, w) => respond (pinMaster s) w "OK Script updated\r\n"
        | (false, w) => respond s w "NO Internal server error\r\n"
      | .ok none =>
        match w.write (.createScript userId name content)
            (createScript · userId name content (o.now n)) with
        | (true, w) => respond (pinMaster s) w "OK Script stored\r\n"
        | (false, w) => respond s w "NO Internal server error\r\n"

/-- `handleSetActive`. -/
def handleSetActive (o : Oracle) (cfg : ServerConfig) (n : Nat) (name : Bytes) (s : Session)
    (w : World) : Outcome :=
  if o.cancelled n then respond s w "NO Session closed\r\n" else
  withUserId s w fun userId =>
    let w := w.record (.getScriptByName name userId)
    match getScriptByName name userId w.store with
    | .ok none => respond s w "NO No such script\r\n"
    | .error _ => respond s w "NO Internal server error\r\n"
    | .ok (some script) =>
      match o.sieveLoad script.script cfg.supportedExtensions with
      | some error =>
        (s, w.send (utf8 "NO Script validation failed: " ++ error ++ utf8 "\r\n"), .next)
      | none =>
        match w.write (.setScriptActive script.id userId)
            (setScriptActive · script.id userId true (o.now n)) with
        | (true, w) => respond (pinMaster s) w "OK Script activated\r\n"
        | (false, w) => respond s w "NO Internal server error\r\n"

/-- `handleDeleteScript`. -/
def handleDeleteScript (o : Oracle) (n : Nat) (name : Bytes) (s : Session) (w : World) :
    Outcome :=
  if o.cancelled n then respond s w "NO Session closed\r\n" else
  withUserId s w fun userId =>
    let w := w.record (.getScriptByName name userId)
    match getScriptByName name userId w.store with
    | .ok none => respond s w "NO No such script\r\n"
    | .error _ => respond s w "NO Internal server error\r\n"
    | .ok (some script) =>
      match w.write (.deleteScript script.id userId) (deleteScript · script.id userId) with
      | (true, w) => respond (pinMaster s) w "OK Script deleted\r\n"
      | (false, w) => respond s w "NO Internal server error\r\n"

/-! ### Authentication commands -/

/-- The `LOGIN` case. Its write lock is released by a `defer` in `handleConnection`'s frame,
that is when `handleConnection` returns. -/
def handleLogin (o : Oracle) (cfg : ServerConfig) (n : Nat) (parts : List Bytes) (s : Session)
    (w : World) : Outcome :=
  match parts with
  | _ :: userAddress :: password :: _ =>
    match o.newAddress userAddress with
    | none => respond s w "NO Invalid address\r\n"
    | some address =>
      if cfg.authLimiter && o.rateLimited n then
        respond s w "NO Too many authentication attempts. Please try again later.\r\n"
      else match loginCredentials o cfg address password w with
        | (.error response, w) => (s, w.send response, .next)
        | (.ok userId, w) =>
          if o.cancelled n then (s, w, .next)
          else match s.lock.acquireWrite with
            | none => (s, w.send busy, .next)
            | some lock =>
              let (s, w) := authenticateSession (.login userAddress password) ⟨address, userId⟩
                { s with lock := lock, deferred := .release :: s.deferred } w
              (s, w, .next)
  | _ => respond s w "NO Syntax: LOGIN address password\r\n"

/-- The SASL data of `AUTHENTICATE PLAIN`: the initial response, or the line read after the
empty continuation. `none` once the command has answered. -/
def authData (rest : List Bytes) (s : Session) (w : World) : Option Bytes × Session × World :=
  match rest with
  | data :: _ => (some data, s, w)
  | [] =>
    let w := w.send (utf8 "\"\"\r\n")
    match readString s.reader with
    | none => (none, { s with reader := [] }, w.send (utf8 "NO Authentication failed\r\n"))
    | some (line, reader) =>
      let data := trimSpace line
      if data = utf8 "*" then
        (none, { s with reader := reader }, w.send (utf8 "NO Authentication cancelled\r\n"))
      else (some data, { s with reader := reader }, w)

/-- `handleAuthenticate`. Its write lock is released as it returns. -/
def handleAuthenticate (o : Oracle) (cfg : ServerConfig) (n : Nat) (parts : List Bytes)
    (s : Session) (w : World) : Outcome :=
  match parts with
  | _ :: mechanism :: rest =>
    if toUpper o.unicodeUpper mechanism ≠ utf8 "PLAIN" then
      respond s w "NO Unsupported authentication mechanism\r\n"
    else match authData rest s w with
      | (none, s, w) => (s, w, .next)
      | (some data, s, w) =>
        match decodeBase64 data with
        | none => respond s w "NO Invalid authentication data\r\n"
        | some decoded =>
          match split decoded 0 with
          | [authzId, authnId, password] =>
            match saslPlain o cfg n authzId authnId password w with
            | (.error response, w) => (s, w.send response, .next)
            | (.ok user, w) =>
              if o.cancelled n then (s, w, .next)
              else match s.lock.acquireWrite with
                | none => (s, w.send busy, .next)
                | some _ =>
                  let (s, w) := authenticateSession (.plain authzId authnId password) user s w
                  (s, w, .next)
          | _ => respond s w "NO Invalid authentication format\r\n"
  | _ => respond s w "NO Syntax: AUTHENTICATE mechanism\r\n"

/-! ### The loop -/

/-- The cases of the `switch` on the upper-cased first word. -/
inductive Command where
  | capability | login | authenticate | listScripts | getScript | putScript | setActive
  | deleteScript | startTLS | noop | logout | unknown
deriving Repr, DecidableEq

/-- Which case a command word selects. -/
def Command.ofWord (word : Bytes) : Command :=
  if word = utf8 "CAPABILITY" then .capability
  else if word = utf8 "LOGIN" then .login
  else if word = utf8 "AUTHENTICATE" then .authenticate
  else if word = utf8 "LISTSCRIPTS" then .listScripts
  else if word = utf8 "GETSCRIPT" then .getScript
  else if word = utf8 "PUTSCRIPT" then .putScript
  else if word = utf8 "SETACTIVE" then .setActive
  else if word = utf8 "DELETESCRIPT" then .deleteScript
  else if word = utf8 "STARTTLS" then .startTLS
  else if word = utf8 "NOOP" then .noop
  else if word = utf8 "LOGOUT" then .logout
  else .unknown

/-- The `PUTSCRIPT` case: a script argument `{n+}` announces a literal of `n` bytes, read
after the `+` continuation. -/
def handlePutScriptCommand (o : Oracle) (cfg : ServerConfig) (n : Nat) (name content : Bytes)
    (s : Session) (w : World) : Outcome :=
  if (utf8 "\x7b").isPrefixOf content && (utf8 "+\x7d").isSuffixOf content then
    match sscanInt (trimSuffix (trimPrefix content (utf8 "\x7b")) (utf8 "+\x7d")) with
    | none => respond s w "NO Invalid literal string length\r\n"
    | some length =>
      if length < 0 then respond s w "NO Invalid literal string length\r\n" else
      let w := w.send (utf8 "+\r\n")
      if o.maxAlloc < length.toNat then (s, w, .crash) else
      match readFull s.reader length.toNat with
      | (none, reader) => respond { s with reader := reader } w
          "NO Failed to read literal string content\r\n"
      | (some literal, reader) => handlePutScript o cfg n name literal { s with reader := reader } w
  else handlePutScript o cfg n name content s w

/-- The `STARTTLS` case. After the handshake the write lock is taken to switch the reader to the
TLS connection; it is released when `handleConnection` returns. -/
def handleStartTLS (o : Oracle) (cfg : ServerConfig) (n : Nat) (s : Session) (w : World) :
    Outcome :=
  if !cfg.useStartTLS || !cfg.tlsConfigured then respond s w "NO STARTTLS not supported\r\n"
  else if s.isTLS then respond s w "NO TLS already active\r\n"
  else
    let w := w.send (utf8 "OK Begin TLS negotiation\r\n")
    if o.handshakeFails n then respond s w "NO TLS handshake failed\r\n"
    else if o.cancelled n then (s, w, .exit)
    else match s.lock.acquireWrite with
      | none => (s, w.send busy, .next)
      | some lock =>
        let s := { s with
          lock := lock
          deferred := .release :: s.deferred
          reader := s.tlsInput
          isTLS := true }
        (s, w, .next)

/-- One command line, split by `strings.SplitN(line, " ", 3)`. -/
def dispatch (o : Oracle) (cfg : ServerConfig) (n : Nat) (parts : List Bytes) (s : Session)
    (w : World) : Outcome :=
  match Command.ofWord (toUpper o.unicodeUpper (parts.headD [])) with
  | .capability => (s, w.send (capabilityLines cfg s ++ utf8 "OK\r\n"), .next)
  | .login => handleLogin o cfg n parts s w
  | .authenticate => handleAuthenticate o cfg n parts s w
  | .listScripts =>
    if !s.authenticated then respond s w "NO Not authenticated\r\n"
    else handleListScripts o n s w
  | .getScript =>
    if !s.authenticated then respond s w "NO Not authenticated\r\n"
    else match parts with
      | _ :: name :: _ => handleGetScript o n name s w
      | _ => respond s w "NO Syntax: GETSCRIPT scriptName\r\n"
  | .putScript =>
    if !s.authenticated then respond s w "NO Not authenticated\r\n"
    else match parts with
      | _ :: name :: content :: _ => handlePutScriptCommand o cfg n name content s w
      | _ => respond s w "NO Syntax: PUTSCRIPT scriptName scriptContent\r\n"
  | .setActive =>
    if !s.authenticated then respond s w "NO Not authenticated\r\n"
    else match parts with
      | _ :: name :: _ => handleSetActive o cfg n name s w
      | _ => respond s w "NO Syntax: SETACTIVE scriptName\r\n"
  | .deleteScript =>
    if !s.authenticated then respond s w "NO Not authenticated\r\n"
    else match parts with
      | _ :: name :: _ => handleDeleteScript o n name s w
      | _ => respond s w "NO Syntax: DELETESCRIPT scriptName\r\n"
  | .startTLS => handleStartTLS o cfg n s w
  | .noop => respond s w "OK\r\n"
  | .logout =>
    let (s, w) := close s (w.send (utf8 "OK Goodbye\r\n"))
    (s, w, .exit)
  | .unknown => respond s w "NO Unknown command\r\n"

/-- How `handleConnection` ended. -/
inductive Ending where
  /-- `ReadString` failed: end of input or a read error. -/
  | readFailed
  /-- A `return` from inside the loop: `LOGOUT`, or a context cancelled during `STARTTLS`. -/
  | returned
  /-- A runtime panic. -/
  | crashed
  /-- Still reading: the fuel ran out first. -/
  | running
deriving Repr, DecidableEq

/-- Return from `handleConnection`: the deferred calls run, the last deferred first. -/
def finish (s : Session) (w : World) : Session × World :=
  runDeferred s.deferred { s with deferred := [] } w

/-- The `for` loop of `handleConnection` from iteration `n`, for at most `fuel` more lines. -/
def commandLoop (o : Oracle) (cfg : ServerConfig) : Nat → Nat → Session → World →
    Session × World × Ending
  | 0, _, s, w => (s, w, .running)
  | fuel + 1, n, s, w =>
    match readString s.reader with
    | none =>
      let (s, w) := finish { s with reader := [] } w
      (s, w, .readFailed)
    | some (line, reader) =>
      let s := { s with reader := reader }
      let line := trimSpace line
      if line.isEmpty then commandLoop o cfg fuel (n + 1) s w
      else match dispatch o cfg n (splitN line 0x20 3) s w with
        | (s, w, .next) => commandLoop o cfg fuel (n + 1) s w
        | (s, w, .exit) =>
          let (s, w) := finish s w
          (s, w, .returned)
        | (s, w, .crash) => (s, w, .crashed)

/-- A session as accepted: unauthenticated, holding the limiter slot, with `Close` deferred. -/
def Session.start (input tlsInput : Bytes) : Session where
  authenticated := false
  user := none
  isTLS := false
  useMasterDB := false
  lock := Lock.free
  reader := input
  tlsInput := tlsInput
  releaseConn := true
  deferred := [.close]

/-- `handleConnection` on a fresh session: the greeting, then the loop. -/
def handleConnection (o : Oracle) (cfg : ServerConfig) (fuel : Nat) (input tlsInput : Bytes)
    (w : World) : Session × World × Ending :=
  let s := Session.start input tlsInput
  commandLoop o cfg fuel 0 s (w.send (greeting cfg s))

end Sora.ManageSieve

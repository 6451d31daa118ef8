import Sora.ManageSieve.Commands

/-
Module: Sora.Proofs.SessionDefects
Purpose: Where `handleConnection` departs from what its session should do. The write lock of
  `LOGIN` and `STARTTLS` is released by a `defer`, so only when `handleConnection` returns, and
  every later command that needs the mutex answers busy. `LOGOUT` runs `Close` and returns, so
  the deferred `Close` runs a second time. Every successful `AUTHENTICATE` counts the session as
  authenticated again, while `Close` takes it back once. `PUTSCRIPT` strips the quotes of the
  script name and `GETSCRIPT` does not, and `GETSCRIPT` sends no line break between the literal
  and `OK`. `PUTSCRIPT` allocates the buffer of a literal `{n+}` before `handlePutScript`
  compares `n` with `MAXSCRIPTSIZE`. `STARTTLS` after `LOGIN` cannot take the write lock, and
  keeps reading the plaintext bytes buffered before the handshake. The literal's allocation is
  a lemma over every session; each defect is then one run.
Trusted boundary: `Sora.ManageSieve.Commands`. The counters of a `World` are what the session
  adds to the server's, so a session that is closed once leaves `totalConnections` at `-1`.
Main exports: literalArgument, exampleConfig, exampleOracle, exampleWorld, scriptWriter
-/

namespace Sora.ManageSieve

open Sora.Db

/-! ### The mechanisms -/

/-- The script argument `{n+}` of `PUTSCRIPT`, with `n` written as `digits`. -/
def literalArgument (digits : Bytes) : Bytes :=
  utf8 "\x7b" ++ digits ++ utf8 "+\x7d"

/-- `PUTSCRIPT name {n+}` allocates `n` bytes, whatever `MAXSCRIPTSIZE` is: past the largest
buffer the runtime gives, the session panics after the continuation `+`; otherwise the literal
is read whole, and only then does `handlePutScript` see its length. -/
theorem literal_allocated_before_size_check (o : Oracle) (cfg : ServerConfig) (n : Nat)
    (name digits : Bytes) (s : Session) (w : World) (nonempty : digits ≠ [])
    (decimal : ∀ d ∈ digits, 0x30 ≤ d ∧ d ≤ 0x39) (fits : digitsValue digits < 2 ^ 63) :
    (o.maxAlloc < digitsValue digits →
      handlePutScriptCommand o cfg n name (literalArgument digits) s w =
        (s, w.send (utf8 "+\r\n"), .crash)) ∧
    (digitsValue digits ≤ o.maxAlloc → digitsValue digits ≤ s.reader.length →
      handlePutScriptCommand o cfg n name (literalArgument digits) s w =
        handlePutScript o cfg n name (s.reader.take (digitsValue digits))
          { s with reader := s.reader.drop (digitsValue digits) } (w.send (utf8 "+\r\n"))) := by
  have framed : ((utf8 "\x7b").isPrefixOf (literalArgument digits) &&
      (utf8 "+\x7d").isSuffixOf (literalArgument digits)) = true := by
    simp only [literalArgument, Bool.and_eq_true, List.isPrefixOf_iff_prefix,
      List.isSuffixOf_iff_suffix]
    exact ⟨List.append_assoc _ digits _ ▸ List.prefix_append _ _, List.suffix_append _ _⟩
  have announced : sscanInt (trimSuffix (trimPrefix (literalArgument digits) (utf8 "\x7b"))
      (utf8 "+\x7d")) = some (digitsValue digits : Int) := by
    rw [literalArgument, List.append_assoc, trimPrefix_append, trimSuffix_append]
    exact sscanInt_digits nonempty decimal fits
  unfold handlePutScriptCommand
  rw [if_pos framed, announced]
  dsimp only
  rw [if_neg (by omega), Int.toNat_ofNat]
  refine ⟨fun big => if_pos big, fun small enough => ?_⟩
  rw [if_neg (by omega), readFull, if_pos enough]

/-- `PUTSCRIPT` refuses a script longer than `MAXSCRIPTSIZE` after it has it whole, and changes
nothing but what it sends. -/
theorem handlePutScript_too_large {o : Oracle} {cfg : ServerConfig} {n : Nat} {name content : Bytes}
    {s : Session} {w : World} {user : User} (live : o.cancelled n = false)
    (named : (trimByte name 0x22).isEmpty = false) (unlocked : s.lock.writer = false)
    (authenticated : s.user = some user)
    (large : 0 < cfg.maxScriptSize ∧ cfg.maxScriptSize < content.length) :
    handlePutScript o cfg n name content s w =
      (s, w.send (utf8 "NO (MAXSCRIPTSIZE) Script size " ++ decimal content.length ++
        utf8 " exceeds maximum allowed size " ++ decimal cfg.maxScriptSize ++ utf8 "\r\n"), .next) := by
  simp [handlePutScript, withUserId, Lock.acquireRead, live, named, unlocked, authenticated, large]

/-! ### One session of each -/

/-- A server with scripts of at most 16384 bytes, and without master credentials, `STARTTLS`,
`AUTH=PLAIN` in clear or rate limiter. -/
def exampleConfig : ServerConfig where
  masterSASLUsername := []
  masterSASLPassword := []
  useStartTLS := false
  tlsConfigured := false
  insecureAuth := false
  maxScriptSize := 16384
  supportedExtensions := []
  authLimiter := false

/-- The same server with `STARTTLS` configured. -/
def exampleStartTLSConfig : ServerConfig :=
  { exampleConfig with useStartTLS := true, tlsConfigured := true }

/-- One account, `u@example.com` with the password `secret` and the id 7. Every address parses as
written, every script loads, and nothing is cancelled or fails. `make([]byte, n)` panics past the
runtime's `maxAlloc`, `1 << 48` on linux/amd64. -/
def exampleOracle : Oracle where
  unicodeUpper := id
  newAddress := some
  sieveLoad := fun _ _ => none
  authenticate := fun address password =>
    if address = utf8 "u@example.com" ∧ password = utf8 "secret" then some 7 else none
  accountIdByAddress := fun _ => none
  rateLimited := fun _ => false
  cancelled := fun _ => false
  handshakeFails := fun _ => false
  now := fun _ => 0
  maxAlloc := 281474976710656

/-- An empty store; nothing counted or sent yet. -/
def exampleWorld : World :=
  ⟨State.empty, ⟨0, 0, 0, 0, 0⟩, [], []⟩

set_option maxRecDepth 2000 in
/-- After a successful `LOGIN`, `LISTSCRIPTS` answers busy; after a successful `STARTTLS`, so
does `AUTHENTICATE` (`AHVAZXhhbXBsZS5jb20Ac2VjcmV0` is `PLAIN` for `u@example.com`, `secret`). -/
theorem login_lock_outlives_command :
    (handleConnection exampleOracle exampleConfig 2
        (utf8 "LOGIN u@example.com secret\r\nLISTSCRIPTS\r\n") [] exampleWorld).2.1.output =
      utf8 ("\"IMPLEMENTATION\" \"ManageSieve\"\r\n\"SIEVE\" \"fileinto vacation\"\r\n" ++
        "\"MAXSCRIPTSIZE\" \"16384\"\r\nOK \"Sora\" ManageSieve server ready.\r\n" ++
        "OK Authenticated\r\nNO Server busy, try again later\r\n") ∧
    (handleConnection exampleOracle exampleStartTLSConfig 2 (utf8 "STARTTLS\r\n")
        (utf8 "AUTHENTICATE PLAIN AHVAZXhhbXBsZS5jb20Ac2VjcmV0\r\n") exampleWorld).2.1.output =
      utf8 ("\"IMPLEMENTATION\" \"ManageSieve\"\r\n\"SIEVE\" \"fileinto vacation\"\r\n" ++
        "\"STARTTLS\"\r\n\"MAXSCRIPTSIZE\" \"16384\"\r\n" ++
        "OK (STARTTLS) \"Sora\" ManageSieve server ready.\r\n" ++
        "OK Begin TLS negotiation\r\nNO Server busy, try again later\r\n") := by
  decide

/-- A session ended by `LOGOUT` takes two connections off `totalConnections`; a session that
authenticates twice and ends leaves `authenticatedConnections` one higher. -/
theorem session_counters_drift :
    (handleConnection exampleOracle exampleConfig 1 (utf8 "LOGOUT\r\n") [] exampleWorld).2.1.counters =
        ⟨-2, 0, -2, 0, 1⟩ ∧
      (handleConnection exampleOracle exampleConfig 1 (utf8 "LOGOUT\r\n") [] exampleWorld).2.2 =
        .returned ∧
      (handleConnection exampleOracle exampleConfig 3
          (utf8 ("AUTHENTICATE PLAIN AHVAZXhhbXBsZS5jb20Ac2VjcmV0\r\n" ++
            "AUTHENTICATE PLAIN AHVAZXhhbXBsZS5jb20Ac2VjcmV0\r\n")) [] exampleWorld).2.1.counters =
        ⟨-1, 1, -1, 1, 1⟩ ∧
      (handleConnection exampleOracle exampleConfig 3
          (utf8 ("AUTHENTICATE PLAIN AHVAZXhhbXBsZS5jb20Ac2VjcmV0\r\n" ++
            "AUTHENTICATE PLAIN AHVAZXhhbXBsZS5jb20Ac2VjcmV0\r\n")) [] exampleWorld).2.2 =
        .readFailed := by
  decide

set_option maxRecDepth 2000 in
/-- `PUTSCRIPT "n" {5+}` with the script `keep;` stores it under `n`, and `GETSCRIPT "n"` then
finds no script; `GETSCRIPT n` finds it, and sends the literal with no line break before `OK`. -/
theorem quoted_script_name_not_found :
    (handleConnection exampleOracle exampleConfig 5
        (utf8 ("AUTHENTICATE PLAIN AHVAZXhhbXBsZS5jb20Ac2VjcmV0\r\n" ++
          "PUTSCRIPT \"n\" {5+}\r\nkeep;\r\nGETSCRIPT \"n\"\r\nGETSCRIPT n\r\n")) []
        exampleWorld).2.1.output =
      utf8 ("\"IMPLEMENTATION\" \"ManageSieve\"\r\n\"SIEVE\" \"fileinto vacation\"\r\n" ++
        "\"MAXSCRIPTSIZE\" \"16384\"\r\nOK \"Sora\" ManageSieve server ready.\r\n" ++
        "OK Authenticated\r\n+\r\nOK Script stored\r\nNO No such script\r\n{5}\r\nkeep;OK\r\n") ∧
    ((handleConnection exampleOracle exampleConfig 5
        (utf8 ("AUTHENTICATE PLAIN AHVAZXhhbXBsZS5jb20Ac2VjcmV0\r\n" ++
          "PUTSCRIPT \"n\" {5+}\r\nkeep;\r\nGETSCRIPT \"n\"\r\nGETSCRIPT n\r\n")) []
        exampleWorld).2.1.store.sieveScripts.map (·.name)) = [utf8 "n"] := by
  decide

/-- The session `AUTHENTICATE PLAIN` leaves for `u@example.com`, with nothing left to read. -/
def scriptWriter : Session :=
  { Session.start [] [] with authenticated := true, user := some ⟨utf8 "u@example.com", 7⟩ }

/-- A literal of 16385 bytes, one past `MAXSCRIPTSIZE`, is read whole into its buffer before the
`NO`; a literal of `2 ^ 48 + 1` bytes makes the session panic after the continuation. -/
theorem oversized_literals_buffered_or_panic :
    handlePutScriptCommand exampleOracle exampleConfig 1 (utf8 "s") (literalArgument (utf8 "16385"))
        { scriptWriter with reader := List.replicate 16385 0x61 } exampleWorld =
      (scriptWriter, (exampleWorld.send (utf8 "+\r\n")).send
        (utf8 "NO (MAXSCRIPTSIZE) Script size 16385 exceeds maximum allowed size 16384\r\n"),
        .next) ∧
    handlePutScriptCommand exampleOracle exampleConfig 1 (utf8 "s")
        (literalArgument (utf8 "281474976710657")) scriptWriter exampleWorld =
      (scriptWriter, exampleWorld.send (utf8 "+\r\n"), .crash) ∧
    (handleConnection exampleOracle exampleConfig 2
      (utf8 ("AUTHENTICATE PLAIN AHVAZXhhbXBsZS5jb20Ac2VjcmV0\r\n" ++
        "PUTSCRIPT s \x7b281474976710657+\x7d\r\n")) [] exampleWorld).2.2 = .crashed := by
  refine ⟨?_, (literal_allocated_before_size_check exampleOracle exampleConfig 1 (utf8 "s")
    (utf8 "281474976710657") scriptWriter exampleWorld (by decide) (by decide) (by decide)).1
    (by decide), by decide⟩
  have whole : (List.replicate 16385 (0x61 : UInt8)).length = 16385 := List.length_replicate _ _
  have announced : digitsValue (utf8 "16385") = 16385 := by decide
  rw [(literal_allocated_before_size_check exampleOracle exampleConfig 1 (utf8 "s") (utf8 "16385")
    { scriptWriter with reader := List.replicate 16385 0x61 } exampleWorld (by decide) (by decide)
    (by decide)).2 (by decide) (by rw [whole]; decide)]
  dsimp only
  rw [announced, List.take_of_length_le whole.le, List.drop_of_length_le whole.le,
    handlePutScript_too_large rfl (by decide) rfl rfl (by rw [whole]; decide), whole]
  have refusal : utf8 "NO (MAXSCRIPTSIZE) Script size " ++ decimal ((16385 : Nat) : Int) ++
      utf8 " exceeds maximum allowed size " ++ decimal exampleConfig.maxScriptSize ++ utf8 "\r\n" =
      utf8 "NO (MAXSCRIPTSIZE) Script size 16385 exceeds maximum allowed size 16384\r\n" := by
    decide
  rw [refusal]
  rfl

set_option maxRecDepth 2000 in
/-- On a server with `STARTTLS`, a client logs in, then sends `STARTTLS` with `LOGOUT` after it
in the same segment, and completes the handshake. `STARTTLS` cannot take the write lock `LOGIN`
still holds and keeps the plaintext reader, so the `LOGOUT` received before the handshake is
executed, and `NOOP`, sent over TLS, never is. -/
theorem startTLS_runs_buffered_plaintext :
    (handleConnection exampleOracle exampleStartTLSConfig 3
        (utf8 "LOGIN u@example.com secret\r\nSTARTTLS\r\nLOGOUT\r\n") (utf8 "NOOP\r\n")
        exampleWorld).2.1.output =
      utf8 ("\"IMPLEMENTATION\" \"ManageSieve\"\r\n\"SIEVE\" \"fileinto vacation\"\r\n" ++
        "\"STARTTLS\"\r\n\"MAXSCRIPTSIZE\" \"16384\"\r\n" ++
        "OK (STARTTLS) \"Sora\" ManageSieve server ready.\r\n" ++
        "OK Authenticated\r\nOK Begin TLS negotiation\r\nNO Server busy, try again later\r\n" ++
        "OK Goodbye\r\n") ∧
    (handleConnection exampleOracle exampleStartTLSConfig 3
        (utf8 "LOGIN u@example.com secret\r\nSTARTTLS\r\nLOGOUT\r\n") (utf8 "NOOP\r\n")
        exampleWorld).2.2 = .returned := by
  decide

end Sora.ManageSieve

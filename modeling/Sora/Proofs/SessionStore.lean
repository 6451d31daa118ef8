import Sora.Proofs.SieveScripts
import Sora.Proofs.SessionDefects

/-
Module: Sora.Proofs.SessionStore
Purpose: What a ManageSieve session does to `sieve_scripts`. Over every input, the store a session
  leaves is the store a serial history of `CreateScript`, `UpdateScript`, `SetScriptActive` and
  `DeleteScript` calls leaves, each one a call that `handlePutScript`, `handleSetActive` or
  `handleDeleteScript` lets through: a script written passed the `MAXSCRIPTSIZE` check and
  `sieve.Load`, and `SETACTIVE` only activates. Every session therefore keeps at most one active
  script per account, and keeps every stored script within the size limit and loadable.
Trusted boundary: `Sora.ManageSieve.Commands`, `Sora.Proofs.SieveScripts`.
Main exports: ScriptAccepted, Allows, SessionHistory, Reached,
  session_store_is_serial_history, session_keeps_script_invariants
-/

namespace Sora.ManageSieve

open Sora.Db

/-! ### The calls a session lets through -/

/-- A script `handlePutScript` accepts: within `MAXSCRIPTSIZE` when that is set, and loaded by
`sieve.Load` under the server's extensions. -/
def ScriptAccepted (o : Oracle) (cfg : ServerConfig) (script : Bytes) : Prop :=
  ¬(0 < cfg.maxScriptSize ∧ cfg.maxScriptSize < script.length) ∧
    o.sieveLoad script cfg.supportedExtensions = none

/-- A sieve call as the session makes it: the script it writes is accepted, and an activation
activates. -/
def Allows (o : Oracle) (cfg : ServerConfig) : ScriptCall → Prop
  | .createScript _ _ script _ | .updateScript _ _ _ script _ => ScriptAccepted o cfg script
  | .setScriptActive _ _ active _ => active = true
  | .deleteScript .. => True

/-- `db'` is what a serial history of calls the session allows leaves of `db`. -/
def SessionHistory (o : Oracle) (cfg : ServerConfig) (db db' : State) : Prop :=
  ∃ calls : List ScriptCall, (∀ c ∈ calls, Allows o cfg c) ∧ db' = runScripts db calls

theorem runScripts_append (db : State) (first more : List ScriptCall) :
    runScripts db (first ++ more) = runScripts (runScripts db first) more :=
  List.foldl_append ..

/-- The store of `w` is what a serial history the session allows leaves of `db₀`. -/
def Reached (o : Oracle) (cfg : ServerConfig) (db₀ : State) (w : World) : Prop :=
  SessionHistory o cfg db₀ w.store

namespace Reached

variable {o : Oracle} {cfg : ServerConfig} {db₀ : State} {w : World}

theorem start (w : World) : Reached o cfg w.store w :=
  ⟨[], nofun, rfl⟩

/-- An `rdb` write whose function is the call `call`, which the session allows. -/
theorem write (h : Reached o cfg db₀ w) {c : Call} {α : Type} {f : Tx → Except ScriptError α × Tx}
    {b : Bool} {w' : World} (hw : w.write c f = (b, w')) (call : ScriptCall)
    (runs : settle w.store (f (Tx.begin w.store)) = call.perform w.store)
    (allowed : Allows o cfg call) : Reached o cfg db₀ w' := by
  obtain ⟨calls, ok, stored⟩ := h
  refine ⟨calls ++ [call], fun c hc => (List.mem_append.mp hc).elim (ok c) ?_, ?_⟩
  · rintro (_ | ⟨_, ⟨⟩⟩)
    exact allowed
  · rw [show w' = (w.write c f).2 by rw [hw], runScripts_append, ← stored]
    simp [World.write, runs, runScripts]

end Reached

/-! ### Everything but a write leaves the store -/

section Frame

variable {o : Oracle} {cfg : ServerConfig} {db₀ : State} {w : World}

theorem loginCredentials_reached (address password : Bytes) (h : Reached o cfg db₀ w) :
    Reached o cfg db₀ (loginCredentials o cfg address password w).2 := by
  unfold loginCredentials
  split <;> (dsimp only; split <;> exact h)

theorem saslPlain_reached (n : Nat) (authzId authnId password : Bytes) (h : Reached o cfg db₀ w) :
    Reached o cfg db₀ (saslPlain o cfg n authzId authnId password w).2 := by
  unfold saslPlain
  dsimp only
  repeat' split
  all_goals exact h

theorem authData_reached (rest : List Bytes) (s : Session) (h : Reached o cfg db₀ w) :
    Reached o cfg db₀ (authData rest s w).2.2 := by
  unfold authData
  dsimp only
  repeat' split
  all_goals exact h

theorem close_reached (s : Session) (h : Reached o cfg db₀ w) : Reached o cfg db₀ (close s w).2 := by
  unfold close
  dsimp only
  split <;> exact h

theorem runDeferred_reached (deferred : List Deferred) (s : Session) (h : Reached o cfg db₀ w) :
    Reached o cfg db₀ (runDeferred deferred s w).2 := by
  induction deferred generalizing s w with
  | nil => exact h
  | cons d rest ih =>
    cases d with
    | close => exact ih _ (close_reached s h)
    | release => exact ih _ h

end Frame

/-! ### One lemma per handler -/

section Handlers

variable {o : Oracle} {cfg : ServerConfig} {db₀ : State} {n : Nat} {s : Session} {w : World}

theorem withUserId_reached {body : Int → Outcome} (h : Reached o cfg db₀ w)
    (hb : ∀ u, s.user = some u → Reached o cfg db₀ (body u.userId).2.1) :
    Reached o cfg db₀ (withUserId s w body).2.1 := by
  unfold withUserId
  split
  · exact h
  · split
    · exact hb _ ‹_›
    · exact h

theorem handleListScripts_reached (h : Reached o cfg db₀ w) :
    Reached o cfg db₀ (handleListScripts o n s w).2.1 := by
  unfold handleListScripts
  split
  · exact h
  · exact withUserId_reached h fun _ _ => h

theorem handleGetScript_reached (name : Bytes) (h : Reached o cfg db₀ w) :
    Reached o cfg db₀ (handleGetScript o n name s w).2.1 := by
  unfold handleGetScript
  split
  · exact h
  · exact withUserId_reached h fun _ _ => by dsimp only; split <;> exact h

/-- `PUTSCRIPT` writes only a script that passed the size check and `sieve.Load`. -/
theorem handlePutScript_reached (name content : Bytes) (h : Reached o cfg db₀ w) :
    Reached o cfg db₀ (handlePutScript o cfg n name content s w).2.1 := by
  unfold handlePutScript
  split
  · exact h
  · dsimp only
    split
    · exact h
    · refine withUserId_reached h fun u _ => ?_
      split
      · exact h
      · rename_i size
        split
        · exact h
        · rename_i loads
          split
          · exact h
          · split
            all_goals
              rename_i hw
              exact (Reached.write (w := w.record _) h hw
                (.updateScript _ u.userId _ content (o.now n)) rfl ⟨size, loads⟩ :)
          · split
            all_goals
              rename_i hw
              exact (Reached.write (w := w.record _) h hw
                (.createScript u.userId _ content (o.now n)) rfl ⟨size, loads⟩ :)

theorem handleSetActive_reached (name : Bytes) (h : Reached o cfg db₀ w) :
    Reached o cfg db₀ (handleSetActive o cfg n name s w).2.1 := by
  unfold handleSetActive
  split
  · exact h
  · refine withUserId_reached h fun u _ => ?_
    dsimp only
    split
    · exact h
    · exact h
    · split
      · exact h
      · split
        all_goals
          rename_i hw
          exact (Reached.write (w := w.record _) h hw
            (.setScriptActive _ u.userId true (o.now n)) rfl rfl :)

theorem handleDeleteScript_reached (name : Bytes) (h : Reached o cfg db₀ w) :
    Reached o cfg db₀ (handleDeleteScript o n name s w).2.1 := by
  unfold handleDeleteScript
  split
  · exact h
  · refine withUserId_reached h fun u _ => ?_
    dsimp only
    split
    · exact h
    · exact h
    · split
      all_goals
        rename_i hw
        exact (Reached.write (w := w.record _) h hw (.deleteScript _ u.userId) rfl trivial :)

theorem handleLogin_reached (parts : List Bytes) (h : Reached o cfg db₀ w) :
    Reached o cfg db₀ (handleLogin o cfg n parts s w).2.1 := by
  unfold handleLogin
  split
  · rename_i password _
    split
    · exact h
    · rename_i address _
      split
      · exact h
      · have checked := loginCredentials_reached (o := o) address password h
        split <;> (rename_i hr; rw [hr] at checked)
        · exact checked
        · split
          · exact checked
          · split
            · exact checked
            · exact checked
  · exact h

theorem handleAuthenticate_reached (parts : List Bytes) (h : Reached o cfg db₀ w) :
    Reached o cfg db₀ (handleAuthenticate o cfg n parts s w).2.1 := by
  unfold handleAuthenticate
  split
  · rename_i rest
    split
    · exact h
    · have read := authData_reached rest s h
      split <;> (rename_i hd; rw [hd] at read)
      · exact read
      · split
        · exact read
        · split
          · rename_i authzId authnId password _
            have checked := saslPlain_reached n authzId authnId password read
            split <;> (rename_i hr; rw [hr] at checked)
            · exact checked
            · split
              · exact checked
              · split
                · exact checked
                · exact checked
          · exact read
  · exact h

theorem handlePutScriptCommand_reached (name content : Bytes) (h : Reached o cfg db₀ w) :
    Reached o cfg db₀ (handlePutScriptCommand o cfg n name content s w).2.1 := by
  unfold handlePutScriptCommand
  dsimp only
  repeat' split
  all_goals first
    | exact h
    | exact handlePutScript_reached name _ h

theorem handleStartTLS_reached (h : Reached o cfg db₀ w) :
    Reached o cfg db₀ (handleStartTLS o cfg n s w).2.1 := by
  unfold handleStartTLS
  dsimp only
  repeat' split
  all_goals exact h

/-- Every command's writes extend the history. -/
theorem dispatch_reached (parts : List Bytes) (h : Reached o cfg db₀ w) :
    Reached o cfg db₀ (dispatch o cfg n parts s w).2.1 := by
  unfold dispatch
  split
  · exact h
  · exact handleLogin_reached parts h
  · exact handleAuthenticate_reached parts h
  · split
    · exact h
    · exact handleListScripts_reached h
  · split
    · exact h
    · split
      · exact handleGetScript_reached _ h
      · exact h
  · split
    · exact h
    · split
      · exact handlePutScriptCommand_reached _ _ h
      · exact h
  · split
    · exact h
    · split
      · exact handleSetActive_reached _ h
      · exact h
  · split
    · exact h
    · split
      · exact handleDeleteScript_reached _ h
      · exact h
  · exact handleStartTLS_reached h
  · exact h
  · exact close_reached _ h
  · exact h

end Handlers

theorem commandLoop_reached {o : Oracle} {cfg : ServerConfig} {db₀ : State} (fuel n : Nat)
    {s : Session} {w : World} (h : Reached o cfg db₀ w) :
    Reached o cfg db₀ (commandLoop o cfg fuel n s w).2.1 := by
  induction fuel generalizing n s w with
  | zero => exact h
  | succ fuel ih =>
    unfold commandLoop
    split
    · exact runDeferred_reached _ _ h
    · dsimp only
      split
      · exact ih _ h
      · rename_i line reader _ _
        have step := dispatch_reached (n := n) (s := { s with reader := reader })
          (splitN (trimSpace line) 0x20 3) h
        split <;> (rename_i hd; rw [hd] at step)
        · exact ih _ step
        · exact runDeferred_reached _ _ step
        · exact step

/-! ### The session -/

/-- Over every input, every configuration and every answer of the outside world, the store a
session leaves is the store a serial history of `db/append.go` sieve calls leaves, each call one
the session lets through: every script it creates or updates is within `MAXSCRIPTSIZE` (when that
is set) and loads, and every `SetScriptActive` activates. -/
theorem session_store_is_serial_history (o : Oracle) (cfg : ServerConfig) (fuel : Nat)
    (input tlsInput : Bytes) (w₀ : World) :
    ∃ calls : List ScriptCall, (∀ c ∈ calls, Allows o cfg c) ∧
      (handleConnection o cfg fuel input tlsInput w₀).2.1.store = runScripts w₀.store calls :=
  commandLoop_reached fuel 0 (Reached.start (w₀.send _))

/-- A call the session allows writes only an accepted script. -/
theorem Allows.script? {o : Oracle} {cfg : ServerConfig} {call : ScriptCall}
    (allowed : Allows o cfg call) : ∀ script, call.script? = some script →
      ScriptAccepted o cfg script := by
  cases call <;> rintro script ⟨⟩
  all_goals exact allowed

/-- A serial history of allowed calls keeps every stored script accepted. -/
theorem runScripts_accepted {o : Oracle} {cfg : ServerConfig} {db : State}
    (inv : ∀ s ∈ db.sieveScripts, ScriptAccepted o cfg s.script) {calls : List ScriptCall}
    (ok : ∀ c ∈ calls, Allows o cfg c) :
    ∀ s ∈ (runScripts db calls).sieveScripts, ScriptAccepted o cfg s.script := by
  induction calls generalizing db with
  | nil => exact inv
  | cons call calls ih =>
    exact ih (call.perform_scripts_satisfy inv (ok call (.head _)).script?)
      fun c hc => ok c (.tail _ hc)

/-- Every session, from a store that keeps at most one active script per account and holds only
scripts within `MAXSCRIPTSIZE` (when that is set) that load, leaves a store that does too. -/
theorem session_keeps_script_invariants (o : Oracle) (cfg : ServerConfig) (fuel : Nat)
    (input tlsInput : Bytes) (w₀ : World) (one : AtMostOneActive w₀.store.sieveScripts)
    (accepted : ∀ s ∈ w₀.store.sieveScripts, ScriptAccepted o cfg s.script) :
    AtMostOneActive (handleConnection o cfg fuel input tlsInput w₀).2.1.store.sieveScripts ∧
      ∀ s ∈ (handleConnection o cfg fuel input tlsInput w₀).2.1.store.sieveScripts,
        ScriptAccepted o cfg s.script := by
  obtain ⟨calls, ok, stored⟩ := commandLoop_reached (o := o) fuel 0
    (Reached.start (w₀.send (greeting cfg (Session.start input tlsInput))))
  rw [handleConnection, stored]
  exact ⟨one.runScripts calls, runScripts_accepted accepted ok⟩

/-- `AUTHENTICATE PLAIN` for `u@example.com`, two scripts stored, then each activated in turn. -/
def twoActivations : Bytes :=
  utf8 ("AUTHENTICATE PLAIN AHVAZXhhbXBsZS5jb20Ac2VjcmV0\r\nPUTSCRIPT a keep;\r\n" ++
    "PUTSCRIPT b keep;\r\nSETACTIVE a\r\nSETACTIVE b\r\n")

set_option maxRecDepth 2000 in
/-- The example server, from its empty store, through that session: both scripts are stored and
only the one activated last is active. -/
theorem session_keeps_script_invariants_through_activations :
    AtMostOneActive exampleWorld.store.sieveScripts ∧
      (∀ s ∈ exampleWorld.store.sieveScripts, ScriptAccepted exampleOracle exampleConfig s.script) ∧
      ((handleConnection exampleOracle exampleConfig 5 twoActivations [] exampleWorld).2.1.store.sieveScripts.map
        fun s => (s.name, s.active)) = [(utf8 "a", false), (utf8 "b", true)] ∧
      AtMostOneActive
        (handleConnection exampleOracle exampleConfig 5 twoActivations [] exampleWorld).2.1.store.sieveScripts ∧
      ∀ s ∈ (handleConnection exampleOracle exampleConfig 5 twoActivations [] exampleWorld).2.1.store.sieveScripts,
        ScriptAccepted exampleOracle exampleConfig s.script :=
  have one : AtMostOneActive exampleWorld.store.sieveScripts := fun _ => by
    simp [exampleWorld, State.empty]
  have accepted : ∀ s ∈ exampleWorld.store.sieveScripts,
      ScriptAccepted exampleOracle exampleConfig s.script := by
    simp [exampleWorld, State.empty]
  ⟨one, accepted, by decide,
    session_keeps_script_invariants exampleOracle exampleConfig 5 twoActivations [] exampleWorld one
      accepted⟩

end Sora.ManageSieve

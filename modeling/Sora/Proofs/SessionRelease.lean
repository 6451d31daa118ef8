import Sora.ManageSieve.Commands

/-
Module: Sora.Proofs.SessionRelease
Purpose: The connection limiter's slot of a ManageSieve session is given back exactly once, when
  the session ends. `Close` calls `releaseConn` only while it is set and then clears it, and no
  command but `LOGOUT` runs `Close`; `handleConnection` defers `Close` from the start, so it runs
  whenever the loop returns or its read fails. A session ended by `LOGOUT` runs `Close` twice and
  takes two connections off `totalConnections`, yet releases its slot once.
Trusted boundary: `Sora.ManageSieve.Commands`. The server hands every session a release function
  (`releaseConn` starts set). A panic ends the process, so its deferred calls are not modelled.
Main exports: Held, Pending, commandLoop_releases, limiter_released_once
-/

namespace Sora.ManageSieve

open Sora.Db

/-- The slot is still held: `releaseConn` is set, no release has been counted since `released`,
and `Close` is among the deferred calls. -/
def Held (released : Nat) (s : Session) (w : World) : Prop :=
  s.releaseConn = true ∧ w.counters.limiterReleases = released ∧ .close ∈ s.deferred

/-- One release is due from `released` on: counted already, or still held; and `Close` is among
the deferred calls. -/
def Pending (released : Nat) (s : Session) (w : World) : Prop :=
  w.counters.limiterReleases + s.releaseConn.toNat = released + 1 ∧ .close ∈ s.deferred

section Steps

variable {released : Nat} {s : Session} {w : World}

theorem Held.pending (h : Held released s w) : Pending released s w :=
  ⟨by rw [h.1, h.2.1]; rfl, h.2.2⟩

/-- `Close` moves the slot from held to released, or leaves it released. -/
theorem close_due (due : w.counters.limiterReleases + s.releaseConn.toNat = released + 1) :
    (close s w).2.counters.limiterReleases + (close s w).1.releaseConn.toNat = released + 1 := by
  rw [close_limiterReleases, close_releaseConn]
  exact due

theorem Pending.close (h : Pending released s w) :
    Pending released (close s w).1 (close s w).2 :=
  ⟨close_due h.1, by rw [close_deferred]; exact h.2⟩

/-- The deferred calls keep the release due, and after a `Close` among them the slot is released. -/
theorem runDeferred_pending (ds : List Deferred) (due : w.counters.limiterReleases +
      s.releaseConn.toNat = released + 1) :
    (runDeferred ds s w).2.counters.limiterReleases + (runDeferred ds s w).1.releaseConn.toNat =
        released + 1 ∧
      (.close ∈ ds ∨ s.releaseConn = false → (runDeferred ds s w).1.releaseConn = false) := by
  induction ds generalizing s w with
  | nil => exact ⟨due, fun | .inl member => absurd member (List.not_mem_nil _) | .inr free => free⟩
  | cons d rest ih =>
    cases d with
    | release =>
      have rest := ih (s := { s with lock := s.lock.releaseWrite }) due
      refine ⟨rest.1, fun closed => rest.2 ?_⟩
      rcases closed with member | free
      · exact .inl ((List.mem_cons.mp member).resolve_left nofun)
      · exact .inr free
    | close =>
      have rest := ih (close_due due)
      exact ⟨rest.1, fun _ => rest.2 (.inr (close_releaseConn s w))⟩

/-- Returning from `handleConnection` releases the slot, once. -/
theorem finish_releases (h : Pending released s w) :
    (finish s w).2.counters.limiterReleases = released + 1 := by
  obtain ⟨due, deferred⟩ := h
  have ran := runDeferred_pending (s := { s with deferred := [] }) s.deferred due
  rw [finish, ← ran.1, ran.2 (.inl deferred)]
  rfl

theorem Held.write (h : Held released s w) {c : Call} {α : Type}
    {f : Tx → Except ScriptError α × Tx} {b : Bool} {w' : World} (hw : w.write c f = (b, w')) :
    Held released s w' := by
  obtain rfl : w' = (w.write c f).2 := by rw [hw]
  exact h

theorem Held.pinned (h : Held released s w) : Held released (pinMaster s) w := by
  unfold Sora.ManageSieve.pinMaster
  split <;> exact h

theorem loginCredentials_counters (o : Oracle) (cfg : ServerConfig) (address password : Bytes) :
    (loginCredentials o cfg address password w).2.counters = w.counters := by
  unfold loginCredentials
  split <;> (dsimp only; split <;> rfl)

theorem saslPlain_counters (o : Oracle) (cfg : ServerConfig) (n : Nat)
    (authzId authnId password : Bytes) :
    (saslPlain o cfg n authzId authnId password w).2.counters = w.counters := by
  unfold saslPlain
  dsimp only
  repeat' split
  all_goals rfl

theorem Held.counters {w' : World} (h : Held released s w) (same : w'.counters = w.counters) :
    Held released s w' :=
  ⟨h.1, same ▸ h.2.1, h.2.2⟩

theorem authData_held (rest : List Bytes) (h : Held released s w) :
    Held released (authData rest s w).2.1 (authData rest s w).2.2 := by
  unfold authData
  dsimp only
  repeat' split
  all_goals exact h

end Steps

/-! ### No command but `LOGOUT` touches the slot -/

section Handlers

variable {o : Oracle} {cfg : ServerConfig} {released n : Nat} {s : Session} {w : World}

theorem withUserId_held {body : Int → Outcome} (h : Held released s w)
    (hb : ∀ u, s.user = some u → Held released (body u.userId).1 (body u.userId).2.1) :
    Held released (withUserId s w body).1 (withUserId s w body).2.1 := by
  unfold withUserId
  split
  · exact h
  · split
    · exact hb _ ‹_›
    · exact h

theorem handleListScripts_held (h : Held released s w) :
    Held released (handleListScripts o n s w).1 (handleListScripts o n s w).2.1 := by
  unfold handleListScripts
  split
  · exact h
  · exact withUserId_held h fun _ _ => h

theorem handleGetScript_held (name : Bytes) (h : Held released s w) :
    Held released (handleGetScript o n name s w).1 (handleGetScript o n name s w).2.1 := by
  unfold handleGetScript
  split
  · exact h
  · exact withUserId_held h fun _ _ => by dsimp only; split <;> exact h

theorem handlePutScript_held (name content : Bytes) (h : Held released s w) :
    Held released (handlePutScript o cfg n name content s w).1
      (handlePutScript o cfg n name content s w).2.1 := by
  unfold handlePutScript
  split
  · exact h
  · dsimp only
    split
    · exact h
    · refine withUserId_held h fun _ _ => ?_
      split
      · exact h
      · split
        · exact h
        · split
          · exact h
          · split <;> (rename_i hw; have wrote := Held.write (w := w.record _) h hw)
            · exact wrote.pinned
            · exact wrote
          · split <;> (rename_i hw; have wrote := Held.write (w := w.record _) h hw)
            · exact wrote.pinned
            · exact wrote

theorem handleSetActive_held (name : Bytes) (h : Held released s w) :
    Held released (handleSetActive o cfg n name s w).1 (handleSetActive o cfg n name s w).2.1 := by
  unfold handleSetActive
  split
  · exact h
  · refine withUserId_held h fun _ _ => ?_
    dsimp only
    split
    · exact h
    · exact h
    · split
      · exact h
      · split <;> (rename_i hw; have wrote := Held.write (w := w.record _) h hw)
        · exact wrote.pinned
        · exact wrote

theorem handleDeleteScript_held (name : Bytes) (h : Held released s w) :
    Held released (handleDeleteScript o n name s w).1 (handleDeleteScript o n name s w).2.1 := by
  unfold handleDeleteScript
  split
  · exact h
  · refine withUserId_held h fun _ _ => ?_
    dsimp only
    split
    · exact h
    · exact h
    · split <;> (rename_i hw; have wrote := Held.write (w := w.record _) h hw)
      · exact wrote.pinned
      · exact wrote

/-- `LOGIN` defers the release of its write lock; the slot stays held. -/
theorem handleLogin_held (parts : List Bytes) (h : Held released s w) :
    Held released (handleLogin o cfg n parts s w).1 (handleLogin o cfg n parts s w).2.1 := by
  unfold handleLogin
  split
  · rename_i password _
    split
    · exact h
    · rename_i address _
      split
      · exact h
      · have checked := h.counters (loginCredentials_counters o cfg address password)
        split <;> (rename_i hr; rw [hr] at checked)
        · exact checked
        · split
          · exact checked
          · split
            · exact checked
            · exact ⟨checked.1, checked.2.1, List.mem_cons_of_mem _ checked.2.2⟩
  · exact h

theorem handleAuthenticate_held (parts : List Bytes) (h : Held released s w) :
    Held released (handleAuthenticate o cfg n parts s w).1
      (handleAuthenticate o cfg n parts s w).2.1 := by
  unfold handleAuthenticate
  split
  · rename_i rest
    split
    · exact h
    · have read := authData_held rest h
      split <;> (rename_i hd; rw [hd] at read)
      · exact read
      · split
        · exact read
        · split
          · rename_i authzId authnId password _
            have checked := read.counters (saslPlain_counters o cfg n authzId authnId password)
            split <;> (rename_i hr; rw [hr] at checked)
            · exact checked
            · split
              · exact checked
              · split
                · exact checked
                · exact checked
          · exact read
  · exact h

theorem handlePutScriptCommand_held (name content : Bytes) (h : Held released s w) :
    Held released (handlePutScriptCommand o cfg n name content s w).1
      (handlePutScriptCommand o cfg n name content s w).2.1 := by
  unfold handlePutScriptCommand
  dsimp only
  repeat' split
  all_goals first
    | exact h
    | exact handlePutScript_held name _ h

/-- `STARTTLS` defers the release of its write lock; the slot stays held. -/
theorem handleStartTLS_held (h : Held released s w) :
    Held released (handleStartTLS o cfg n s w).1 (handleStartTLS o cfg n s w).2.1 := by
  unfold handleStartTLS
  dsimp only
  repeat' split
  all_goals first
    | exact h
    | exact ⟨h.1, h.2.1, List.mem_cons_of_mem _ h.2.2⟩

/-- A command line keeps the slot held, except that `LOGOUT` runs `Close` and returns. -/
theorem dispatch_held (parts : List Bytes) (h : Held released s w) :
    Pending released (dispatch o cfg n parts s w).1 (dispatch o cfg n parts s w).2.1 ∧
      ((dispatch o cfg n parts s w).2.2 ≠ .exit →
        Held released (dispatch o cfg n parts s w).1 (dispatch o cfg n parts s w).2.1) := by
  suffices kept : (dispatch o cfg n parts s w).2.2 = .exit ∧
      Pending released (dispatch o cfg n parts s w).1 (dispatch o cfg n parts s w).2.1 ∨
      Held released (dispatch o cfg n parts s w).1 (dispatch o cfg n parts s w).2.1 by
    rcases kept with ⟨exit, pending⟩ | held
    · exact ⟨pending, fun other => absurd exit other⟩
    · exact ⟨held.pending, fun _ => held⟩
  unfold dispatch
  split
  · exact .inr h
  · exact .inr (handleLogin_held parts h)
  · exact .inr (handleAuthenticate_held parts h)
  · split
    · exact .inr h
    · exact .inr (handleListScripts_held h)
  · split
    · exact .inr h
    · split
      · exact .inr (handleGetScript_held _ h)
      · exact .inr h
  · split
    · exact .inr h
    · split
      · exact .inr (handlePutScriptCommand_held _ _ h)
      · exact .inr h
  · split
    · exact .inr h
    · split
      · exact .inr (handleSetActive_held _ h)
      · exact .inr h
  · split
    · exact .inr h
    · split
      · exact .inr (handleDeleteScript_held _ h)
      · exact .inr h
  · exact .inr (handleStartTLS_held h)
  · exact .inr h
  · exact .inl ⟨rfl, Pending.close (w := w.send _) h.pending⟩
  · exact .inr h

end Handlers

/-! ### The session -/

/-- From a session that holds its slot, the loop releases it exactly once if it returns or its
read fails, and not at all while it runs or if it panics. -/
theorem commandLoop_releases {o : Oracle} {cfg : ServerConfig} {released : Nat} (fuel n : Nat)
    {s : Session} {w : World} (h : Held released s w) :
    (commandLoop o cfg fuel n s w).2.1.counters.limiterReleases = released +
      if (commandLoop o cfg fuel n s w).2.2 = .readFailed ∨
        (commandLoop o cfg fuel n s w).2.2 = .returned then 1 else 0 := by
  induction fuel generalizing n s w with
  | zero => exact h.2.1
  | succ fuel ih =>
    unfold commandLoop
    split
    · exact finish_releases (s := { s with reader := [] }) h.pending
    · dsimp only
      split
      · exact ih _ h
      · rename_i line reader _ _
        have step := @dispatch_held o cfg released n { s with reader := reader } w
          (splitN (trimSpace line) 0x20 3) h
        split <;> (rename_i hd; rw [hd] at step)
        · exact ih _ (step.2 nofun)
        · exact finish_releases step.1
        · exact (step.2 nofun).2.1

/-- Over every input, fuel and world, a session releases its limiter slot exactly once when it
ends, by `LOGOUT`, by a cancelled `STARTTLS` or by a failed read, and not before: though a
session ended by `LOGOUT` runs `Close` twice, it never releases the slot twice. -/
theorem limiter_released_once (o : Oracle) (cfg : ServerConfig) (fuel : Nat)
    (input tlsInput : Bytes) (w₀ : World) :
    (handleConnection o cfg fuel input tlsInput w₀).2.1.counters.limiterReleases =
      w₀.counters.limiterReleases +
        if (handleConnection o cfg fuel input tlsInput w₀).2.2 = .readFailed ∨
          (handleConnection o cfg fuel input tlsInput w₀).2.2 = .returned then 1 else 0 :=
  commandLoop_releases fuel 0 ⟨rfl, rfl, List.mem_singleton_self _⟩

end Sora.ManageSieve

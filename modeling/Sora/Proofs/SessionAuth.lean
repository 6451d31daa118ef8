import Sora.ManageSieve.Commands

/-
Module: Sora.Proofs.SessionAuth
Purpose: Whom a ManageSieve session acts for. Over every command sequence, each authentication
  rests on credentials the code checked, no call on `sieve_scripts` comes before the first one,
  and each such call names the account of the user the session last authenticated as.
Trusted boundary: `Sora.ManageSieve.Commands`; what the `Oracle` answers.
Main exports: IsMaster, Justified, CallFor, lastUser, SoundLog, Accountable
-/

namespace Sora.ManageSieve

open Sora.Db

/-! ### What a session may do -/

/-- `name` and `password` are the configured master credentials, both non-empty. -/
def IsMaster (cfg : ServerConfig) (name password : Bytes) : Prop :=
  cfg.masterSASLUsername ≠ [] ∧ cfg.masterSASLPassword ≠ [] ∧
    name = cfg.masterSASLUsername ∧ password = cfg.masterSASLPassword

theorem masterMatches_iff (cfg : ServerConfig) (name password : Bytes) :
    masterMatches cfg name password = true ↔ IsMaster cfg name password := by
  simp [masterMatches, IsMaster, List.isEmpty_iff, and_assoc]

/-- The two ways a session may become authenticated as `user`. Either `AuthenticateWithRetry`
returned the account id for the password presented with the address (for `PLAIN`, only when the
authorization identity is empty or is the authentication identity), or the master credentials
were presented and the account id is that of the address acted for: the non-empty authorization
identity of `PLAIN`, the master address itself for `LOGIN`. -/
def Justified (o : Oracle) (cfg : ServerConfig) : Presented → User → Prop
  | .login address password, user =>
    o.newAddress address = some user.address ∧
      (o.authenticate user.address password = some user.userId ∨
        IsMaster cfg user.address password ∧ o.accountIdByAddress user.address = some user.userId)
  | .plain authzId authnId password, user =>
    (authzId = [] ∨ authzId = authnId) ∧ o.newAddress authnId = some user.address ∧
        o.authenticate user.address password = some user.userId ∨
      IsMaster cfg authnId password ∧ authzId ≠ [] ∧ o.newAddress authzId = some user.address ∧
        o.accountIdByAddress user.address = some user.userId

/-- A call made while the session is authenticated as `current`, or not at all: when it reads
or writes `sieve_scripts`, it does so for the account of `current`. -/
def CallFor (current : Option User) (c : Call) : Prop :=
  ∀ userId, c.scriptAccount = some userId → current.map (·.userId) = some userId

theorem CallFor.own {u : User} {c : Call} (h : c.scriptAccount = some u.userId) :
    CallFor (some u) c := by
  intro userId hc; simp_all

theorem CallFor.unscoped {current : Option User} {c : Call} (h : c.scriptAccount = none) :
    CallFor current c := by
  intro userId hc; simp_all

/-- The user a session is authenticated as after `events`, from `current`. -/
def lastUser : Option User → List Event → Option User
  | current, [] => current
  | _, .authenticated _ user :: rest => lastUser (some user) rest
  | current, .call _ :: rest => lastUser current rest

/-- Read in order from `current`: every authentication is justified, and every call is made for
the user authenticated at that point. -/
def SoundLog (o : Oracle) (cfg : ServerConfig) : Option User → List Event → Prop
  | _, [] => True
  | _, .authenticated presented user :: rest =>
    Justified o cfg presented user ∧ SoundLog o cfg (some user) rest
  | current, .call c :: rest => CallFor current c ∧ SoundLog o cfg current rest

section Log

variable {o : Oracle} {cfg : ServerConfig}

theorem lastUser_append (current : Option User) (events more : List Event) :
    lastUser current (events ++ more) = lastUser (lastUser current events) more := by
  induction events generalizing current with
  | nil => rfl
  | cons e events ih => cases e <;> exact ih _

theorem soundLog_append {current : Option User} {events more : List Event} :
    SoundLog o cfg current (events ++ more) ↔
      SoundLog o cfg current events ∧ SoundLog o cfg (lastUser current events) more := by
  induction events generalizing current with
  | nil => simp [SoundLog, lastUser]
  | cons e events ih => cases e <;> simp [SoundLog, lastUser, ih, and_assoc]

/-- What a sound log says of one of its events, given the events before it. -/
theorem SoundLog.split {current : Option User} {before after : List Event} {e : Event}
    (h : SoundLog o cfg current (before ++ e :: after)) :
    SoundLog o cfg (lastUser current before) [e] := by
  have h := (soundLog_append.mp h).2
  cases e <;> exact ⟨h.1, trivial⟩

/-- Every authentication in a sound log is justified. -/
theorem SoundLog.justified {current : Option User} {events : List Event} {p : Presented} {u : User}
    (h : SoundLog o cfg current events) (hm : Event.authenticated p u ∈ events) :
    Justified o cfg p u := by
  obtain ⟨before, after, rfl⟩ := List.append_of_mem hm
  exact h.split.1

/-- Without an authentication among `events`, the session stays as it was. -/
theorem lastUser_of_unauthenticated {current : Option User} {events : List Event}
    (h : ∀ p u, Event.authenticated p u ∉ events) : lastUser current events = current := by
  induction events with
  | nil => rfl
  | cons e events ih =>
    cases e with
    | call c => exact ih fun p u hm => h p u (.tail _ hm)
    | authenticated p u => exact absurd (.head _) (h p u)

end Log

/-! ### The invariant of the command loop -/

/-- The events a session added to `events₀` read soundly from no user, and its user is the one
they last authenticated. -/
def Accountable (o : Oracle) (cfg : ServerConfig) (events₀ : List Event) (user : Option User)
    (events : List Event) : Prop :=
  ∃ new, events = events₀ ++ new ∧ SoundLog o cfg none new ∧
    ∀ u, user = some u → lastUser none new = some u

namespace Accountable

variable {o : Oracle} {cfg : ServerConfig} {events₀ events : List Event} {user : Option User}

theorem start : Accountable o cfg events₀ none events₀ :=
  ⟨[], by simp, trivial, by simp⟩

theorem call (h : Accountable o cfg events₀ user events) {c : Call} (hc : CallFor user c) :
    Accountable o cfg events₀ user (events ++ [.call c]) := by
  obtain ⟨new, rfl, sound, last⟩ := h
  refine ⟨new ++ [.call c], by simp,
    soundLog_append.mpr ⟨sound, show SoundLog o cfg _ [.call c] from ⟨fun i hi => ?_, trivial⟩⟩,
    by simpa [lastUser_append, lastUser] using last⟩
  cases user with
  | none => simpa using hc i hi
  | some u => rw [last u rfl]; exact hc i hi

theorem authenticated (h : Accountable o cfg events₀ user events) {p : Presented} {u : User}
    (j : Justified o cfg p u) :
    Accountable o cfg events₀ (some u) (events ++ [.authenticated p u]) := by
  obtain ⟨new, rfl, sound, -⟩ := h
  exact ⟨new ++ [.authenticated p u], by simp,
    soundLog_append.mpr ⟨sound, show SoundLog o cfg _ [.authenticated p u] from ⟨j, trivial⟩⟩,
    by simp [lastUser_append, lastUser]⟩

theorem forget (h : Accountable o cfg events₀ user events) : Accountable o cfg events₀ none events :=
  let ⟨new, he, sound, _⟩ := h
  ⟨new, he, sound, by simp⟩

end Accountable

/-- `Accountable` of what an iteration leaves. -/
def OutcomeAccountable (o : Oracle) (cfg : ServerConfig) (events₀ : List Event) (out : Outcome) :
    Prop :=
  Accountable o cfg events₀ out.1.user out.2.1.events

/-! ### Authentication -/

section Credentials

variable {o : Oracle} {cfg : ServerConfig} {ev : List Event} {user : Option User} {w : World}

theorem loginCredentials_accountable (address password : Bytes)
    (h : Accountable o cfg ev user w.events) :
    Accountable o cfg ev user (loginCredentials o cfg address password w).2.events := by
  unfold loginCredentials
  split <;> (dsimp only; split <;> exact h.call (CallFor.unscoped rfl))

/-- `LOGIN` accepts the credentials only as `Justified` says. -/
theorem loginCredentials_justified {given address password : Bytes} {userId : Int}
    (ha : o.newAddress given = some address)
    (hr : (loginCredentials o cfg address password w).1 = .ok userId) :
    Justified o cfg (.login given password) ⟨address, userId⟩ := by
  refine ⟨ha, ?_⟩
  unfold loginCredentials at hr
  split at hr <;> dsimp only at hr <;> split at hr <;> cases hr
  · exact .inr ⟨(masterMatches_iff ..).mp ‹_›, ‹_›⟩
  · exact .inl ‹_›

theorem saslPlain_accountable (n : Nat) (authzId authnId password : Bytes)
    (h : Accountable o cfg ev user w.events) :
    Accountable o cfg ev user (saslPlain o cfg n authzId authnId password w).2.events := by
  unfold saslPlain
  dsimp only
  repeat' split
  all_goals first
    | exact h
    | exact h.call (CallFor.unscoped rfl)

/-- SASL `PLAIN` accepts the credentials only as `Justified` says. -/
theorem saslPlain_justified {n : Nat} {authzId authnId password : Bytes} {u : User}
    (hr : (saslPlain o cfg n authzId authnId password w).1 = .ok u) :
    Justified o cfg (.plain authzId authnId password) u := by
  unfold saslPlain at hr
  split at hr
  · rename_i master
    split at hr
    · cases hr
    · split at hr
      · cases hr
      · rename_i hz _ address ha
        dsimp only at hr
        split at hr
        · cases hr
        · cases hr
          exact .inr ⟨(masterMatches_iff ..).mp master, by simpa using hz, ha, ‹_›⟩
  · split at hr
    · cases hr
    · rename_i proxy
      split at hr
      · cases hr
      · rename_i _ address ha
        split at hr
        · cases hr
        · dsimp only at hr
          split at hr
          · cases hr
          · cases hr
            refine .inl ⟨?_, ha, ‹_›⟩
            by_cases hz : authzId = []
            · exact .inl hz
            · exact .inr (by simpa [List.isEmpty_iff, hz] using proxy)

end Credentials

/-! ### One lemma per handler -/

section Handlers

variable {o : Oracle} {cfg : ServerConfig} {ev : List Event} {n : Nat} {s : Session} {w : World}

@[simp] theorem outcomeAccountable_respond (r : String) :
    OutcomeAccountable o cfg ev (respond s w r) ↔ Accountable o cfg ev s.user w.events :=
  Iff.rfl

theorem Accountable.write {user : Option User} {α : Type} {c : Call}
    {f : Tx → Except ScriptError α × Tx} {b : Bool} {w' : World}
    (h : Accountable o cfg ev user w.events) (hw : w.write c f = (b, w')) (hc : CallFor user c) :
    Accountable o cfg ev user w'.events := by
  have : w' = (w.write c f).2 := by rw [hw]
  rw [this, World.write_events]
  exact h.call hc

/-- A call on `sieve_scripts` for the account of the session's user. -/
theorem callFor_user {u : User} {c : Call} (hu : s.user = some u)
    (hc : c.scriptAccount = some u.userId) : CallFor s.user c :=
  hu ▸ CallFor.own hc

theorem withUserId_accountable {body : Int → Outcome} (h : Accountable o cfg ev s.user w.events)
    (hb : ∀ u, s.user = some u → OutcomeAccountable o cfg ev (body u.userId)) :
    OutcomeAccountable o cfg ev (withUserId s w body) := by
  unfold withUserId
  split
  · exact h
  · split
    · exact hb _ ‹_›
    · exact h

theorem handleListScripts_accountable (h : Accountable o cfg ev s.user w.events) :
    OutcomeAccountable o cfg ev (handleListScripts o n s w) := by
  unfold handleListScripts
  split
  · exact h
  · exact withUserId_accountable h fun u hu => h.call (callFor_user hu rfl)

theorem handleGetScript_accountable (name : Bytes) (h : Accountable o cfg ev s.user w.events) :
    OutcomeAccountable o cfg ev (handleGetScript o n name s w) := by
  unfold handleGetScript
  split
  · exact h
  · refine withUserId_accountable h fun u hu => ?_
    dsimp only
    split <;> exact h.call (callFor_user hu rfl)

theorem handlePutScript_accountable (name content : Bytes)
    (h : Accountable o cfg ev s.user w.events) :
    OutcomeAccountable o cfg ev (handlePutScript o cfg n name content s w) := by
  unfold handlePutScript
  split
  · exact h
  · dsimp only
    split
    · exact h
    · refine withUserId_accountable h fun u hu => ?_
      split
      · exact h
      · split
        · exact h
        · have looked := h.call (c := .getScriptByName (trimByte name 0x22) u.userId)
            (callFor_user hu rfl)
          split
          · exact looked
          · split <;> (rename_i hw; simpa using looked.write hw (callFor_user hu rfl))
          · split <;> (rename_i hw; simpa using looked.write hw (callFor_user hu rfl))

theorem handleSetActive_accountable (name : Bytes) (h : Accountable o cfg ev s.user w.events) :
    OutcomeAccountable o cfg ev (handleSetActive o cfg n name s w) := by
  unfold handleSetActive
  split
  · exact h
  · refine withUserId_accountable h fun u hu => ?_
    have looked := h.call (c := .getScriptByName name u.userId) (callFor_user hu rfl)
    dsimp only
    split
    · exact looked
    · exact looked
    · split
      · exact looked
      · split <;> (rename_i hw; simpa using looked.write hw (callFor_user hu rfl))

theorem handleDeleteScript_accountable (name : Bytes) (h : Accountable o cfg ev s.user w.events) :
    OutcomeAccountable o cfg ev (handleDeleteScript o n name s w) := by
  unfold handleDeleteScript
  split
  · exact h
  · refine withUserId_accountable h fun u hu => ?_
    have looked := h.call (c := .getScriptByName name u.userId) (callFor_user hu rfl)
    dsimp only
    split
    · exact looked
    · exact looked
    · split <;> (rename_i hw; simpa using looked.write hw (callFor_user hu rfl))

theorem handleLogin_accountable (parts : List Bytes) (h : Accountable o cfg ev s.user w.events) :
    OutcomeAccountable o cfg ev (handleLogin o cfg n parts s w) := by
  unfold handleLogin
  split
  · rename_i given password _
    split
    · exact h
    · rename_i address ha
      split
      · exact h
      · have checked := loginCredentials_accountable (o := o) address password h
        split
        · rename_i hr; rw [hr] at checked; exact checked
        · rename_i hr
          have justified := loginCredentials_justified ha (congrArg Prod.fst hr)
          rw [hr] at checked
          split
          · exact checked
          · split
            · exact checked
            · exact checked.authenticated justified
  · exact h

theorem authData_accountable (rest : List Bytes) (h : Accountable o cfg ev s.user w.events) :
    Accountable o cfg ev (authData rest s w).2.1.user (authData rest s w).2.2.events := by
  unfold authData
  dsimp only
  repeat' split
  all_goals exact h

theorem handleAuthenticate_accountable (parts : List Bytes)
    (h : Accountable o cfg ev s.user w.events) :
    OutcomeAccountable o cfg ev (handleAuthenticate o cfg n parts s w) := by
  unfold handleAuthenticate
  split
  · rename_i rest
    split
    · exact h
    · have read := authData_accountable rest h
      split
      · rename_i hd; rw [hd] at read; exact read
      · rename_i hd; rw [hd] at read
        split
        · exact read
        · split
          · rename_i authzId authnId password _
            have checked := saslPlain_accountable n authzId authnId password read
            split
            · rename_i hr; rw [hr] at checked; exact checked
            · rename_i hr
              have justified := saslPlain_justified (congrArg Prod.fst hr)
              rw [hr] at checked
              split
              · exact checked
              · split
                · exact checked
                · exact checked.authenticated justified
          · exact read
  · exact h

theorem handlePutScriptCommand_accountable (name content : Bytes)
    (h : Accountable o cfg ev s.user w.events) :
    OutcomeAccountable o cfg ev (handlePutScriptCommand o cfg n name content s w) := by
  unfold handlePutScriptCommand
  dsimp only
  repeat' split
  all_goals first
    | exact h
    | exact handlePutScript_accountable name _ h

theorem handleStartTLS_accountable (h : Accountable o cfg ev s.user w.events) :
    OutcomeAccountable o cfg ev (handleStartTLS o cfg n s w) := by
  unfold handleStartTLS
  dsimp only
  repeat' split
  all_goals exact h

/-- Every command keeps the session accountable. -/
theorem dispatch_accountable (parts : List Bytes) (h : Accountable o cfg ev s.user w.events) :
    OutcomeAccountable o cfg ev (dispatch o cfg n parts s w) := by
  unfold dispatch
  split
  · exact h
  · exact handleLogin_accountable parts h
  · exact handleAuthenticate_accountable parts h
  · split
    · exact h
    · exact handleListScripts_accountable h
  · split
    · exact h
    · split
      · exact handleGetScript_accountable _ h
      · exact h
  · split
    · exact h
    · split
      · exact handlePutScriptCommand_accountable _ _ h
      · exact h
  · split
    · exact h
    · split
      · exact handleSetActive_accountable _ h
      · exact h
  · split
    · exact h
    · split
      · exact handleDeleteScript_accountable _ h
      · exact h
  · exact handleStartTLS_accountable h
  · exact h
  · show Accountable o cfg ev (close _ _).1.user (close _ _).2.events
    simpa using h.forget
  · exact h

end Handlers

/-! ### The loop -/

section Loop

variable {o : Oracle} {cfg : ServerConfig} {ev : List Event}

theorem runDeferred_accountable (deferred : List Deferred) {s : Session} {w : World}
    (h : Accountable o cfg ev s.user w.events) :
    Accountable o cfg ev (runDeferred deferred s w).1.user (runDeferred deferred s w).2.events := by
  induction deferred generalizing s w with
  | nil => exact h
  | cons d rest ih =>
    cases d with
    | close =>
      have closed : Accountable o cfg ev (close s w).1.user (close s w).2.events := by
        simpa using h.forget
      exact ih closed
    | release => exact ih h

theorem commandLoop_accountable (fuel n : Nat) {s : Session} {w : World}
    (h : Accountable o cfg ev s.user w.events) :
    Accountable o cfg ev (commandLoop o cfg fuel n s w).1.user
      (commandLoop o cfg fuel n s w).2.1.events := by
  induction fuel generalizing n s w with
  | zero => exact h
  | succ fuel ih =>
    unfold commandLoop
    split
    · exact runDeferred_accountable _ h
    · dsimp only
      split
      · exact ih _ h
      · rename_i line reader _ _
        have step := dispatch_accountable (n := n) (s := { s with reader := reader })
          (splitN (trimSpace line) 0x20 3) h
        split <;> (rename_i hd; rw [hd] at step)
        · exact ih _ step
        · exact runDeferred_accountable _ step
        · exact step

end Loop

/-! ### The session -/

/-- Over every input, every configuration and every answer of the outside world: no call on
`sieve_scripts` comes before the first authentication, every authentication is justified, every
call names the account of the user authenticated at that point, and the session's user is the
one it last authenticated. -/
theorem session_acts_for_authenticated_user (o : Oracle) (cfg : ServerConfig) (fuel : Nat)
    (input tlsInput : Bytes) (w₀ : World) :
    ∃ new, (handleConnection o cfg fuel input tlsInput w₀).2.1.events = w₀.events ++ new ∧
      (∀ before c after, new = before ++ .call c :: after →
        (∀ p u, Event.authenticated p u ∉ before) → c.scriptAccount = none) ∧
      (∀ p u, Event.authenticated p u ∈ new → Justified o cfg p u) ∧
      (∀ before c after, new = before ++ .call c :: after → CallFor (lastUser none before) c) ∧
      ∀ u, (handleConnection o cfg fuel input tlsInput w₀).1.user = some u →
        lastUser none new = some u := by
  have started : Accountable o cfg w₀.events none w₀.events := Accountable.start
  obtain ⟨new, grew, sound, last⟩ := commandLoop_accountable fuel 0
    (s := Session.start input tlsInput) (w := w₀.send (greeting cfg (Session.start input tlsInput)))
    started
  have calls : ∀ before c after, new = before ++ .call c :: after →
      CallFor (lastUser none before) c := by
    rintro before c after rfl
    exact sound.split.1
  refine ⟨new, grew, fun before c after hn hb => ?_, fun p u hm => sound.justified hm, calls, last⟩
  have hc := calls before c after hn
  rw [lastUser_of_unauthenticated hb] at hc
  cases h : c.scriptAccount with
  | none => rfl
  | some i => simpa using hc i h

end Sora.ManageSieve

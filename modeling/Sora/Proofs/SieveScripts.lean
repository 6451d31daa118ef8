import Sora.Db.SieveScripts

/-
Module: Sora.Proofs.SieveScripts
Purpose: Serial histories of `CreateScript`, `UpdateScript`, `DeleteScript` and
  `SetScriptActive` transactions: each account keeps at most one active script, activation
  leaves exactly the activated script active, and a call touches only its own account's rows.
Trusted boundary: `Sora.Db.SieveScripts`.
Main exports: ScriptCall, runScripts, ScriptCall.effect, AtMostOneActive
-/

namespace Sora.Db

/-- One call of the sieve part of `db/append.go`, in a transaction of its own that the caller
commits when the call returns no error. -/
inductive ScriptCall where
  | createScript (userId : Int) (name script : Bytes) (now : Int)
  | updateScript (scriptId userId : Int) (name script : Bytes) (now : Int)
  | deleteScript (scriptId userId : Int)
  | setScriptActive (scriptId userId : Int) (active : Bool) (now : Int)

/-- The state after the call's transaction, and whether it committed. -/
def ScriptCall.perform (db : State) : ScriptCall → State × Bool
  | .createScript userId name script now =>
    settle db (Sora.Db.createScript (Tx.begin db) userId name script now)
  | .updateScript scriptId userId name script now =>
    settle db (Sora.Db.updateScript (Tx.begin db) scriptId userId name script now)
  | .deleteScript scriptId userId => settle db (Sora.Db.deleteScript (Tx.begin db) scriptId userId)
  | .setScriptActive scriptId userId active now =>
    settle db (Sora.Db.setScriptActive (Tx.begin db) scriptId userId active now)

/-- The account id the call is made with. -/
def ScriptCall.account : ScriptCall → Int
  | .createScript userId .. | .updateScript _ userId .. | .deleteScript _ userId
  | .setScriptActive _ userId .. => userId

/-- A serial history: the calls one after another. -/
def runScripts (db : State) (calls : List ScriptCall) : State :=
  calls.foldl (fun db call => (call.perform db).1) db

/-! ### What a committed call does to the rows -/

/-- The row `UpdateScript` leaves. -/
def rename (scriptId userId : Int) (name script : Bytes) (now : Int) (s : SieveScriptRow) :
    SieveScriptRow :=
  if s.id = scriptId ∧ s.accountId = userId then
    { s with name := name, script := script, updatedAt := now } else s

/-- The row `deactivateScripts` leaves. -/
def deactivate (userId : Int) (s : SieveScriptRow) : SieveScriptRow :=
  if s.accountId = userId ∧ s.active then { s with active := false } else s

/-- The row `setActiveRows` leaves. -/
def activate (active : Bool) (scriptId userId now : Int) (s : SieveScriptRow) : SieveScriptRow :=
  if s.id = scriptId ∧ s.accountId = userId then { s with active := active, updatedAt := now }
  else s

@[simp] theorem rename_id (scriptId userId : Int) (name script : Bytes) (now : Int)
    (s : SieveScriptRow) : (rename scriptId userId name script now s).id = s.id := by
  unfold rename; split <;> rfl

@[simp] theorem rename_accountId (scriptId userId : Int) (name script : Bytes) (now : Int)
    (s : SieveScriptRow) : (rename scriptId userId name script now s).accountId = s.accountId := by
  unfold rename; split <;> rfl

@[simp] theorem rename_active (scriptId userId : Int) (name script : Bytes) (now : Int)
    (s : SieveScriptRow) : (rename scriptId userId name script now s).active = s.active := by
  unfold rename; split <;> rfl

@[simp] theorem deactivate_id (userId : Int) (s : SieveScriptRow) :
    (deactivate userId s).id = s.id := by
  unfold deactivate; split <;> rfl

@[simp] theorem deactivate_accountId (userId : Int) (s : SieveScriptRow) :
    (deactivate userId s).accountId = s.accountId := by
  unfold deactivate; split <;> rfl

@[simp] theorem deactivate_active (userId : Int) (s : SieveScriptRow) :
    (deactivate userId s).active = (s.active && s.accountId != userId) := by
  unfold deactivate; by_cases h : s.accountId = userId <;> by_cases ha : s.active <;> simp [h, ha]

@[simp] theorem activate_id (active : Bool) (scriptId userId now : Int) (s : SieveScriptRow) :
    (activate active scriptId userId now s).id = s.id := by
  unfold activate; split <;> rfl

@[simp] theorem activate_accountId (active : Bool) (scriptId userId now : Int)
    (s : SieveScriptRow) : (activate active scriptId userId now s).accountId = s.accountId := by
  unfold activate; split <;> rfl

@[simp] theorem activate_active (active : Bool) (scriptId userId now : Int)
    (s : SieveScriptRow) : (activate active scriptId userId now s).active =
      if s.id = scriptId ∧ s.accountId = userId then active else s.active := by
  unfold activate; split <;> rfl

/-- The rows of `sieve_scripts` after the call commits. -/
def ScriptCall.effect (db : State) : ScriptCall → List SieveScriptRow
  | .createScript userId name script now =>
    db.sieveScripts ++ [⟨db.scriptIdSeq + 1, userId, name, script, false, now⟩]
  | .updateScript scriptId userId name script now =>
    db.sieveScripts.map (rename scriptId userId name script now)
  | .deleteScript scriptId userId =>
    db.sieveScripts.filter fun s => !(s.id == scriptId && s.accountId == userId)
  | .setScriptActive scriptId userId active now =>
    (if active then db.sieveScripts.map (deactivate userId) else db.sieveScripts).map
      (activate active scriptId userId now)

/-- A call leaves the rows its `effect` says when it commits, and the rows it found when it rolls
back. -/
theorem ScriptCall.perform_scripts (db : State) (call : ScriptCall) :
    (call.perform db).1.sieveScripts =
      if (call.perform db).2 then call.effect db else db.sieveScripts := by
  cases call with
  | createScript userId name script now =>
    by_cases valid : validText name && validText script
    · by_cases fresh : db.scriptIdSeq + 1 ∈ db.sieveScripts.map (·.id) <;>
        simp [perform, Sora.Db.createScript, Tx.run, Tx.begin, insertScript, valid, fresh, settle,
          effect]
    · simp [perform, Sora.Db.createScript, Tx.run, Tx.begin, insertScript, valid, settle]
  | updateScript scriptId userId name script now =>
    by_cases valid : validText name && validText script
    · simp only [perform, Sora.Db.updateScript, Tx.run, Tx.begin, updateScriptRow, valid,
        Bool.not_true, Bool.false_eq_true, ↓reduceIte]
      split <;>
        (obtain ⟨-, rfl⟩ := Prod.mk.inj ‹_›; simp [settle, effect, State.mapScripts, rename])
    · simp [perform, Sora.Db.updateScript, Tx.run, Tx.begin, updateScriptRow, valid, settle]
  | deleteScript scriptId userId =>
    simp [perform, Sora.Db.deleteScript, Tx.run, Tx.begin, deleteScriptRows, settle, effect,
      State.filterScripts]
  | setScriptActive scriptId userId active now =>
    cases active <;>
      simp [perform, Sora.Db.setScriptActive, Tx.run, Tx.begin, deactivateScripts, setActiveRows,
        settle, effect, State.mapScripts, activate, deactivate, Function.comp_def]

/-! ### Calls keep to their account -/

/-- A rewrite that keeps account ids and touches only `userId`'s rows leaves the rows of every
other account as they were. -/
theorem filter_account_map {f : SieveScriptRow → SieveScriptRow} {userId b : Int} (ne : b ≠ userId)
    (keeps : ∀ s, (f s).accountId = s.accountId) (fixes : ∀ s, s.accountId ≠ userId → f s = s)
    (scripts : List SieveScriptRow) :
    (scripts.map f).filter (·.accountId == b) = scripts.filter (·.accountId == b) := by
  induction scripts with
  | nil => rfl
  | cons s rest ih =>
    by_cases hb : s.accountId = b
    · simp [List.filter_cons, keeps, hb, fixes s (hb ▸ ne), ih]
    · simp [List.filter_cons, keeps, hb, ih]

theorem rename_fixes (scriptId userId : Int) (name script : Bytes) (now : Int)
    (s : SieveScriptRow) (h : s.accountId ≠ userId) : rename scriptId userId name script now s = s := by
  simp [rename, h]

theorem deactivate_fixes (userId : Int) (s : SieveScriptRow) (h : s.accountId ≠ userId) :
    deactivate userId s = s := by
  simp [deactivate, h]

theorem activate_fixes (active : Bool) (scriptId userId now : Int) (s : SieveScriptRow)
    (h : s.accountId ≠ userId) : activate active scriptId userId now s = s := by
  simp [activate, h]

/-- A committed call leaves the rows of every other account as they were. -/
theorem ScriptCall.effect_other (db : State) (call : ScriptCall) {b : Int} (ne : b ≠ call.account) :
    (call.effect db).filter (·.accountId == b) = db.sieveScripts.filter (·.accountId == b) := by
  cases call with
  | createScript userId name script now =>
    replace ne : b ≠ userId := ne
    simp [effect, List.filter_append, Ne.symm ne]
  | updateScript scriptId userId name script now =>
    exact filter_account_map ne (rename_accountId scriptId userId name script now)
      (rename_fixes scriptId userId name script now) _
  | deleteScript scriptId userId =>
    replace ne : b ≠ userId := ne
    rw [effect, List.filter_filter]
    refine List.filter_congr fun s _ => ?_
    by_cases hb : s.accountId = b
    · simp [hb, ne]
    · simp [hb]
  | setScriptActive scriptId userId active now =>
    rw [effect, filter_account_map ne (activate_accountId active scriptId userId now)
      (activate_fixes active scriptId userId now)]
    split
    · exact filter_account_map ne (deactivate_accountId userId) (deactivate_fixes userId) _
    · rfl

/-! ### One active script per account -/

/-- Each account has at most one script with `active = true`. -/
def AtMostOneActive (scripts : List SieveScriptRow) : Prop :=
  ∀ a, scripts.countP (fun s => s.accountId == a && s.active) ≤ 1

/-- The account's active rows, counted among the account's rows. -/
theorem countP_active_eq (scripts : List SieveScriptRow) (a : Int) :
    scripts.countP (fun s => s.accountId == a && s.active) =
      (scripts.filter (·.accountId == a)).countP (·.active) := by
  rw [List.countP_filter]
  exact List.countP_congr fun s _ => by simp [and_comm]

/-- Each account has at most one active script exactly when the accounts of the active rows are
distinct, which decides the invariant on a given table. -/
theorem atMostOneActive_iff_nodup (scripts : List SieveScriptRow) :
    AtMostOneActive scripts ↔ ((scripts.filter (·.active)).map (·.accountId)).Nodup := by
  rw [List.nodup_iff_count_le_one]
  refine forall_congr' fun a => ?_
  rw [List.count, List.countP_map, List.countP_filter]
  exact iff_of_eq (congrArg (· ≤ 1) (List.countP_congr fun s _ => by simp [and_comm]))

instance : DecidablePred AtMostOneActive :=
  fun scripts => decidable_of_iff _ (atMostOneActive_iff_nodup scripts).symm

/-- Rows whose ids are distinct hold at most one row of each id. -/
theorem countP_id_le_one {scripts : List SieveScriptRow} (unique : (scripts.map (·.id)).Nodup)
    (scriptId : Int) : scripts.countP (fun s => s.id == scriptId) ≤ 1 := by
  have := List.nodup_iff_count_le_one.mp unique scriptId
  rwa [List.count, List.countP_map] at this

/-- A rewrite that never makes a row active for `a` keeps the count of `a`'s active rows from
growing. -/
theorem countP_map_le {f : SieveScriptRow → SieveScriptRow} {p : SieveScriptRow → Bool}
    (scripts : List SieveScriptRow) (h : ∀ s, p (f s) → p s) :
    (scripts.map f).countP p ≤ scripts.countP p := by
  rw [List.countP_map]
  exact List.countP_mono_left fun s _ => h s

/-- After `SetScriptActive(id, account, true)`, the account's active rows are the row `id`. -/
theorem activated_active_iff {scriptId userId now : Int} {scripts : List SieveScriptRow}
    {s : SieveScriptRow}
    (mem : s ∈ (scripts.map (deactivate userId)).map (activate true scriptId userId now))
    (own : s.accountId = userId) : s.active = true ↔ s.id = scriptId := by
  obtain ⟨s, -, rfl⟩ := List.mem_map.mp (List.map_map .. ▸ mem)
  simp_all

/-- Activation keeps at most one active row for the account it is made for. -/
theorem activated_countP_own {scriptId userId now : Int} {scripts : List SieveScriptRow}
    (unique : (scripts.map (·.id)).Nodup) :
    ((scripts.map (deactivate userId)).map (activate true scriptId userId now)).countP
      (fun s => s.accountId == userId && s.active) ≤ 1 := by
  calc _ ≤ ((scripts.map (deactivate userId)).map (activate true scriptId userId now)).countP
          (fun s => s.id == scriptId) :=
        List.countP_mono_left fun s mem h => by
          simp only [Bool.and_eq_true, beq_iff_eq] at h
          simpa using (activated_active_iff mem h.1).mp h.2
    _ ≤ 1 := countP_id_le_one (by simpa [Function.comp_def] using unique) scriptId

/-- Every committed call keeps at most one active script per account. -/
theorem AtMostOneActive.effect {db : State} (inv : AtMostOneActive db.sieveScripts)
    (call : ScriptCall) : AtMostOneActive (call.effect db) := by
  intro a
  by_cases own : a = call.account
  · cases call with
    | createScript userId name script now => simpa [ScriptCall.effect] using inv a
    | updateScript scriptId userId name script now =>
      exact (countP_map_le _ fun s => by simp).trans (inv a)
    | deleteScript scriptId userId =>
      exact ((List.filter_sublist _).countP_le _).trans (inv a)
    | setScriptActive scriptId userId active now =>
      cases active with
      | false =>
        refine (countP_map_le _ fun s => ?_).trans (inv a)
        simp only [activate_accountId, activate_active]
        split_ifs <;> simp_all
      | true =>
        subst own
        exact activated_countP_own db.sieveScripts_id_unique
  · rw [countP_active_eq, call.effect_other db own, ← countP_active_eq]
    exact inv a

/-- A call keeps at most one active script per account, whether it commits or rolls back. -/
theorem AtMostOneActive.perform {db : State} (inv : AtMostOneActive db.sieveScripts)
    (call : ScriptCall) : AtMostOneActive (call.perform db).1.sieveScripts := by
  rw [call.perform_scripts db]
  split
  · exact inv.effect call
  · exact inv

theorem AtMostOneActive.runScripts {db : State} (inv : AtMostOneActive db.sieveScripts)
    (calls : List ScriptCall) : AtMostOneActive (runScripts db calls).sieveScripts := by
  induction calls generalizing db with
  | nil => exact inv
  | cons call calls ih => exact ih (inv.perform call)

/-! ### The scripts a history writes -/

/-- The script text a call writes, if it writes one. -/
def ScriptCall.script? : ScriptCall → Option Bytes
  | .createScript _ _ script _ | .updateScript _ _ _ script _ => some script
  | .deleteScript .. | .setScriptActive .. => none

@[simp] theorem deactivate_script (userId : Int) (s : SieveScriptRow) :
    (deactivate userId s).script = s.script := by
  unfold deactivate; split <;> rfl

@[simp] theorem activate_script (active : Bool) (scriptId userId now : Int) (s : SieveScriptRow) :
    (activate active scriptId userId now s).script = s.script := by
  unfold activate; split <;> rfl

/-- A row a committed call leaves holds a script some row held before, or the one the call
writes. -/
theorem ScriptCall.script_of_mem_effect {db : State} {call : ScriptCall} {s : SieveScriptRow}
    (h : s ∈ call.effect db) :
    (∃ r ∈ db.sieveScripts, r.script = s.script) ∨ call.script? = some s.script := by
  cases call with
  | createScript userId name script now =>
    rcases List.mem_append.mp h with old | new
    · exact .inl ⟨s, old, rfl⟩
    · rw [List.mem_singleton.mp new]
      exact .inr rfl
  | updateScript scriptId userId name script now =>
    obtain ⟨r, mem, rfl⟩ := List.mem_map.mp h
    unfold rename
    split
    · exact .inr rfl
    · exact .inl ⟨r, mem, rfl⟩
  | deleteScript scriptId userId => exact .inl ⟨s, List.mem_of_mem_filter h, rfl⟩
  | setScriptActive scriptId userId active now =>
    obtain ⟨r, mem, rfl⟩ := List.mem_map.mp h
    refine .inl ?_
    split at mem
    · obtain ⟨r', old, rfl⟩ := List.mem_map.mp mem
      exact ⟨r', old, by simp⟩
    · exact ⟨r, mem, by simp⟩

/-- A property of script texts that holds of every row, and of the script a call writes, holds of
every row the call leaves, whether it commits or rolls back. -/
theorem ScriptCall.perform_scripts_satisfy {P : Bytes → Prop} {db : State}
    (inv : ∀ s ∈ db.sieveScripts, P s.script) (call : ScriptCall)
    (written : ∀ script, call.script? = some script → P script) :
    ∀ s ∈ (call.perform db).1.sieveScripts, P s.script := by
  rw [call.perform_scripts db]
  split
  · intro s hs
    rcases script_of_mem_effect hs with ⟨r, mem, same⟩ | new
    · exact same ▸ inv r mem
    · exact written _ new
  · exact inv

/-! ### The history -/

/-- Over every serial history from a table with at most one active script per account, each
account keeps at most one; a committed activation of an account's own script leaves that script,
and no other of the account's, active; and no call changes another account's rows. -/
theorem sieve_scripts_one_active_per_account {db₀ : State} (init : AtMostOneActive db₀.sieveScripts)
    (calls : List ScriptCall) :
    AtMostOneActive (runScripts db₀ calls).sieveScripts ∧
      (∀ (db db' : State) (scriptId userId now : Int),
        (ScriptCall.setScriptActive scriptId userId true now).perform db = (db', true) →
        (∃ s ∈ db.sieveScripts, s.id = scriptId ∧ s.accountId = userId) →
          (∃ s ∈ db'.sieveScripts, s.id = scriptId ∧ s.active = true) ∧
            ∀ s ∈ db'.sieveScripts, s.accountId = userId → (s.active = true ↔ s.id = scriptId)) ∧
      ∀ (db : State) (call : ScriptCall) (b : Int), b ≠ call.account →
        (call.perform db).1.sieveScripts.filter (·.accountId == b) =
          db.sieveScripts.filter (·.accountId == b) := by
  refine ⟨init.runScripts calls, fun db db' scriptId userId now commit ⟨s, mem, hid, hacc⟩ => ?_,
    fun db call b ne => ?_⟩
  · have rows := (ScriptCall.setScriptActive scriptId userId true now).perform_scripts db
    simp only [commit, ↓reduceIte, ScriptCall.effect] at rows
    rw [rows]
    refine ⟨⟨_, List.mem_map_of_mem _ (List.mem_map_of_mem _ mem), by simp [hid], by
      simp [hid, hacc]⟩, fun s mem own => activated_active_iff mem own⟩
  · rw [call.perform_scripts db]
    split
    · exact call.effect_other db ne
    · rfl

/-- Account 7 holds the scripts `a`, active, and `b`; account 8 holds `c`, active. -/
def twoAccountScripts : State where
  mailboxes := []
  messages := []
  messageSequences := []
  messageContents := []
  pendingUploads := []
  sieveScripts := [⟨1, 7, [97], [107], true, 0⟩, ⟨2, 7, [98], [100], false, 0⟩,
    ⟨3, 8, [99], [107], true, 0⟩]
  messageIdSeq := 0
  modseqSeq := 0
  scriptIdSeq := 3
  messages_id_unique := List.nodup_nil
  sieveScripts_id_unique := by decide

/-- Account 7 activates `b`; account 8 creates `d`, activates it and deletes `c`. -/
def scriptHistory : List ScriptCall :=
  [.setScriptActive 2 7 true 1, .createScript 8 [100] [107] 2, .setScriptActive 4 8 true 3,
    .deleteScript 3 8]

/-- After that history `b` is the one active script of account 7 and `d` that of account 8. -/
theorem sieve_scripts_one_active_across_two_accounts :
    AtMostOneActive twoAccountScripts.sieveScripts ∧
      ((runScripts twoAccountScripts scriptHistory).sieveScripts.map
        fun s => (s.id, s.accountId, s.active)) = [(1, 7, false), (2, 7, true), (4, 8, true)] ∧
      AtMostOneActive (runScripts twoAccountScripts scriptHistory).sieveScripts :=
  have init : AtMostOneActive twoAccountScripts.sieveScripts := by decide
  ⟨init, by decide, (sieve_scripts_one_active_per_account init scriptHistory).1⟩

end Sora.Db

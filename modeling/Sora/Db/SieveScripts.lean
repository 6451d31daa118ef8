import Sora.Db.Transaction

/-
Module: Sora.Db.SieveScripts
Purpose: The `sieve_scripts` functions of `db/append.go`: the lookups `GetUserScripts` and
  `GetScriptByName`, and `CreateScript`, `UpdateScript`, `DeleteScript` and `SetScriptActive`,
  each as the statements it sends through its transaction.
Trusted boundary: `Sora.Db.Transaction`. `updated_at = now()` is the transaction's `now`. The
  DDL of `sieve_scripts` is not under src: its primary key is `id`, drawn from a sequence.
Main exports: getUserScripts, getScriptByName, ScriptError, createScript, updateScript,
  deleteScript, setScriptActive
-/

namespace Sora.Db

/-! ### Rewriting the table -/

/-- The state with every script rewritten by `f`, which keeps ids. -/
def State.mapScripts (db : State) (f : SieveScriptRow → SieveScriptRow)
    (keeps : ∀ s, (f s).id = s.id) : State :=
  { db with
    sieveScripts := db.sieveScripts.map f
    sieveScripts_id_unique := by
      rw [List.map_map, show SieveScriptRow.id ∘ f = SieveScriptRow.id from funext keeps]
      exact db.sieveScripts_id_unique }

/-- The state with the scripts that `keep` rejects deleted. -/
def State.filterScripts (db : State) (keep : SieveScriptRow → Bool) : State :=
  { db with
    sieveScripts := db.sieveScripts.filter keep
    sieveScripts_id_unique := db.sieveScripts_id_unique.sublist ((List.filter_sublist _).map _) }

/-! ### Lookups on the read pool -/

/-- `GetUserScripts`: `SELECT ... FROM sieve_scripts WHERE account_id = $1`. -/
def getUserScripts (userId : Int) (db : State) : List SieveScriptRow :=
  db.sieveScripts.filter (·.accountId == userId)

/-- `GetScriptByName`: `SELECT ... WHERE name = $1 AND account_id = $2` through `QueryRow`. The
first row, `none` for `consts.ErrDBNotFound`, or the error of a name that is not text. -/
def getScriptByName (name : Bytes) (userId : Int) (db : State) :
    Except SqlError (Option SieveScriptRow) :=
  if validText name then
    .ok (db.sieveScripts.find? fun s => s.name == name && s.accountId == userId)
  else .error .characterNotInRepertoire

/-! ### Statements -/

/-- `INSERT INTO sieve_scripts (account_id, name, script, active) VALUES ($1, $2, $3, false)
RETURNING ...`: the id is the sequence's next value. -/
def insertScript (userId : Int) (name script : Bytes) (now : Int) (db : State) :
    Except SqlError (SieveScriptRow × State) :=
  if !(validText name && validText script) then .error .characterNotInRepertoire else
  let row : SieveScriptRow := ⟨db.scriptIdSeq + 1, userId, name, script, false, now⟩
  if fresh : row.id ∈ db.sieveScripts.map (·.id) then .error (.uniqueViolation "sieve_scripts_pkey")
  else .ok (row, { db with
    sieveScripts := db.sieveScripts ++ [row]
    scriptIdSeq := row.id
    sieveScripts_id_unique := by
      rw [List.map_append, List.nodup_append]
      exact ⟨db.sieveScripts_id_unique, List.nodup_singleton _, by simpa using fresh⟩ })

/-- `UPDATE sieve_scripts SET name = $1, script = $2, updated_at = now() WHERE id = $3 AND
account_id = $4 RETURNING ...` through `QueryRow`: the first row updated, if any. -/
def updateScriptRow (scriptId userId : Int) (name script : Bytes) (now : Int) (db : State) :
    Except SqlError (Option SieveScriptRow × State) :=
  if !(validText name && validText script) then .error .characterNotInRepertoire else
  let db' := db.mapScripts
    (fun s => if s.id = scriptId ∧ s.accountId = userId then
      { s with name := name, script := script, updatedAt := now } else s)
    (fun s => by dsimp only; split <;> rfl)
  .ok (db'.sieveScripts.find? fun s => s.id == scriptId && s.accountId == userId, db')

/-- `DELETE FROM sieve_scripts WHERE id = $1 AND account_id = $2`. -/
def deleteScriptRows (scriptId userId : Int) (db : State) : Except SqlError (Unit × State) :=
  .ok ((), db.filterScripts fun s => !(s.id == scriptId && s.accountId == userId))

/-- `UPDATE sieve_scripts SET active = false WHERE account_id = $1 AND active = true`. -/
def deactivateScripts (userId : Int) (db : State) : Except SqlError (Unit × State) :=
  .ok ((), db.mapScripts
    (fun s => if s.accountId = userId ∧ s.active then { s with active := false } else s)
    (fun s => by dsimp only; split <;> rfl))

/-- `UPDATE sieve_scripts SET active = $1, updated_at = now() WHERE id = $2 AND account_id = $3`. -/
def setActiveRows (active : Bool) (scriptId userId : Int) (now : Int) (db : State) :
    Except SqlError (Unit × State) :=
  .ok ((), db.mapScripts
    (fun s => if s.id = scriptId ∧ s.accountId = userId then
      { s with active := active, updatedAt := now } else s)
    (fun s => by dsimp only; split <;> rfl))

/-! ### The functions -/

/-- What the functions return in place of `nil`. -/
inductive ScriptError where
  /-- A PostgreSQL error, returned as it is. -/
  | sql (e : SqlError)
  /-- `pgx.ErrNoRows`, from a `QueryRow` that found no row. -/
  | noRows
  /-- "failed to deactivate other scripts: %w" -/
  | deactivateFailed (e : SqlError)
deriving Repr, DecidableEq

/-- `CreateScript(ctx, tx, userID, name, script)`. -/
def createScript (tx : Tx) (userId : Int) (name script : Bytes) (now : Int) :
    Except ScriptError SieveScriptRow × Tx :=
  match tx.run (insertScript userId name script now) with
  | (.ok row, tx) => (.ok row, tx)
  | (.error e, tx) => (.error (.sql e), tx)

/-- `UpdateScript(ctx, tx, scriptID, userID, name, script)`. -/
def updateScript (tx : Tx) (scriptId userId : Int) (name script : Bytes) (now : Int) :
    Except ScriptError SieveScriptRow × Tx :=
  match tx.run (updateScriptRow scriptId userId name script now) with
  | (.ok (some row), tx) => (.ok row, tx)
  | (.ok none, tx) => (.error .noRows, tx)
  | (.error e, tx) => (.error (.sql e), tx)

/-- `DeleteScript(ctx, tx, scriptID, userID)`. -/
def deleteScript (tx : Tx) (scriptId userId : Int) : Except ScriptError Unit × Tx :=
  match tx.run (deleteScriptRows scriptId userId) with
  | (.ok _, tx) => (.ok (), tx)
  | (.error e, tx) => (.error (.sql e), tx)

/-- `SetScriptActive(ctx, tx, scriptID, userID, active)`: activating first deactivates every
active script of the account. -/
def setScriptActive (tx : Tx) (scriptId userId : Int) (active : Bool) (now : Int) :
    Except ScriptError Unit × Tx :=
  let deactivated : Except ScriptError Unit × Tx :=
    if active then
      match tx.run (deactivateScripts userId) with
      | (.ok _, tx) => (.ok (), tx)
      | (.error e, tx) => (.error (.deactivateFailed e), tx)
    else (.ok (), tx)
  match deactivated with
  | (.error e, tx) => (.error e, tx)
  | (.ok _, tx) =>
    match tx.run (setActiveRows active scriptId userId now) with
    | (.ok _, tx) => (.ok (), tx)
    | (.error e, tx) => (.error (.sql e), tx)

end Sora.Db

import Sora.AdminApi.Accounts
import Sora.Proofs.AdminHosts

/-
Module: Sora.Proofs.AdminAccounts
Purpose: What the admin API's account handlers let through to the database, and who reaches them.
  A credentials array is checked credential by credential: either every one is valid and the
  database is asked once for all of them, converted in order, or nothing is asked and the reply
  names the first invalid credential by its 1-based position and reason. Whatever the request,
  the database is never asked to store a login without an email or with anything but exactly
  one of a password and a hash. Every handler stops at the first database error and reports
  success exactly when all its calls succeeded. A request reaches the routes of a server `New`
  built only with a `Bearer` header carrying the server's API key, which is never empty, and
  the router hands a request only to a handler of its method.
Trusted boundary: `Sora.AdminApi.Accounts`, `Sora.AdminApi.Middleware`; what `AccountsDb`
  answers.
Main exports: OneSecret, ValidCredential, Rejects, convertCredentials_total,
  create_account_checks_every_credential, AccountsCall.WellFormed, account_writes_well_formed,
  AnswersAsDb, account_handlers_answer_as_db, authMiddleware_next_iff,
  new_server_admits_only_bearer_key, AccountRoute.method, routes_match_method
-/

namespace Sora.AdminApi

open Sora.Db (Bytes)
open Sora.ManageSieve (utf8 decimal splitN toLower)
open Sora.Server (IP IPNet)

/-! ### A credential the loop accepts -/

/-- Exactly one of a password and a password hash is given. -/
def OneSecret (password passwordHash : Bytes) : Prop :=
  password ≠ [] ∧ passwordHash = [] ∨ password = [] ∧ passwordHash ≠ []

instance (password passwordHash : Bytes) : Decidable (OneSecret password passwordHash) :=
  inferInstanceAs (Decidable (_ ∨ _))

/-- A credential with an email and exactly one secret. -/
def ValidCredential (c : CreateCredentialSpec) : Prop :=
  c.email ≠ [] ∧ OneSecret c.password c.passwordHash

instance (c : CreateCredentialSpec) : Decidable (ValidCredential c) :=
  inferInstanceAs (Decidable (_ ∧ _))

/-- The first check of the loop that `c` fails, with the text it reports. -/
def Rejects (c : CreateCredentialSpec) (problem : String) : Prop :=
  c.email = [] ∧ problem = "email is required" ∨
    c.email ≠ [] ∧ c.password = [] ∧ c.passwordHash = [] ∧
      problem = "either password or password_hash is required" ∨
    c.email ≠ [] ∧ c.password ≠ [] ∧ c.passwordHash ≠ [] ∧
      problem = "cannot specify both password and password_hash"

/-- The `db.CredentialSpec` the loop makes of a credential: the same fields, and `bcrypt` for a
missing hash type. -/
def CreateCredentialSpec.toDb (c : CreateCredentialSpec) : CredentialSpec :=
  ⟨c.email, c.password, c.passwordHash, c.isPrimary,
    if c.hashType = [] then utf8 "bcrypt" else c.hashType⟩

/-- Every credential is valid or fails one of the loop's checks. -/
theorem valid_or_rejects (c : CreateCredentialSpec) :
    ValidCredential c ∨ ∃ problem, Rejects c problem := by
  by_cases email : c.email = [] <;> by_cases password : c.password = [] <;>
    by_cases hash : c.passwordHash = [] <;> simp [ValidCredential, OneSecret, Rejects, *]

/-- A round of the loop on a valid credential converts it and goes on. -/
theorem convertCredentials_cons_of_valid {c : CreateCredentialSpec} (valid : ValidCredential c)
    (i : Nat) (rest : List CreateCredentialSpec) :
    convertCredentials i (c :: rest) = (convertCredentials (i + 1) rest).map (c.toDb :: ·) := by
  obtain ⟨email, ⟨password, hash⟩ | ⟨password, hash⟩⟩ := valid <;>
    simp only [convertCredentials, email, password, hash, ne_eq, not_false_eq_true,
      not_true_eq_false, and_false, false_and, and_self, ↓reduceIte] <;>
    cases convertCredentials (i + 1) rest <;> simp [Except.map, CreateCredentialSpec.toDb, *]

/-- A round of the loop on a credential that fails a check reports it at its index. -/
theorem convertCredentials_cons_of_rejects {c : CreateCredentialSpec} {problem : String}
    (rejects : Rejects c problem) (i : Nat) (rest : List CreateCredentialSpec) :
    convertCredentials i (c :: rest) = .error (credentialError i problem) := by
  rcases rejects with ⟨email, rfl⟩ | ⟨email, password, hash, rfl⟩ | ⟨email, password, hash, rfl⟩ <;>
    simp [convertCredentials, *]

/-- The `for i, cred := range req.Credentials` loop: either every credential is valid and the
result is their conversion, in order and one for one, or the result is the message of the first
invalid credential, at its index. -/
theorem convertCredentials_total (i : Nat) (creds : List CreateCredentialSpec) :
    (∀ c ∈ creds, ValidCredential c) ∧ convertCredentials i creds = .ok (creds.map (·.toDb)) ∨
      ∃ pre bad post problem, creds = pre ++ bad :: post ∧ (∀ c ∈ pre, ValidCredential c) ∧
        Rejects bad problem ∧
        convertCredentials i creds = .error (credentialError (i + pre.length) problem) := by
  induction creds generalizing i with
  | nil => exact .inl ⟨nofun, rfl⟩
  | cons c rest ih =>
    rcases valid_or_rejects c with valid | ⟨problem, rejects⟩
    · have step := convertCredentials_cons_of_valid valid i rest
      rcases ih (i + 1) with ⟨allValid, ok⟩ | ⟨pre, bad, post, problem, rfl, preValid, rejects, err⟩
      · exact .inl ⟨List.forall_mem_cons.mpr ⟨valid, allValid⟩, by rw [step, ok]; rfl⟩
      · refine .inr ⟨c :: pre, bad, post, problem, rfl, List.forall_mem_cons.mpr ⟨valid, preValid⟩,
          rejects, ?_⟩
        rw [step, err, List.length_cons, ← Nat.add_assoc, Nat.add_right_comm]
        rfl
    · exact .inr ⟨[], c, rest, problem, rfl, nofun, rejects,
        convertCredentials_cons_of_rejects rejects i rest⟩

/-- A credential the loop converts keeps its email and secret, and gets a hash type. -/
theorem ValidCredential.toDb {c : CreateCredentialSpec} (valid : ValidCredential c) :
    c.toDb.email ≠ [] ∧ OneSecret c.toDb.password c.toDb.passwordHash ∧ c.toDb.hashType ≠ [] := by
  refine ⟨valid.1, valid.2, ?_⟩
  simp only [CreateCredentialSpec.toDb]
  split_ifs with h
  · decide
  · exact h

/-- `POST /admin/accounts` with a `credentials` array and no single email, password or hash:
either every credential is valid and the database is asked once, to create the account with all
of them converted in order, or the database is not asked at all and the reply is a 400 naming
the first invalid credential by its 1-based position and the check it failed. -/
theorem create_account_checks_every_credential (db : AccountsDb) (req : CreateAccountRequest)
    (array : req.credentials ≠ [])
    (alone : req.email = [] ∧ req.password = [] ∧ req.passwordHash = []) :
    (∀ c ∈ req.credentials, ValidCredential c) ∧
        (handleCreateAccount db (some req)).1 =
          [.createAccountWithCredentials (req.credentials.map (·.toDb))] ∨
      ∃ pre bad post problem, req.credentials = pre ++ bad :: post ∧
        (∀ c ∈ pre, ValidCredential c) ∧ Rejects bad problem ∧
        handleCreateAccount db (some req) = ([], .error 400 (credentialError pre.length problem)) := by
  obtain ⟨email, password, hash⟩ := alone
  have single : ¬(req.email ≠ [] ∨ req.password ≠ [] ∨ req.passwordHash ≠ []) := by
    simp [email, password, hash]
  rcases convertCredentials_total 0 req.credentials with ⟨valid, ok⟩ | ⟨pre, bad, post, problem,
    split, preValid, rejects, err⟩
  · refine .inl ⟨valid, ?_⟩
    simp only [handleCreateAccount, array, single, ok, ne_eq, not_false_eq_true, ↓reduceIte]
    split <;> (try split) <;> rfl
  · refine .inr ⟨pre, bad, post, problem, split, preValid, rejects, ?_⟩
    simp only [handleCreateAccount, array, single, err, Nat.zero_add, ne_eq, not_false_eq_true,
      ↓reduceIte]

/-- A database that accepts every call, and gives the new account the id 1. -/
def acceptingDb : AccountsDb where
  createAccountWithCredentials _ := .ok 1
  createAccount _ := .ok ()
  getAccountIdByAddress _ := .ok 1
  updateAccount _ := .ok ()
  addCredential _ := .ok ()
  deleteAccount _ := .ok ()
  restoreAccount _ := .ok ()
  deleteCredential _ := .ok ()

/-- A credentials array whose second credential has both a password and a hash. -/
def twoCredentials : CreateAccountRequest :=
  ⟨[], [], [], [⟨utf8 "a@example.com", utf8 "pw", [], true, []⟩,
    ⟨utf8 "b@example.com", utf8 "pw", utf8 "$2a$10$h", false, []⟩]⟩

theorem second_credential_rejected :
    twoCredentials.credentials ≠ [] ∧
      (twoCredentials.email = [] ∧ twoCredentials.password = [] ∧ twoCredentials.passwordHash = []) ∧
      ((∀ c ∈ twoCredentials.credentials, ValidCredential c) ∧
          (handleCreateAccount acceptingDb (some twoCredentials)).1 =
            [.createAccountWithCredentials (twoCredentials.credentials.map (·.toDb))] ∨
        ∃ pre bad post problem, twoCredentials.credentials = pre ++ bad :: post ∧
          (∀ c ∈ pre, ValidCredential c) ∧ Rejects bad problem ∧
          handleCreateAccount acceptingDb (some twoCredentials) =
            ([], .error 400 (credentialError pre.length problem))) :=
  ⟨by decide, ⟨rfl, rfl, rfl⟩,
    create_account_checks_every_credential acceptingDb twoCredentials (by decide) ⟨rfl, rfl, rfl⟩⟩

/-! ### What the database is asked to store -/

/-- A call that stores a login names its email, carries exactly one of a password and a hash,
and says which hash type; the other calls store no secret. -/
def AccountsCall.WellFormed : AccountsCall → Prop
  | .createAccountWithCredentials credentials => credentials ≠ [] ∧
      ∀ c ∈ credentials, c.email ≠ [] ∧ OneSecret c.password c.passwordHash ∧ c.hashType ≠ []
  | .createAccount req =>
      req.email ≠ [] ∧ OneSecret req.password req.passwordHash ∧ req.hashType ≠ []
  | .updateAccount req => OneSecret req.password req.passwordHash ∧ req.hashType ≠ []
  | .addCredential req =>
      req.newEmail ≠ [] ∧ OneSecret req.newPassword req.newPasswordHash ∧ req.newHashType ≠ []
  | .getAccountIdByAddress _ | .deleteAccount _ | .restoreAccount _ | .deleteCredential _ => True

/-- The two single-secret checks the handlers make, in their order, leave exactly one secret. -/
theorem oneSecret_of_checks {password passwordHash : Bytes}
    (some : ¬(password = [] ∧ passwordHash = [])) (notBoth : ¬(password ≠ [] ∧ passwordHash ≠ [])) :
    OneSecret password passwordHash := by
  by_cases h : password = [] <;> simp_all [OneSecret]

theorem bcrypt_ne_nil : utf8 "bcrypt" ≠ [] := by
  decide

/-! ### How the handlers report what the database answered -/

/-- Whether the database answered a call without an error. -/
def AccountsCall.succeeds (db : AccountsDb) : AccountsCall → Bool
  | .createAccountWithCredentials credentials => (db.createAccountWithCredentials credentials).isOk
  | .createAccount req => (db.createAccount req).isOk
  | .getAccountIdByAddress email => (db.getAccountIdByAddress email).isOk
  | .updateAccount req => (db.updateAccount req).isOk
  | .addCredential req => (db.addCredential req).isOk
  | .deleteAccount email => (db.deleteAccount email).isOk
  | .restoreAccount email => (db.restoreAccount email).isOk
  | .deleteCredential email => (db.deleteCredential email).isOk

/-- A handler's calls and reply agree with the database: a request it refuses before asking the
database gets a 400, it asks nothing more after a call that failed, and its reply is a success
(a 2xx status) exactly when it asked the database and every call succeeded. -/
structure AnswersAsDb (db : AccountsDb) (out : List AccountsCall × Reply) : Prop where
  refused : out.1 = [] → out.2.status = 400
  stops : ∀ c ∈ out.1.dropLast, c.succeeds db = true
  success : out.2.status < 300 ↔ out.1 ≠ [] ∧ ∀ c ∈ out.1, c.succeeds db = true

namespace AnswersAsDb

variable {db : AccountsDb}

/-- A request refused before any call. -/
theorem refusal (message : Bytes) : AnswersAsDb db ([], .error 400 message) :=
  ⟨fun _ => rfl, nofun, by simp [Reply.status]⟩

/-- One call, whose answer decides the reply. -/
theorem one {call : AccountsCall} {reply : Reply}
    (agrees : reply.status < 300 ↔ call.succeeds db = true) : AnswersAsDb db ([call], reply) :=
  ⟨nofun, nofun, by simpa using agrees⟩

/-- A call that succeeded, then one whose answer decides the reply. -/
theorem two {first call : AccountsCall} {reply : Reply} (found : first.succeeds db = true)
    (agrees : reply.status < 300 ↔ call.succeeds db = true) :
    AnswersAsDb db ([first, call], reply) :=
  ⟨nofun, by simpa using found, by simpa [found] using agrees⟩

/-- `one`, with the agreement computed. -/
theorem one_of_decide {call : AccountsCall} {reply : Reply}
    (agrees : decide (reply.status < 300) = call.succeeds db) : AnswersAsDb db ([call], reply) :=
  .one (by rw [← agrees, decide_eq_true_iff])

/-- `two`, with the agreements computed. -/
theorem two_of_decide {first call : AccountsCall} {reply : Reply} (found : first.succeeds db = true)
    (agrees : decide (reply.status < 300) = call.succeeds db) :
    AnswersAsDb db ([first, call], reply) :=
  .two found (by rw [← agrees, decide_eq_true_iff])

end AnswersAsDb

/-! ### One lemma per handler -/

section Handlers

variable (db : AccountsDb)

theorem handleCreateAccount_sound (body : Option CreateAccountRequest) :
    AnswersAsDb db (handleCreateAccount db body) ∧
      ∀ c ∈ (handleCreateAccount db body).1, c.WellFormed := by
  cases body with
  | none => exact ⟨.refusal _, nofun⟩
  | some req =>
  rw [handleCreateAccount]
  by_cases array : req.credentials ≠ []
  · rw [if_pos array]
    by_cases single : req.email ≠ [] ∨ req.password ≠ [] ∨ req.passwordHash ≠ []
    · rw [if_pos single]
      exact ⟨.refusal _, nofun⟩
    rw [if_neg single]
    rcases convertCredentials_total 0 req.credentials with ⟨valid, ok⟩ | ⟨_, _, _, _, _, _, _, err⟩
    · have written : AccountsCall.WellFormed
          (.createAccountWithCredentials (req.credentials.map (·.toDb))) :=
        ⟨by simpa using array, by simpa using fun c mem => (valid c mem).toDb⟩
      simp only [ok]
      split <;> rename_i answer <;> (try split) <;>
        exact ⟨.one_of_decide (by rw [AccountsCall.succeeds, answer]; rfl),
          List.forall_mem_singleton.mpr written⟩
    · simp only [err]
      exact ⟨.refusal _, nofun⟩
  rw [if_neg array]
  by_cases email : req.email = []
  · rw [if_pos email]
    exact ⟨.refusal _, nofun⟩
  rw [if_neg email]
  by_cases noSecret : req.password = [] ∧ req.passwordHash = []
  · rw [if_pos noSecret]
    exact ⟨.refusal _, nofun⟩
  rw [if_neg noSecret]
  by_cases both : req.password ≠ [] ∧ req.passwordHash ≠ []
  · rw [if_pos both]
    exact ⟨.refusal _, nofun⟩
  rw [if_neg both]
  have written : AccountsCall.WellFormed
      (.createAccount ⟨req.email, req.password, req.passwordHash, true, utf8 "bcrypt"⟩) :=
    ⟨email, oneSecret_of_checks noSecret both, bcrypt_ne_nil⟩
  dsimp only
  split
  · rename_i answer
    split <;> exact ⟨.one_of_decide (by rw [AccountsCall.succeeds, answer]; rfl),
      List.forall_mem_singleton.mpr written⟩
  · rename_i created
    split <;> rename_i answer <;>
      exact ⟨.two_of_decide (by rw [AccountsCall.succeeds, created]; rfl)
        (by rw [AccountsCall.succeeds, answer]; rfl),
        List.forall_mem_cons.mpr ⟨written, List.forall_mem_singleton.mpr trivial⟩⟩

theorem handleUpdateAccount_sound (email : Bytes) (body : Option UpdateAccountRequest) :
    AnswersAsDb db (handleUpdateAccount db email body) ∧
      ∀ c ∈ (handleUpdateAccount db email body).1, c.WellFormed := by
  cases body with
  | none => exact ⟨.refusal _, nofun⟩
  | some req =>
  rw [handleUpdateAccount]
  by_cases noSecret : req.password = [] ∧ req.passwordHash = []
  · rw [if_pos noSecret]
    exact ⟨.refusal _, nofun⟩
  rw [if_neg noSecret]
  by_cases both : req.password ≠ [] ∧ req.passwordHash ≠ []
  · rw [if_pos both]
    exact ⟨.refusal _, nofun⟩
  rw [if_neg both]
  dsimp only
  split <;> rename_i answer <;>
    exact ⟨.one_of_decide (by rw [AccountsCall.succeeds, answer]; rfl),
      List.forall_mem_singleton.mpr ⟨oneSecret_of_checks noSecret both, bcrypt_ne_nil⟩⟩

/-- `handleAddCredential` also adds the credential only to the account that the lookup of the
path's primary email returned. -/
theorem handleAddCredential_sound (primaryEmail : Bytes) (body : Option AddCredentialRequest) :
    AnswersAsDb db (handleAddCredential db primaryEmail body) ∧
      ∀ c ∈ (handleAddCredential db primaryEmail body).1, c.WellFormed ∧
        ∀ req, c = .addCredential req → db.getAccountIdByAddress primaryEmail = .ok req.accountId := by
  cases body with
  | none => exact ⟨.refusal _, nofun⟩
  | some req =>
  rw [handleAddCredential]
  by_cases email : req.email = []
  · rw [if_pos email]
    exact ⟨.refusal _, nofun⟩
  rw [if_neg email]
  by_cases noSecret : req.password = [] ∧ req.passwordHash = []
  · rw [if_pos noSecret]
    exact ⟨.refusal _, nofun⟩
  rw [if_neg noSecret]
  by_cases both : req.password ≠ [] ∧ req.passwordHash ≠ []
  · rw [if_pos both]
    exact ⟨.refusal _, nofun⟩
  rw [if_neg both]
  dsimp only
  split
  · rename_i answer
    split <;> exact ⟨.one_of_decide (by rw [AccountsCall.succeeds, answer]; rfl),
      List.forall_mem_singleton.mpr ⟨trivial, nofun⟩⟩
  · rename_i accountId looked
    split <;> rename_i answer <;> (try split) <;>
      exact ⟨.two_of_decide (by rw [AccountsCall.succeeds, looked]; rfl)
        (by rw [AccountsCall.succeeds, answer]; rfl),
        by simpa [AccountsCall.WellFormed, looked] using
          ⟨email, oneSecret_of_checks noSecret both, bcrypt_ne_nil⟩⟩

theorem handleDeleteAccount_sound (email : Bytes) :
    AnswersAsDb db (handleDeleteAccount db email) := by
  unfold handleDeleteAccount
  split <;> rename_i answer <;> (try split_ifs) <;>
    exact .one_of_decide (by rw [AccountsCall.succeeds, answer]; rfl)

theorem handleRestoreAccount_sound (email : Bytes) :
    AnswersAsDb db (handleRestoreAccount db email) := by
  unfold handleRestoreAccount
  split <;> rename_i answer <;> (try split_ifs) <;>
    exact .one_of_decide (by rw [AccountsCall.succeeds, answer]; rfl)

theorem handleDeleteCredential_sound (email : Bytes) :
    AnswersAsDb db (handleDeleteCredential db email) := by
  unfold handleDeleteCredential
  split <;> rename_i answer <;> (try split_ifs) <;>
    exact .one_of_decide (by rw [AccountsCall.succeeds, answer]; rfl)

end Handlers

/-! ### The handlers together -/

/-- Whatever request reaches them and whatever the database answers, the handlers that store
credentials never ask the database to store a login without an email, with no secret or with
both, or without a hash type; and a credential is added only to the account that the lookup of
the path's primary email returned. -/
theorem account_writes_well_formed (db : AccountsDb) (email : Bytes)
    (create : Option CreateAccountRequest) (update : Option UpdateAccountRequest)
    (add : Option AddCredentialRequest) :
    (∀ c ∈ (handleCreateAccount db create).1, c.WellFormed) ∧
      (∀ c ∈ (handleUpdateAccount db email update).1, c.WellFormed) ∧
      ∀ c ∈ (handleAddCredential db email add).1, c.WellFormed ∧
        ∀ req, c = .addCredential req → db.getAccountIdByAddress email = .ok req.accountId :=
  ⟨(handleCreateAccount_sound db create).2, (handleUpdateAccount_sound db email update).2,
    (handleAddCredential_sound db email add).2⟩

/-- Every account and credential handler, on every request and every answer of the database,
refuses with a 400 what it refuses before asking the database, asks nothing after a call that
failed, and replies with a success exactly when it asked and every call succeeded. -/
theorem account_handlers_answer_as_db (db : AccountsDb) (email : Bytes)
    (create : Option CreateAccountRequest) (update : Option UpdateAccountRequest)
    (add : Option AddCredentialRequest) :
    AnswersAsDb db (handleCreateAccount db create) ∧
      AnswersAsDb db (handleUpdateAccount db email update) ∧
      AnswersAsDb db (handleAddCredential db email add) ∧
      AnswersAsDb db (handleDeleteAccount db email) ∧
      AnswersAsDb db (handleRestoreAccount db email) ∧
      AnswersAsDb db (handleDeleteCredential db email) :=
  ⟨(handleCreateAccount_sound db create).1, (handleUpdateAccount_sound db email update).1,
    (handleAddCredential_sound db email add).1, handleDeleteAccount_sound db email,
    handleRestoreAccount_sound db email, handleDeleteCredential_sound db email⟩

/-! ### Who reaches the routes -/

/-- `strings.SplitN(s, sep, 2)` reads through the first separator. -/
theorem span_ne_append {first rest : Bytes} {sep : UInt8} (h : sep ∉ first) :
    (first ++ sep :: rest).span (· != sep) = (first, sep :: rest) := by
  induction first with
  | nil => simp [List.span_eq_take_drop]
  | cons x first ih =>
    simp only [List.mem_cons, not_or] at h
    have := ih h.2
    simp only [List.span_eq_take_drop, Prod.mk.injEq] at this ⊢
    simp [List.takeWhile_cons, List.dropWhile_cons, Ne.symm h.1, this]

theorem splitN_two_of_ne_nil {s : Bytes} (sep : UInt8) (h : s ≠ []) :
    splitN s sep 2 = splitN.go sep s 2 := by
  cases s with
  | nil => exact absurd rfl h
  | cons x xs => simp only [splitN, List.length_cons]; congr 1; omega

/-- `strings.SplitN(s, sep, 2)` gives two fields exactly when `s` is the first, the separator and
the rest, with no separator in the first. -/
theorem splitN_two_eq {s first rest : Bytes} {sep : UInt8} :
    splitN s sep 2 = [first, rest] ↔ sep ∉ first ∧ s = first ++ sep :: rest := by
  constructor
  · intro h
    cases s with
    | nil => simp [splitN, splitN.go] at h
    | cons x xs =>
      rw [splitN_two_of_ne_nil sep (List.cons_ne_nil x xs), splitN.go, List.span_eq_take_drop] at h
      split at h
      · rename_i field y more hspan
        simp only [Prod.mk.injEq] at hspan
        obtain ⟨rfl, rfl⟩ : field = first ∧ more = rest := by simpa [splitN.go] using h
        have hy : y = sep := by
          simpa [hspan.2] using List.head_dropWhile_not (· != sep) (x :: xs) (by simp [hspan.2])
        subst hy
        refine ⟨fun mem => absurd (List.mem_takeWhile_imp (hspan.1 ▸ mem)) (by simp), ?_⟩
        rw [← List.takeWhile_append_dropWhile (· != y) (x :: xs), hspan.1, hspan.2]
      · simp at h
  · rintro ⟨hsep, rfl⟩
    rw [splitN_two_of_ne_nil sep (by simp), splitN.go, span_ne_append hsep]
    rfl

/-- `authMiddleware` passes a request exactly when its `Authorization` header is a scheme that
lower-cases to `bearer`, one space, and the API key: the key is the whole rest of the header. -/
theorem authMiddleware_next_iff (unicodeLower : Bytes → Bytes) (apiKey : Bytes) (r : Request) :
    authMiddleware unicodeLower apiKey r = .next ↔
      ∃ scheme, 0x20 ∉ scheme ∧ toLower unicodeLower scheme = utf8 "bearer" ∧
        r.header.get (utf8 "Authorization") = scheme ++ 0x20 :: apiKey := by
  unfold authMiddleware
  dsimp only
  constructor
  · intro h
    split at h
    · cases h
    split at h
    · rename_i scheme token hsplit
      obtain ⟨space, header⟩ := splitN_two_eq.mp hsplit
      split_ifs at h with bearer key
      exact ⟨scheme, space, not_not.mp bearer, by rw [header, not_not.mp key]⟩
    · cases h
  · rintro ⟨scheme, space, bearer, header⟩
    simp [header, splitN_two_eq.mpr ⟨space, rfl⟩, bearer]

/-- A server `New` built lets a request through to its routes only with the options' API key,
which is not empty, after a `Bearer` scheme and one space in the `Authorization` header, and only
when `allowedHostsMiddleware` admits it: a header with an empty token never gets through. -/
theorem new_server_admits_only_bearer_key (options : ServerOptions) (s : Server)
    (built : new options = .ok s) (unicodeLower : Bytes → Bytes) (parseIP : Bytes → Option IP)
    (parseCIDR : Bytes → Option IPNet) (r : Request)
    (admitted : s.handler unicodeLower parseIP parseCIDR r = .next) :
    options.apiKey ≠ [] ∧ s.apiKey = options.apiKey ∧
      (∃ scheme, 0x20 ∉ scheme ∧ toLower unicodeLower scheme = utf8 "bearer" ∧
        r.header.get (utf8 "Authorization") = scheme ++ 0x20 :: options.apiKey) ∧
      allowedHostsMiddleware parseIP parseCIDR options.allowedHosts r = .next := by
  unfold new at built
  split_ifs at built with key
  cases built
  cases auth : authMiddleware unicodeLower options.apiKey r with
  | next =>
    simp only [Server.handler, auth] at admitted
    exact ⟨key, rfl, (authMiddleware_next_iff _ _ _).mp auth, admitted⟩
  | error status message => simp [Server.handler, auth] at admitted

/-- A server with the API key `k1` and no allowed-host list. -/
def keyOnlyOptions : ServerOptions :=
  ⟨utf8 "k1", [], false, [], []⟩

/-- A request carrying `Authorization: Bearer k1`. -/
def bearerRequest : Request :=
  ⟨utf8 "203.0.113.9:5555", GoMap.empty.insert (utf8 "Authorization") [utf8 "Bearer k1"]⟩

theorem bearer_request_admitted :
    new keyOnlyOptions = .ok ⟨utf8 "k1", []⟩ ∧
      Server.handler ⟨utf8 "k1", []⟩ id (fun _ => none) (fun _ => none) bearerRequest = .next ∧
      keyOnlyOptions.apiKey ≠ [] ∧ Server.apiKey ⟨utf8 "k1", []⟩ = keyOnlyOptions.apiKey ∧
      (∃ scheme, 0x20 ∉ scheme ∧ toLower id scheme = utf8 "bearer" ∧
        bearerRequest.header.get (utf8 "Authorization") = scheme ++ 0x20 :: keyOnlyOptions.apiKey) ∧
      allowedHostsMiddleware (fun _ => none) (fun _ => none) keyOnlyOptions.allowedHosts
        bearerRequest = .next :=
  have built : new keyOnlyOptions = .ok ⟨utf8 "k1", []⟩ := rfl
  have admitted :
      Server.handler ⟨utf8 "k1", []⟩ id (fun _ => none) (fun _ => none) bearerRequest = .next := by
    decide
  ⟨built, admitted, new_server_admits_only_bearer_key keyOnlyOptions _ built id _ _ _ admitted⟩

/-! ### Routing by method -/

/-- The method each handler of the account and credential routes serves. -/
def AccountRoute.method : AccountRoute → Bytes
  | .listDeletedMessages | .accountExists | .listCredentials | .getAccount | .getCredential =>
    utf8 "GET"
  | .restoreMessages | .restoreAccount | .addCredential => utf8 "POST"
  | .updateAccount => utf8 "PUT"
  | .deleteAccount | .deleteCredential => utf8 "DELETE"

/-- A route that `handleAccountOperations` guards by one method is reached only by it. -/
theorem method_of_guard {method m : Bytes} {r route : AccountRoute}
    (h : (if method ≠ m then none else some r) = some route) (hr : r.method = m) :
    method = route.method := by
  by_cases e : method = m
  · rw [if_neg (not_not.mpr e)] at h
    cases h
    exact e.trans hr.symm
  · rw [if_pos e] at h
    cases h

theorem handleAccountOperations_method {path method : Bytes} {route : AccountRoute}
    (h : handleAccountOperations path method = some route) : method = route.method := by
  unfold handleAccountOperations at h
  by_cases deleted : containsBytes path (utf8 "/messages/deleted")
  · rw [if_pos deleted] at h
    exact method_of_guard h rfl
  rw [if_neg deleted] at h
  by_cases restoreMessages : containsBytes path (utf8 "/messages/restore")
  · rw [if_pos restoreMessages] at h
    exact method_of_guard h rfl
  rw [if_neg restoreMessages] at h
  by_cases restore : (utf8 "/restore").isSuffixOf path
  · rw [if_pos restore] at h
    exact method_of_guard h rfl
  rw [if_neg restore] at h
  by_cases exists_ : (utf8 "/exists").isSuffixOf path
  · rw [if_pos exists_] at h
    exact method_of_guard h rfl
  rw [if_neg exists_] at h
  by_cases credentials : containsBytes path (utf8 "/credentials")
  · rw [if_pos credentials] at h
    split_ifs at h <;> cases h <;> assumption
  rw [if_neg credentials] at h
  split_ifs at h <;> cases h <;> assumption

/-- The routers hand a request, whatever its path, only to a handler of its method: no `GET`
reaches a handler that writes, and every other method reaches only the one handler it names. -/
theorem routes_match_method (path method : Bytes) (route : AccountRoute) :
    (handleAccountOperations path method = some route → method = route.method) ∧
      (handleCredentialOperations method = some route → method = route.method) := by
  refine ⟨handleAccountOperations_method, fun h => ?_⟩
  unfold handleCredentialOperations at h
  split_ifs at h <;> cases h <;> assumption

/-- `POST /admin/accounts/a@example.com/messages/restore` ends in `/restore` but restores
messages, and it is a `POST`. -/
theorem message_restore_routed_by_post :
    handleAccountOperations (utf8 "/admin/accounts/a@example.com/messages/restore") (utf8 "POST") =
        some .restoreMessages ∧
      handleCredentialOperations (utf8 "DELETE") = some .deleteCredential ∧
      utf8 "POST" = AccountRoute.restoreMessages.method ∧
      utf8 "DELETE" = AccountRoute.deleteCredential.method :=
  have routed : handleAccountOperations (utf8 "/admin/accounts/a@example.com/messages/restore")
      (utf8 "POST") = some .restoreMessages := by decide
  have deleted : handleCredentialOperations (utf8 "DELETE") = some .deleteCredential := by decide
  ⟨routed, deleted, (routes_match_method _ _ _).1 routed, (routes_match_method [] _ _).2 deleted⟩

end Sora.AdminApi

import Sora.AdminApi.Middleware

/-
Module: Sora.AdminApi.Accounts
Purpose: The account and credential handlers of package `adminapi` that check a request before
  they call the database: `handleCreateAccount` (with its loop over a `credentials` array),
  `handleUpdateAccount`, `handleAddCredential`, and the error mapping of `handleDeleteAccount`,
  `handleRestoreAccount` and `handleDeleteCredential`; the router `handleAccountOperations`
  with `handleCredentialOperations`; and `New`.
Trusted boundary: the `rdb` functions answer through `AccountsDb`; the JSON decoding of the
  request body is its result (`none` for a decoding error); `extractLastPathSegment` and
  `extractPathParam` are not under src, and the email they extract is a parameter. A reply is
  the status and the fields `writeJSON` encodes, or the message of `writeError` or `http.Error`.
Main exports: JsonValue, Reply, CreateCredentialSpec, CreateAccountRequest, CredentialSpec,
  DbError, AccountsDb, AccountsCall, convertCredentials, handleCreateAccount, handleUpdateAccount,
  handleAddCredential, handleDeleteAccount, handleRestoreAccount, handleDeleteCredential,
  AccountRoute, handleAccountOperations, handleCredentialOperations, ServerOptions, new
-/

namespace Sora.AdminApi

open Sora.Db (Bytes)
open Sora.ManageSieve (utf8 decimal)

/-! ### Replies -/

/-- A value in a JSON reply. -/
inductive JsonValue where
  | str (s : Bytes)
  | int (n : Int)
  | strs (xs : List Bytes)
deriving Repr, DecidableEq

/-- What a handler sends: `writeJSON(w, status, fields)`, `writeError(w, status, message)` (a
JSON body `{"error": message}`), or `http.Error(w, text, status)` (a plain-text body). -/
inductive Reply where
  | json (status : Nat) (fields : List (String × JsonValue))
  | error (status : Nat) (message : Bytes)
  | plain (status : Nat) (text : Bytes)
deriving Repr, DecidableEq

/-- The status a reply carries. -/
def Reply.status : Reply → Nat
  | .json status _ | .error status _ | .plain status _ => status

/-! ### Requests -/

/-- `CreateCredentialSpec`, as the JSON body decodes it (a missing field is empty). -/
structure CreateCredentialSpec where
  email : Bytes
  password : Bytes
  passwordHash : Bytes
  isPrimary : Bool
  hashType : Bytes
deriving Repr, DecidableEq

/-- `CreateAccountRequest`. -/
structure CreateAccountRequest where
  email : Bytes
  password : Bytes
  passwordHash : Bytes
  credentials : List CreateCredentialSpec
deriving Repr, DecidableEq

/-- `UpdateAccountRequest`. -/
structure UpdateAccountRequest where
  password : Bytes
  passwordHash : Bytes
deriving Repr, DecidableEq

/-- `AddCredentialRequest`. -/
structure AddCredentialRequest where
  email : Bytes
  password : Bytes
  passwordHash : Bytes
deriving Repr, DecidableEq

/-! ### The database -/

/-- `db.CredentialSpec`. -/
structure CredentialSpec where
  email : Bytes
  password : Bytes
  passwordHash : Bytes
  isPrimary : Bool
  hashType : Bytes
deriving Repr, DecidableEq

/-- `db.CreateAccountRequest`. -/
structure DbCreateAccountRequest where
  email : Bytes
  password : Bytes
  passwordHash : Bytes
  isPrimary : Bool
  hashType : Bytes
deriving Repr, DecidableEq

/-- `db.UpdateAccountRequest`. -/
structure DbUpdateAccountRequest where
  email : Bytes
  password : Bytes
  passwordHash : Bytes
  hashType : Bytes
deriving Repr, DecidableEq

/-- `db.AddCredentialRequest`. -/
structure DbAddCredentialRequest where
  accountId : Int
  newEmail : Bytes
  newPassword : Bytes
  newPasswordHash : Bytes
  newHashType : Bytes
deriving Repr, DecidableEq

/-- The errors the handlers tell apart with `errors.Is`. -/
inductive DbErrorKind where
  /-- `consts.ErrDBUniqueViolation` -/
  | uniqueViolation
  /-- `consts.ErrUserNotFound` -/
  | userNotFound
  /-- `db.ErrAccountAlreadyDeleted` -/
  | accountAlreadyDeleted
  /-- `db.ErrAccountNotDeleted` -/
  | accountNotDeleted
  /-- `db.ErrCannotDeleteLastCredential` -/
  | cannotDeleteLastCredential
  /-- `db.ErrCannotDeletePrimaryCredential` -/
  | cannotDeletePrimaryCredential
  | other
deriving Repr, DecidableEq

/-- An error of an `rdb` function: what `errors.Is` finds in it, and its `Error()` text. -/
structure DbError where
  kind : DbErrorKind
  text : Bytes
deriving Repr, DecidableEq

/-- What the `rdb` functions the handlers call answer. -/
structure AccountsDb where
  createAccountWithCredentials : List CredentialSpec → Except DbError Int
  createAccount : DbCreateAccountRequest → Except DbError Unit
  getAccountIdByAddress : Bytes → Except DbError Int
  updateAccount : DbUpdateAccountRequest → Except DbError Unit
  addCredential : DbAddCredentialRequest → Except DbError Unit
  deleteAccount : Bytes → Except DbError Unit
  restoreAccount : Bytes → Except DbError Unit
  deleteCredential : Bytes → Except DbError Unit

/-- A call of a handler on `rdb`. -/
inductive AccountsCall where
  /-- `CreateAccountWithCredentialsWithRetry` with `db.CreateAccountWithCredentialsRequest`. -/
  | createAccountWithCredentials (credentials : List CredentialSpec)
  | createAccount (req : DbCreateAccountRequest)
  | getAccountIdByAddress (email : Bytes)
  | updateAccount (req : DbUpdateAccountRequest)
  | addCredential (req : DbAddCredentialRequest)
  | deleteAccount (email : Bytes)
  | restoreAccount (email : Bytes)
  | deleteCredential (email : Bytes)
deriving Repr, DecidableEq

/-! ### Creating an account -/

/-- The message of a check on the credential at index `i` of the array: `fmt.Sprintf("Credential
%d: ...", i+1)`. -/
def credentialError (i : Nat) (problem : String) : Bytes :=
  utf8 "Credential " ++ decimal (i + 1) ++ utf8 (": " ++ problem)

/-- The `for i, cred := range req.Credentials` loop from index `i`: each credential needs an email
and exactly one of a password and a password hash, and its hash type defaults to `bcrypt`. The
converted credentials, or the message of the first failed check. -/
def convertCredentials (i : Nat) : List CreateCredentialSpec → Except Bytes (List CredentialSpec)
  | [] => .ok []
  | cred :: rest =>
    if cred.email = [] then .error (credentialError i "email is required")
    else if cred.password = [] ∧ cred.passwordHash = [] then
      .error (credentialError i "either password or password_hash is required")
    else if cred.password ≠ [] ∧ cred.passwordHash ≠ [] then
      .error (credentialError i "cannot specify both password and password_hash")
    else
      let hashType := if cred.hashType = [] then utf8 "bcrypt" else cred.hashType
      match convertCredentials (i + 1) rest with
      | .ok converted =>
        .ok (⟨cred.email, cred.password, cred.passwordHash, cred.isPrimary, hashType⟩ :: converted)
      | .error message => .error message

/-- `handleCreateAccount`: with a `credentials` array, every credential is checked and the
account is created with all of them; without one, the single email and password or hash make the
account, whose id is then looked up. -/
def handleCreateAccount (db : AccountsDb) : Option CreateAccountRequest → List AccountsCall × Reply
  | none => ([], .error 400 (utf8 "Invalid JSON body"))
  | some req =>
    if req.credentials ≠ [] then
      if req.email ≠ [] ∨ req.password ≠ [] ∨ req.passwordHash ≠ [] then
        ([], .error 400
          (utf8 "Cannot specify email, password, or password_hash when using credentials array"))
      else match convertCredentials 0 req.credentials with
        | .error message => ([], .error 400 message)
        | .ok dbCredentials =>
          let calls := [.createAccountWithCredentials dbCredentials]
          match db.createAccountWithCredentials dbCredentials with
          | .error e =>
            if e.kind = .uniqueViolation then
              (calls, .error 409 (utf8 "One or more email addresses already exist"))
            else (calls, .error 500 (utf8 "Failed to create account with credentials"))
          | .ok accountId =>
            (calls, .json 201 [("account_id", .int accountId),
              ("credentials", .strs (req.credentials.map (·.email))),
              ("message", .str (utf8 "Account created successfully with multiple credentials"))])
    else if req.email = [] then ([], .error 400 (utf8 "Email is required"))
    else if req.password = [] ∧ req.passwordHash = [] then
      ([], .error 400 (utf8 "Either password or password_hash is required"))
    else if req.password ≠ [] ∧ req.passwordHash ≠ [] then
      ([], .error 400 (utf8 "Cannot specify both password and password_hash"))
    else
      let createReq : DbCreateAccountRequest :=
        ⟨req.email, req.password, req.passwordHash, true, utf8 "bcrypt"⟩
      match db.createAccount createReq with
      | .error e =>
        if e.kind = .uniqueViolation then
          ([.createAccount createReq], .error 409 (utf8 "Account already exists"))
        else ([.createAccount createReq], .error 500 (utf8 "Failed to create account"))
      | .ok () =>
        let calls := [.createAccount createReq, .getAccountIdByAddress req.email]
        match db.getAccountIdByAddress req.email with
        | .error _ => (calls, .error 500 (utf8 "Failed to retrieve new account ID"))
        | .ok accountId =>
          (calls, .json 201 [("account_id", .int accountId), ("email", .str req.email),
            ("message", .str (utf8 "Account created successfully"))])

/-! ### Passwords and credentials of an existing account -/

/-- `handleUpdateAccount` for the account `email` of the path. -/
def handleUpdateAccount (db : AccountsDb) (email : Bytes) :
    Option UpdateAccountRequest → List AccountsCall × Reply
  | none => ([], .error 400 (utf8 "Invalid JSON body"))
  | some req =>
    if req.password = [] ∧ req.passwordHash = [] then
      ([], .error 400 (utf8 "Either password or password_hash is required"))
    else if req.password ≠ [] ∧ req.passwordHash ≠ [] then
      ([], .error 400 (utf8 "Cannot specify both password and password_hash"))
    else
      let updateReq : DbUpdateAccountRequest :=
        ⟨email, req.password, req.passwordHash, utf8 "bcrypt"⟩
      match db.updateAccount updateReq with
      | .error _ => ([.updateAccount updateReq], .error 500 (utf8 "Failed to update account"))
      | .ok () =>
        ([.updateAccount updateReq],
          .json 200 [("message", .str (utf8 "Account updated successfully"))])

/-- `handleAddCredential` for the primary email `primaryEmail` of the path. -/
def handleAddCredential (db : AccountsDb) (primaryEmail : Bytes) :
    Option AddCredentialRequest → List AccountsCall × Reply
  | none => ([], .error 400 (utf8 "Invalid JSON body"))
  | some req =>
    if req.email = [] then ([], .error 400 (utf8 "Email is required"))
    else if req.password = [] ∧ req.passwordHash = [] then
      ([], .error 400 (utf8 "Either password or password_hash is required"))
    else if req.password ≠ [] ∧ req.passwordHash ≠ [] then
      ([], .error 400 (utf8 "Cannot specify both password and password_hash"))
    else
      let looked := [.getAccountIdByAddress primaryEmail]
      match db.getAccountIdByAddress primaryEmail with
      | .error e =>
        if e.kind = .userNotFound then
          (looked, .error 404 (utf8 "Account not found for the specified primary email"))
        else (looked, .error 500 (utf8 "Failed to find account"))
      | .ok accountId =>
        let addReq : DbAddCredentialRequest :=
          ⟨accountId, req.email, req.password, req.passwordHash, utf8 "bcrypt"⟩
        let calls := looked ++ [.addCredential addReq]
        match db.addCredential addReq with
        | .error e =>
          if e.kind = .uniqueViolation then
            (calls, .error 409 (utf8 "Credential with this email already exists"))
          else (calls, .error 500 (utf8 "Failed to add credential"))
        | .ok () =>
          (calls, .json 201 [("new_email", .str req.email),
            ("message", .str (utf8 "Credential added successfully"))])

/-! ### Deleting and restoring -/

/-- `handleDeleteAccount` for the account `email` of the path. -/
def handleDeleteAccount (db : AccountsDb) (email : Bytes) : List AccountsCall × Reply :=
  ([.deleteAccount email],
    match db.deleteAccount email with
    | .error e =>
      if e.kind = .userNotFound then .error 404 e.text
      else if e.kind = .accountAlreadyDeleted then .error 400 e.text
      else .error 500 (utf8 "Error deleting account")
    | .ok () => .json 200 [("email", .str email), ("message", .str (utf8
        "Account soft-deleted successfully. It will be permanently removed after the grace period."))])

/-- `handleRestoreAccount` for the account `email` of the path. -/
def handleRestoreAccount (db : AccountsDb) (email : Bytes) : List AccountsCall × Reply :=
  ([.restoreAccount email],
    match db.restoreAccount email with
    | .error e =>
      if e.kind = .userNotFound then .error 404 e.text
      else if e.kind = .accountNotDeleted then .error 400 e.text
      else .error 500 (utf8 "Error restoring account")
    | .ok () =>
      .json 200 [("email", .str email), ("message", .str (utf8 "Account restored successfully."))])

/-- `handleDeleteCredential` for the credential `email` of the path. -/
def handleDeleteCredential (db : AccountsDb) (email : Bytes) : List AccountsCall × Reply :=
  ([.deleteCredential email],
    match db.deleteCredential email with
    | .error e =>
      if e.kind = .userNotFound then .error 404 e.text
      else if e.kind = .cannotDeleteLastCredential ∨ e.kind = .cannotDeletePrimaryCredential then
        .error 400 e.text
      else .error 500 (utf8 "Failed to delete credential")
    | .ok () =>
      .json 200 [("email", .str email), ("message", .str (utf8 "Credential deleted successfully"))])

/-! ### Routing -/

/-- `strings.Contains(s, sub)`: `sub` starts at some offset of `s`. -/
def containsBytes (s sub : Bytes) : Bool :=
  sub.isPrefixOf s || match s with
    | [] => false
    | _ :: rest => containsBytes rest sub

/-- The handler a request under `/admin/accounts/` or `/admin/credentials/` goes to. -/
inductive AccountRoute where
  | listDeletedMessages | restoreMessages | restoreAccount | accountExists | listCredentials
  | addCredential | getAccount | updateAccount | deleteAccount | getCredential | deleteCredential
deriving Repr, DecidableEq

/-- `handleAccountOperations`: message operations first, then the account's sub-operations by
suffix, then credentials, then the account itself by method; `none` for
`http.Error(w, "Method not allowed", 405)`. -/
def handleAccountOperations (path method : Bytes) : Option AccountRoute :=
  if containsBytes path (utf8 "/messages/deleted") then
    if method ≠ utf8 "GET" then none else some .listDeletedMessages
  else if containsBytes path (utf8 "/messages/restore") then
    if method ≠ utf8 "POST" then none else some .restoreMessages
  else if (utf8 "/restore").isSuffixOf path then
    if method ≠ utf8 "POST" then none else some .restoreAccount
  else if (utf8 "/exists").isSuffixOf path then
    if method ≠ utf8 "GET" then none else some .accountExists
  else if containsBytes path (utf8 "/credentials") then
    if method = utf8 "GET" then some .listCredentials
    else if method = utf8 "POST" then some .addCredential
    else none
  else if method = utf8 "GET" then some .getAccount
  else if method = utf8 "PUT" then some .updateAccount
  else if method = utf8 "DELETE" then some .deleteAccount
  else none

/-- `handleCredentialOperations`. -/
def handleCredentialOperations (method : Bytes) : Option AccountRoute :=
  if method = utf8 "GET" then some .getCredential
  else if method = utf8 "DELETE" then some .deleteCredential
  else none

/-! ### The server -/

/-- The fields of `ServerOptions` that `New` checks or the middleware reads. -/
structure ServerOptions where
  apiKey : Bytes
  allowedHosts : List Bytes
  tls : Bool
  tlsCertFile : Bytes
  tlsKeyFile : Bytes

/-- `New`: an API key is required, and with TLS a certificate and a key file. -/
def new (options : ServerOptions) : Except Bytes Server :=
  if options.apiKey = [] then .error (utf8 "API key is required for HTTP API server")
  else if options.tls ∧ (options.tlsCertFile = [] ∨ options.tlsKeyFile = []) then
    .error (utf8 "TLS certificate and key files are required when TLS is enabled")
  else .ok ⟨options.apiKey, options.allowedHosts⟩

end Sora.AdminApi

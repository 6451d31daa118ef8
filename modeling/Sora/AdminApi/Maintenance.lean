import Sora.AdminApi.Accounts
import Sora.UserApi.Messages

/-
Module: Sora.AdminApi.Maintenance
Purpose: The handlers of package `adminapi` that read filters and limits from a request before
  they ask the database: `handleListDeletedMessages` and `handleRestoreMessages` with
  `parseTimeParam`; the health routes `handleHealthOperations` and
  `handleHealthStatusByComponent`, which cut the host name and the component out of the path with
  `strings.Split`; and the handlers whose limits fall back to a default, `handleCacheMetrics`,
  `handleUploaderStatus` and `handleFailedUploads`.
Trusted boundary: `time.Parse` with the layouts `2006-01-02` and `time.RFC3339` is given
  (`TimeParsers`), as is `time.Now().Add(-24 * time.Hour)` (`dayAgo`); the `rdb` functions answer
  through `MaintenanceDb`, with rows of any type; the JSON body of `handleRestoreMessages` is its
  decoding (`none` for an error); `extractPathParam` with `url.QueryUnescape` is not under src, and
  the email it extracts is a parameter. Logging is left out.
Main exports: TimeParsers, parseTimeParam, optionalTime, queryParam, deletedLimit,
  positiveParameter, sinceOrDayAgo, indexOf, splitString,
  handleListDeletedMessages, handleRestoreMessages, HealthRoute, handleHealthOperations,
  hostAndComponent, handleHealthStatusByComponent, handleCacheMetrics, handleUploaderStatus,
  handleFailedUploads
-/

namespace Sora.AdminApi

open Sora.Db (Bytes)
open Sora.ManageSieve (utf8 trimPrefix)
open Sora.UserApi (atoi)

variable {Time Row : Type}

/-! ### Parameters -/

/-- `time.Parse` with the two layouts the handlers use. -/
structure TimeParsers (Time : Type) where
  /-- `time.Parse("2006-01-02", value)` -/
  date : Bytes → Option Time
  /-- `time.Parse(time.RFC3339, value)` -/
  rfc3339 : Bytes → Option Time

/-- `parseTimeParam`: a date first, then an RFC 3339 time. -/
def parseTimeParam (tp : TimeParsers Time) (value : Bytes) : Except Bytes Time :=
  match tp.date value with
  | some t => .ok t
  | none =>
    match tp.rfc3339 value with
    | some t => .ok t
    | none => .error (utf8 "invalid date format (use YYYY-MM-DD or RFC3339)")

/-- A limit that falls back to its default: `if l, err := strconv.Atoi(s); err == nil && l > 0`
keeps `l`, and anything else, an absent parameter included, keeps `fallback`. -/
def positiveParameter (fallback : Int) (str : Bytes) : Int :=
  if str = [] then fallback
  else match atoi str with
    | some l => if l > 0 then l else fallback
    | none => fallback

/-! ### Database -/

/-- `db.ListDeletedMessagesParams`. -/
structure ListDeletedMessagesParams (Time : Type) where
  email : Bytes
  mailboxPath : Option Bytes
  since : Option Time
  /-- `Until` -/
  untilTime : Option Time
  limit : Int

/-- `db.RestoreMessagesParams`. -/
structure RestoreMessagesParams (Time : Type) where
  email : Bytes
  messageIds : List Int
  mailboxPath : Option Bytes
  since : Option Time
  /-- `Until` -/
  untilTime : Option Time

/-- What the `rdb` functions these handlers call answer. -/
structure MaintenanceDb (Time Row : Type) where
  listDeletedMessages : ListDeletedMessagesParams Time → Except DbError (List Row)
  restoreMessages : RestoreMessagesParams Time → Except DbError Int
  getHealthStatus : Bytes → Bytes → Except DbError Row
  getHealthHistory : Bytes → Bytes → Time → Int → Except DbError (List Row)
  getLatestCacheMetrics : Except DbError (List Row)
  getCacheMetrics : Bytes → Time → Int → Except DbError (List Row)
  getUploaderStats : Int → Except DbError Row
  getFailedUploads : Int → Int → Except DbError (List Row)

/-- A call of a handler on `rdb`. -/
inductive MaintenanceCall (Time : Type) where
  | listDeletedMessages (params : ListDeletedMessagesParams Time)
  | restoreMessages (params : RestoreMessagesParams Time)
  | getHealthStatus (hostname component : Bytes)
  | getHealthHistory (hostname component : Bytes) (since : Time) (limit : Int)
  | getLatestCacheMetrics
  | getCacheMetrics (instanceId : Bytes) (since : Time) (limit : Int)
  | getUploaderStats (maxAttempts : Int)
  | getFailedUploads (maxAttempts limit : Int)

/-- A value in a JSON reply of these handlers. -/
inductive Field (Time Row : Type) where
  | str (s : Bytes)
  | int (n : Int)
  | time (t : Time)
  | row (r : Row)
  | rows (rs : List Row)

/-- `writeJSON(w, status, fields)`, `writeJSON(w, status, row)` of a row as the database gave it,
or `writeError(w, status, message)`. -/
inductive MaintenanceReply (Time Row : Type) where
  | json (status : Nat) (fields : List (String × Field Time Row))
  | row (status : Nat) (r : Row)
  | error (status : Nat) (message : Bytes)

/-- The status a reply carries. -/
def MaintenanceReply.status : MaintenanceReply Time Row → Nat
  | .json status _ | .row status _ | .error status _ => status

/-! ### Deleted messages -/

/-- The query parameters of `handleListDeletedMessages` (`Get` gives `""` when one is absent). -/
structure ListDeletedRequest where
  email : Bytes
  mailbox : Bytes
  since : Bytes
  /-- `until` -/
  untilParam : Bytes
  limit : Bytes

/-- A time parameter read with `parseTimeParam`, when there is one; the error names it. Both
handlers parse `since` and `until` this way. -/
def optionalTime (tp : TimeParsers Time) (name : String) : Option Bytes → Except Bytes (Option Time)
  | none => pure none
  | some value =>
    match parseTimeParam tp value with
    | .ok t => pure (some t)
    | .error e => throw (utf8 ("Invalid " ++ name ++ " parameter: ") ++ e)

/-- A query parameter as the handlers read it: `Get` gives `""` for an absent one, and they test
`!= ""` before they use it. -/
def queryParam (value : Bytes) : Option Bytes :=
  if value = [] then none else some value

/-- The `limit` of `handleListDeletedMessages`: 100 when absent, otherwise what `Atoi` reads,
refused when that fails or is negative. -/
def deletedLimit (limitStr : Bytes) : Except Bytes Int :=
  if limitStr = [] then pure 100
  else match atoi limitStr with
    | some limit => if limit < 0 then throw (utf8 "Invalid limit parameter") else pure limit
    | none => throw (utf8 "Invalid limit parameter")

/-- The part of `handleListDeletedMessages` before the call: the parameters it builds from the
query, or the message of its 400. -/
def listDeletedParams (tp : TimeParsers Time) (r : ListDeletedRequest) :
    Except Bytes (ListDeletedMessagesParams Time) := do
  let since ← optionalTime tp "since" (queryParam r.since)
  let untilTime ← optionalTime tp "until" (queryParam r.untilParam)
  let limit ← deletedLimit r.limit
  pure ⟨r.email, queryParam r.mailbox, since, untilTime, limit⟩

/-- `handleListDeletedMessages`. -/
def handleListDeletedMessages (db : MaintenanceDb Time Row) (tp : TimeParsers Time)
    (r : ListDeletedRequest) : List (MaintenanceCall Time) × MaintenanceReply Time Row :=
  match listDeletedParams tp r with
  | .error message => ([], .error 400 message)
  | .ok params =>
    ([.listDeletedMessages params],
      match db.listDeletedMessages params with
      | .error e =>
        if containsBytes e.text (utf8 "account not found") then .error 404 (utf8 "Account not found")
        else .error 500 (utf8 "Error listing deleted messages")
      | .ok messages =>
        .json 200 [("email", .str r.email), ("messages", .rows messages),
          ("total", .int messages.length)])

/-- The JSON body of `handleRestoreMessages`; an absent field is empty or `nil`. -/
structure RestoreBody where
  messageIds : List Int
  mailboxPath : Option Bytes
  since : Option Bytes
  /-- `Until` -/
  untilParam : Option Bytes

/-- The part of `handleRestoreMessages` before the call. -/
def restoreParams (tp : TimeParsers Time) (email : Bytes) :
    Option RestoreBody → Except Bytes (RestoreMessagesParams Time)
  | none => throw (utf8 "Invalid JSON body")
  | some req => do
    let hasFilter := req.messageIds.length > 0 || req.mailboxPath.isSome || req.since.isSome ||
      req.untilParam.isSome
    if !hasFilter then
      throw (utf8 "At least one filter is required (message_ids, mailbox, since, or until)")
    let since ← optionalTime tp "since" req.since
    let untilTime ← optionalTime tp "until" req.untilParam
    pure ⟨email, req.messageIds, req.mailboxPath, since, untilTime⟩

/-- `handleRestoreMessages`. -/
def handleRestoreMessages (db : MaintenanceDb Time Row) (tp : TimeParsers Time) (email : Bytes)
    (body : Option RestoreBody) : List (MaintenanceCall Time) × MaintenanceReply Time Row :=
  match restoreParams tp email body with
  | .error message => ([], .error 400 message)
  | .ok params =>
    ([.restoreMessages params],
      match db.restoreMessages params with
      | .error e =>
        if containsBytes e.text (utf8 "account not found") then .error 404 (utf8 "Account not found")
        else .error 500 (utf8 "Error restoring messages")
      | .ok count =>
        .json 200 [("email", .str email), ("restored", .int count), ("message",
          .str (utf8 "Successfully restored " ++ Sora.ManageSieve.decimal count ++
            utf8 " message(s)"))])

/-- The `since` of the health history and the cache metrics: a day ago when absent, otherwise an
RFC 3339 time (`none` when it does not parse). -/
def sinceOrDayAgo (tp : TimeParsers Time) (dayAgo : Time) (sinceParam : Bytes) : Option Time :=
  if sinceParam = [] then some dayAgo else tp.rfc3339 sinceParam

/-! ### Health routes -/

/-- `strings.Index(s, sep)`: the first offset at which `sep` starts. -/
def indexOf (s sep : Bytes) : Option Nat :=
  if sep.isPrefixOf s then some 0
  else match s with
    | [] => none
    | _ :: rest => (indexOf rest sep).map (· + 1)

/-- `strings.Split(s, sep)` for a separator that is not empty: the fields between the
occurrences of `sep`, each found from where the last one ended. Each round removes at least one
byte, so `s.length + 1` rounds reach the end. -/
def splitString (s sep : Bytes) : List Bytes :=
  go (s.length + 1) s
where
  go : Nat → Bytes → List Bytes
    | 0, s => [s]
    | fuel + 1, s =>
      match indexOf s sep with
      | none => [s]
      | some i => s.take i :: go fuel (s.drop (i + sep.length))

/-- The handler a request under `/admin/health/servers/` goes to. -/
inductive HealthRoute where
  | statusByComponent | statusByHost
deriving Repr, DecidableEq

/-- `handleHealthOperations`; `none` for `http.Error(w, "Method not allowed", 405)`. -/
def handleHealthOperations (path method : Bytes) : Option HealthRoute :=
  if containsBytes path (utf8 "/components/") then
    if method ≠ utf8 "GET" then none else some .statusByComponent
  else if method ≠ utf8 "GET" then none else some .statusByHost

/-- The start of `handleHealthStatusByComponent`: the host name and the component, when the path
after `/admin/health/servers/` splits into exactly two parts around `/components/`. -/
def hostAndComponent (path : Bytes) : Option (Bytes × Bytes) :=
  match splitString (trimPrefix path (utf8 "/admin/health/servers/")) (utf8 "/components/") with
  | [hostname, component] => some (hostname, component)
  | _ => none

/-- What `handleHealthStatusByComponent` reads of a request. -/
structure ComponentRequest where
  path : Bytes
  history : Bytes
  since : Bytes
  limit : Bytes

/-- `handleHealthStatusByComponent`: the status of the component, or with `history=true` its
history since the `since` parameter (a day ago by default), at most `limit` entries (100 by
default). -/
def handleHealthStatusByComponent (db : MaintenanceDb Time Row) (tp : TimeParsers Time)
    (dayAgo : Time) (r : ComponentRequest) :
    List (MaintenanceCall Time) × MaintenanceReply Time Row :=
  match hostAndComponent r.path with
  | none => ([], .error 400 (utf8 "Invalid path format"))
  | some (hostname, component) =>
    if r.history = utf8 "true" then
      match sinceOrDayAgo tp dayAgo r.since with
      | none => ([], .error 400 (utf8 "Invalid since parameter format (use RFC3339)"))
      | some since =>
        let limit := positiveParameter 100 r.limit
        ([.getHealthHistory hostname component since limit],
          match db.getHealthHistory hostname component since limit with
          | .error _ => .error 500 (utf8 "Failed to get health history")
          | .ok history =>
            .json 200 [("hostname", .str hostname), ("component", .str component),
              ("history", .rows history), ("count", .int history.length), ("since", .time since)])
    else
      ([.getHealthStatus hostname component],
        match db.getHealthStatus hostname component with
        | .error _ => .error 404 (utf8 "Health status not found")
        | .ok status => .row 200 status)

/-! ### Limits with a default -/

/-- What `handleCacheMetrics` reads of a request. -/
structure CacheMetricsRequest where
  instanceId : Bytes
  since : Bytes
  limit : Bytes
  latest : Bytes

/-- `handleCacheMetrics`. -/
def handleCacheMetrics (db : MaintenanceDb Time Row) (tp : TimeParsers Time) (dayAgo : Time)
    (r : CacheMetricsRequest) : List (MaintenanceCall Time) × MaintenanceReply Time Row :=
  let limit := positiveParameter 100 r.limit
  if r.latest = utf8 "true" then
    ([.getLatestCacheMetrics],
      match db.getLatestCacheMetrics with
      | .error _ => .error 500 (utf8 "Failed to get latest cache metrics")
      | .ok metrics => .json 200 [("metrics", .rows metrics), ("count", .int metrics.length)])
  else
    match sinceOrDayAgo tp dayAgo r.since with
    | none => ([], .error 400 (utf8 "Invalid since parameter format (use RFC3339)"))
    | some since =>
      ([.getCacheMetrics r.instanceId since limit],
        match db.getCacheMetrics r.instanceId since limit with
        | .error _ => .error 500 (utf8 "Failed to get cache metrics")
        | .ok metrics =>
          .json 200 [("metrics", .rows metrics), ("count", .int metrics.length),
            ("instance_id", .str r.instanceId), ("since", .time since)])

/-- What `handleUploaderStatus` reads of a request. -/
structure UploaderStatusRequest where
  showFailed : Bytes
  maxAttempts : Bytes
  failedLimit : Bytes

/-- `handleUploaderStatus`: the uploader's statistics, and with `show_failed=true` its failed
uploads. -/
def handleUploaderStatus (db : MaintenanceDb Time Row) (r : UploaderStatusRequest) :
    List (MaintenanceCall Time) × MaintenanceReply Time Row :=
  let maxAttempts := positiveParameter 5 r.maxAttempts
  match db.getUploaderStats maxAttempts with
  | .error _ => ([.getUploaderStats maxAttempts], .error 500 (utf8 "Failed to get uploader stats"))
  | .ok stats =>
    if r.showFailed = utf8 "true" then
      let failedLimit := positiveParameter 10 r.failedLimit
      ([.getUploaderStats maxAttempts, .getFailedUploads maxAttempts failedLimit],
        match db.getFailedUploads maxAttempts failedLimit with
        | .error _ => .error 500 (utf8 "Failed to get failed uploads")
        | .ok failed =>
          .json 200 [("stats", .row stats), ("failed_uploads", .rows failed),
            ("failed_count", .int failed.length)])
    else ([.getUploaderStats maxAttempts], .json 200 [("stats", .row stats)])

/-- What `handleFailedUploads` reads of a request. -/
structure FailedUploadsRequest where
  maxAttempts : Bytes
  limit : Bytes

/-- `handleFailedUploads`. -/
def handleFailedUploads (db : MaintenanceDb Time Row) (r : FailedUploadsRequest) :
    List (MaintenanceCall Time) × MaintenanceReply Time Row :=
  let maxAttempts := positiveParameter 5 r.maxAttempts
  let limit := positiveParameter 50 r.limit
  ([.getFailedUploads maxAttempts limit],
    match db.getFailedUploads maxAttempts limit with
    | .error _ => .error 500 (utf8 "Failed to get failed uploads")
    | .ok failed =>
      .json 200 [("failed_uploads", .rows failed), ("count", .int failed.length),
        ("max_attempts", .int maxAttempts), ("limit", .int limit)])

end Sora.AdminApi

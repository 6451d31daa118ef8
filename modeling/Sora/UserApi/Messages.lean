import Sora.ManageSieve.Wire

/-
Module: Sora.UserApi.Messages
Purpose: The message listing and search of package `userapi` (`server/userapi/message_list.go`):
  `handleListMessages` reads the account from the request's context, the mailbox name from the
  path, and the `limit`, `offset` and `unseen` query parameters, then asks the database for one
  page of messages and for the mailbox's total; `handleSearchMessages` needs a `q` parameter and
  asks the database to search. The integer parameters go through `strconv.Atoi`.
Trusted boundary: `getAccountIDFromContext`, `extractPathParam` with `url.QueryUnescape`, and
  `URL.Query().Get` are not under src: their results are the fields of a request. The `rdb`
  functions answer through `MessagesDb`; the messages themselves are of any type. A reply is the
  status and what `writeJSON` encodes, or the message of `writeError`. Logging is left out.
Main exports: atoiDigits, atoi, limitParameter, offsetParameter, ListRequest, SearchRequest, MessagesDb,
  MessagesCall, ListReply, handleListMessages, handleSearchMessages
-/

namespace Sora.UserApi

open Sora.Db (Bytes)
open Sora.ManageSieve (utf8 digitsValue)

/-- What `strconv.Atoi` makes of the bytes after the sign: at least one decimal digit and nothing
else, with a value that fits an `int` of 64 bits. -/
def atoiDigits (negative : Bool) (digits : Bytes) : Option Int :=
  if digits = [] ∨ !digits.all (fun c => 0x30 ≤ c && c ≤ 0x39) then none
  else
    let value : Int := if negative then -(digitsValue digits : Int) else digitsValue digits
    if -2 ^ 63 ≤ value ∧ value < 2 ^ 63 then some value else none

/-- `strconv.Atoi` on a 64-bit platform: an optional sign, then the digits. -/
def atoi : Bytes → Option Int
  | 0x2D :: digits => atoiDigits true digits
  | 0x2B :: digits => atoiDigits false digits
  | digits => atoiDigits false digits

/-- What `handleListMessages` reads of a request. -/
structure ListRequest where
  /-- `getAccountIDFromContext(ctx)`, `none` for an error. -/
  accountId : Option Int
  /-- The unescaped `{name}` of `/user/v1/mailboxes/{name}/messages`, `none` for an error. -/
  mailboxName : Option Bytes
  /-- `query.Get("limit")` -/
  limit : Bytes
  /-- `query.Get("offset")` -/
  offset : Bytes
  /-- `query.Get("unseen")` -/
  unseen : Bytes

/-- What `handleSearchMessages` reads of a request. -/
structure SearchRequest where
  accountId : Option Int
  mailboxName : Option Bytes
  /-- `query.Get("q")` -/
  q : Bytes

/-- What the `rdb` functions the handlers call answer; an error is `true` when it is
`consts.ErrMailboxNotFound`. -/
structure MessagesDb (Message : Type) where
  getMessagesForMailbox : Int → Bytes → Int → Int → Bool → Except Bool (List Message)
  getUnseenCountForMailbox : Int → Bytes → Except Bool Int
  getMessageCountForMailbox : Int → Bytes → Except Bool Int
  searchMessagesInMailbox : Int → Bytes → Bytes → Except Bool (List Message)

/-- A call of a handler on `rdb`. -/
inductive MessagesCall where
  | getMessagesForMailbox (accountId : Int) (mailboxName : Bytes) (limit offset : Int)
      (unseenOnly : Bool)
  | getUnseenCountForMailbox (accountId : Int) (mailboxName : Bytes)
  | getMessageCountForMailbox (accountId : Int) (mailboxName : Bytes)
  | searchMessagesInMailbox (accountId : Int) (mailboxName query : Bytes)
deriving Repr, DecidableEq

/-- What a handler sends: `writeError(w, status, message)`, a `MessageListResponse`, or the
search result's `messages`, `total` and `query`. -/
inductive ListReply (Message : Type) where
  | error (status : Nat) (message : Bytes)
  | list (messages : List Message) (total limit offset : Int)
  | search (messages : List Message) (total : Nat) (query : Bytes)

/-- The `limit` query parameter as `handleListMessages` reads it: 50 when it is absent, refused
(`none`) when `Atoi` fails or gives less than 1, and cut to 1000. -/
def limitParameter (limitStr : Bytes) : Option Int :=
  if limitStr = [] then some 50
  else match atoi limitStr with
    | some parsedLimit =>
      if parsedLimit < 1 then none
      else some (if parsedLimit > 1000 then 1000 else parsedLimit)
    | none => none

/-- The `offset` query parameter: 0 when it is absent, refused when `Atoi` fails or gives a
negative number. -/
def offsetParameter (offsetStr : Bytes) : Option Int :=
  if offsetStr = [] then some 0
  else match atoi offsetStr with
    | some parsedOffset => if parsedOffset < 0 then none else some parsedOffset
    | none => none

/-- `handleListMessages`: one page of the mailbox by the `limit` and `offset` parameters, and the
total from the count the `unseen` flag selects, or the number of messages returned when the count
fails. -/
def handleListMessages {Message : Type} (db : MessagesDb Message) (r : ListRequest) :
    List MessagesCall × ListReply Message :=
  match r.accountId with
  | none => ([], .error 401 (utf8 "Unauthorized"))
  | some accountId =>
  match r.mailboxName with
  | none => ([], .error 400 (utf8 "Invalid mailbox name"))
  | some mailboxName =>
  if mailboxName = [] then ([], .error 400 (utf8 "Invalid mailbox name")) else
  match limitParameter r.limit with
  | none => ([], .error 400 (utf8 "Invalid limit parameter"))
  | some limit =>
  match offsetParameter r.offset with
  | none => ([], .error 400 (utf8 "Invalid offset parameter"))
  | some offset =>
  let unseenOnly := r.unseen == utf8 "true"
  let listed := MessagesCall.getMessagesForMailbox accountId mailboxName limit offset unseenOnly
  match db.getMessagesForMailbox accountId mailboxName limit offset unseenOnly with
  | .error notFound =>
    if notFound then ([listed], .error 404 (utf8 "Mailbox not found"))
    else ([listed], .error 500 (utf8 "Failed to retrieve messages"))
  | .ok messages =>
    let counted := if unseenOnly then MessagesCall.getUnseenCountForMailbox accountId mailboxName
      else MessagesCall.getMessageCountForMailbox accountId mailboxName
    let total := match if unseenOnly then db.getUnseenCountForMailbox accountId mailboxName
        else db.getMessageCountForMailbox accountId mailboxName with
      | .ok total => total
      | .error _ => messages.length
    ([listed, counted], .list messages total limit offset)

/-- `handleSearchMessages`: the `q` parameter is required, and the total is the number of
messages found. -/
def handleSearchMessages {Message : Type} (db : MessagesDb Message) (r : SearchRequest) :
    List MessagesCall × ListReply Message :=
  match r.accountId with
  | none => ([], .error 401 (utf8 "Unauthorized"))
  | some accountId =>
  match r.mailboxName with
  | none => ([], .error 400 (utf8 "Invalid mailbox name"))
  | some mailboxName =>
  if mailboxName = [] then ([], .error 400 (utf8 "Invalid mailbox name")) else
  if r.q = [] then ([], .error 400 (utf8 "Search query parameter \x27q\x27 is required")) else
  let searched := MessagesCall.searchMessagesInMailbox accountId mailboxName r.q
  match db.searchMessagesInMailbox accountId mailboxName r.q with
  | .error notFound =>
    if notFound then ([searched], .error 404 (utf8 "Mailbox not found"))
    else ([searched], .error 500 (utf8 "Failed to search messages"))
  | .ok messages => ([searched], .search messages messages.length r.q)

end Sora.UserApi

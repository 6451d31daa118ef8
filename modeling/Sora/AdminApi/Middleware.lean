import Sora.Go.Map
import Sora.Server.Net

/-
Module: Sora.AdminApi.Middleware
Purpose: The middleware of package `adminapi`'s HTTP server that decides whether a request
  reaches the routes: `authMiddleware`, then `allowedHostsMiddleware` with `getClientIP`, then
  the routes. A request is read through its `RemoteAddr` and its `http.Header`, whose `Get`
  canonicalizes the key as `textproto.CanonicalMIMEHeaderKey` does; the server stores the
  headers it reads under canonical keys.
Trusted boundary: `Sora.Server.Net`: `net.ParseIP`, `net.ParseCIDR` and `(*IPNet).Contains` are
  given; `strings.ToLower` of text that is not ASCII is the parameter `unicodeLower`. What
  `loggingMiddleware` and the routes do, and the JSON encoding of `writeError`'s body, are left
  out.
Main exports: tokenByte, canonicalMIMEHeaderKey, Header, Header.get, Request, getClientIP,
  Response, Server, allowedHostsMiddleware, authMiddleware, Server.handler
-/

namespace Sora.AdminApi

open Sora.Db (Bytes)
open Sora.ManageSieve (utf8 trimSpace split splitN toLower)
open Sora.Server (IP IPNet splitHostPort)

/-! ### Headers -/

/-- A byte `validHeaderFieldByte` accepts: a token character of RFC 7230. -/
def tokenByte (c : UInt8) : Bool :=
  (0x30 ≤ c && c ≤ 0x39) || (0x41 ≤ c && c ≤ 0x5A) || (0x61 ≤ c && c ≤ 0x7A) ||
    [0x21, 0x23, 0x24, 0x25, 0x26, 0x27, 0x2A, 0x2B, 0x2D, 0x2E, 0x5E, 0x5F, 0x60, 0x7C,
      0x7E].contains c

/-- `textproto.CanonicalMIMEHeaderKey`: the first letter and each letter after a hyphen in upper
case, the other letters in lower case; a key with a byte that is not a token byte is left as it
is. -/
def canonicalMIMEHeaderKey (key : Bytes) : Bytes :=
  if key.all tokenByte then go true key else key
where
  go (upper : Bool) : Bytes → Bytes
    | [] => []
    | c :: rest =>
      let c := if upper && 0x61 ≤ c && c ≤ 0x7A then c - 0x20
        else if !upper && 0x41 ≤ c && c ≤ 0x5A then c + 0x20 else c
      c :: go (c == 0x2D) rest

/-- An `http.Header`: the values under each canonical key. -/
abbrev Header := GoMap (List Bytes)

/-- `Header.Get(key)`: the first value under the canonical key, or the empty string. -/
def Header.get (h : Header) (key : Bytes) : Bytes :=
  match h.get? (canonicalMIMEHeaderKey key) with
  | some (value :: _) => value
  | _ => []

/-- An `*http.Request`, by what the middleware reads. -/
structure Request where
  remoteAddr : Bytes
  header : Header

/-- `getClientIP`: the first field of `X-Forwarded-For`, trimmed of white space; else
`X-Real-IP`; else the host of `RemoteAddr`, empty when it does not split. -/
def getClientIP (r : Request) : Bytes :=
  let xff := r.header.get (utf8 "X-Forwarded-For")
  if xff ≠ [] then trimSpace ((split xff 0x2C).headD [])
  else
    let xri := r.header.get (utf8 "X-Real-IP")
    if xri ≠ [] then xri
    else match splitHostPort r.remoteAddr with
      | some (host, _) => host
      | none => []

/-! ### The middleware -/

/-- What a middleware does with a request: pass it to the next handler, or answer it with
`writeError(w, status, message)`. -/
inductive Response where
  | next
  | error (status : Nat) (message : Bytes)
deriving Repr, DecidableEq

/-- The fields of a `Server` the middleware reads. -/
structure Server where
  apiKey : Bytes
  allowedHosts : List Bytes

/-- `allowedHostsMiddleware`: with no allowed hosts every request passes; otherwise the client
IP must equal an allowed host, or lie in an allowed host that parses as a CIDR block. -/
def allowedHostsMiddleware (parseIP : Bytes → Option IP) (parseCIDR : Bytes → Option IPNet)
    (allowedHosts : List Bytes) (r : Request) : Response :=
  if allowedHosts.isEmpty then .next
  else
    let clientIP := getClientIP r
    let allowed := allowedHosts.any fun allowedHost =>
      allowedHost == clientIP ||
        (allowedHost.contains 0x2F &&
          match parseCIDR allowedHost, parseIP clientIP with
          | some cidr, some ip => cidr ip
          | _, _ => false)
    if allowed then .next else .error 403 (utf8 "Host not allowed")

/-- `authMiddleware`: the `Authorization` header must be `Bearer` (in any case), a space, and the
API key. -/
def authMiddleware (unicodeLower : Bytes → Bytes) (apiKey : Bytes) (r : Request) : Response :=
  let authHeader := r.header.get (utf8 "Authorization")
  if authHeader = [] then .error 401 (utf8 "Authorization header required")
  else match splitN authHeader 0x20 2 with
    | [scheme, token] =>
      if toLower unicodeLower scheme ≠ utf8 "bearer" then
        .error 401 (utf8 "Authorization header must be \x27Bearer <token>\x27")
      else if token ≠ apiKey then .error 403 (utf8 "Invalid API key")
      else .next
    | _ => .error 401 (utf8 "Authorization header must be \x27Bearer <token>\x27")

/-- The handler `Server.setupRoutes` returns, up to the routes: `authMiddleware` is outermost,
so it runs first, then `allowedHostsMiddleware`. -/
def Server.handler (s : Server) (unicodeLower : Bytes → Bytes) (parseIP : Bytes → Option IP)
    (parseCIDR : Bytes → Option IPNet) (r : Request) : Response :=
  match authMiddleware unicodeLower s.apiKey r with
  | .next => allowedHostsMiddleware parseIP parseCIDR s.allowedHosts r
  | response => response

end Sora.AdminApi

import Sora.Go.Map
import Sora.Server.Net
import Sora.ManageSieve.Wire

/-
Module: Sora.Pop3.Xclient
Purpose: `handleXCLIENT` and `isFromTrustedProxy` of `server/pop3/xclient.go`. The POP3 `XCLIENT`
  command is accepted only on a connection from a trusted proxy: the proxy IP a PROXY header
  named, or else the connection's own remote address, must be trusted by the limiter. An accepted
  command stores the forwarding parameters, takes the client IP from them when they carry one,
  and takes the proxy IP from their `proxy-source-ip` variable when no proxy IP is set yet.
Trusted boundary: `server.ParsePOP3XCLIENT`, `(*ForwardingParams).ValidateForwarding` and
  `DecrementTTL`, and the limiter's exported `IsTrustedConnection`, are not under src: they enter
  as the fields of `XclientEnv`, as does the `net.Addr` of a `*net.TCPAddr` whose IP is
  `net.ParseIP` of a string. Logging is left out.
Main exports: ForwardingParams, XclientEnv, POP3Session, isFromTrustedProxy, handleXCLIENT,
  handleXCLIENTs
-/

namespace Sora.Pop3

open Sora.Db (Bytes)
open Sora.Server (Addr)
open Sora.ManageSieve (utf8)

/-- The fields of a `*server.ForwardingParams` the handler reads. -/
structure ForwardingParams where
  originatingIP : Bytes
  /-- `Variables` -/
  vars : GoMap Bytes

/-- What the handler calls that is not under src. -/
structure XclientEnv where
  /-- `server.ParsePOP3XCLIENT(args)`: the parameters, or `none` for an error. -/
  parsePOP3XCLIENT : Bytes → Option ForwardingParams
  /-- `ValidateForwarding()` returns no error. -/
  validateForwarding : ForwardingParams → Bool
  /-- `DecrementTTL()`: whether TTL remained, and the parameters it leaves. -/
  decrementTTL : ForwardingParams → Bool × ForwardingParams
  /-- `s.server.limiter`, by its `IsTrustedConnection`, or `none` for a nil limiter. -/
  limiter : Option (Addr → Bool)
  /-- `&net.TCPAddr{IP: net.ParseIP(ip)}` as a `net.Addr`. -/
  proxyAddr : Bytes → Addr

/-- The fields of a `POP3Session` the handler reads and writes. -/
structure POP3Session where
  remoteIP : Bytes
  proxyIP : Bytes
  forwardingParams : Option ForwardingParams
  /-- `(*s.conn).RemoteAddr()` -/
  remoteAddr : Addr

/-- `isFromTrustedProxy`: never without a limiter; the proxy IP when a PROXY header set one,
else the connection's remote address. -/
def isFromTrustedProxy (env : XclientEnv) (s : POP3Session) : Bool :=
  match env.limiter with
  | none => false
  | some isTrustedConnection =>
    if s.proxyIP ≠ [] then isTrustedConnection (env.proxyAddr s.proxyIP)
    else isTrustedConnection s.remoteAddr

/-- `handleXCLIENT(args, writer)`: the session it leaves, and what it writes. -/
def handleXCLIENT (env : XclientEnv) (args : Bytes) (s : POP3Session) : POP3Session × Bytes :=
  if !isFromTrustedProxy env s then (s, utf8 "-ERR Connection not from trusted proxy\r\n") else
  match env.parsePOP3XCLIENT args with
  | none => (s, utf8 "-ERR Invalid XCLIENT parameters\r\n")
  | some params =>
    if !env.validateForwarding params then (s, utf8 "-ERR Invalid forwarding parameters\r\n")
    else match env.decrementTTL params with
      | (false, _) => (s, utf8 "-ERR Proxy TTL expired\r\n")
      | (true, params) =>
        let s := { s with forwardingParams := some params }
        let s := if params.originatingIP ≠ [] then { s with remoteIP := params.originatingIP }
          else s
        let s := match params.vars.get? (utf8 "proxy-source-ip") with
          | some proxySourceIP => if s.proxyIP = [] then { s with proxyIP := proxySourceIP } else s
          | none => s
        (s, utf8 "+OK XCLIENT parameters accepted\r\n")

/-- `XCLIENT` commands one after another on one session, with everything they write. -/
def handleXCLIENTs (env : XclientEnv) : List Bytes → POP3Session → POP3Session × Bytes
  | [], s => (s, [])
  | args :: more, s =>
    let (s', out) := handleXCLIENT env args s
    let (s'', rest) := handleXCLIENTs env more s'
    (s'', out ++ rest)

end Sora.Pop3

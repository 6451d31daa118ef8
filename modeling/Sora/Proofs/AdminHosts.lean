import Sora.AdminApi.Middleware

/-
Module: Sora.Proofs.AdminHosts
Purpose: What decides whether the admin API admits a request from a host. `getClientIP` takes
  the client IP from `X-Forwarded-For` first, then from `X-Real-IP`, and only then from
  `RemoteAddr`, and nothing between the client and the server vouches for those headers: any
  request that names an allowed host in `X-Forwarded-For` passes `allowedHostsMiddleware`,
  whatever address it comes from.
Trusted boundary: `Sora.AdminApi.Middleware`.
Main exports: getClientIP_forwarded, allowedHostsMiddleware_of_listed,
  forwarded_allowed_host_admitted, SameButForwarding
-/

namespace Sora.AdminApi

open Sora.Db (Bytes)
open Sora.ManageSieve (utf8 trimSpace split_of_not_mem)
open Sora.Server (IP IPNet)

/-! ### Reading the client IP -/

/-- The key `X-Forwarded-For` is filed under as it is. -/
theorem canonicalMIMEHeaderKey_forwardedFor :
    canonicalMIMEHeaderKey (utf8 "X-Forwarded-For") = utf8 "X-Forwarded-For" := by
  decide

/-- A header set under its canonical key is what `Get` returns. -/
theorem Header.get_insert_self (h : Header) (key value : Bytes) (rest : List Bytes) :
    Header.get (h.insert (canonicalMIMEHeaderKey key) (value :: rest)) key = value := by
  simp [Header.get, GoMap.get?_insert_self]

/-- A request that names `ip` in `X-Forwarded-For` has `ip` for its client IP. -/
theorem getClientIP_forwarded (r : Request) {ip : Bytes} (named : ip ≠ []) (single : 0x2C ∉ ip)
    (trimmed : trimSpace ip = ip) :
    getClientIP ⟨r.remoteAddr, r.header.insert (utf8 "X-Forwarded-For") [ip]⟩ = ip := by
  have set := Header.get_insert_self r.header (utf8 "X-Forwarded-For") ip []
  rw [canonicalMIMEHeaderKey_forwardedFor] at set
  simp only [getClientIP, set, ne_eq, named, not_false_eq_true, ↓reduceIte,
    split_of_not_mem single, List.headD_cons, trimmed]

/-! ### The host check -/

/-- A client IP equal to an allowed host passes `allowedHostsMiddleware`, whatever network
functions the code is given. -/
theorem allowedHostsMiddleware_of_listed (parseIP : Bytes → Option IP)
    (parseCIDR : Bytes → Option IPNet) {allowedHosts : List Bytes} {r : Request}
    (listed : getClientIP r ∈ allowedHosts) :
    allowedHostsMiddleware parseIP parseCIDR allowedHosts r = .next := by
  simp only [allowedHostsMiddleware, List.any_eq_true]
  split_ifs with empty found
  · rfl
  · rfl
  · exact absurd ⟨_, listed, by simp⟩ found

/-- Every request that names an allowed host in `X-Forwarded-For` passes
`allowedHostsMiddleware`, whatever its `RemoteAddr`. -/
theorem forwarded_allowed_host_admitted (parseIP : Bytes → Option IP)
    (parseCIDR : Bytes → Option IPNet) {allowedHosts : List Bytes} {host : Bytes}
    (listed : host ∈ allowedHosts) (named : host ≠ []) (single : 0x2C ∉ host)
    (trimmed : trimSpace host = host) (r : Request) :
    allowedHostsMiddleware parseIP parseCIDR allowedHosts
      ⟨r.remoteAddr, r.header.insert (utf8 "X-Forwarded-For") [host]⟩ = .next :=
  allowedHostsMiddleware_of_listed parseIP parseCIDR
    (by rw [getClientIP_forwarded r named single trimmed]; exact listed)

/-! ### Two requests that differ in a header -/

/-- Two requests that differ at most in their `X-Forwarded-For` and `X-Real-IP` headers. -/
def SameButForwarding (r r' : Request) : Prop :=
  r.remoteAddr = r'.remoteAddr ∧
    ∀ key, key ≠ utf8 "X-Forwarded-For" → key ≠ utf8 "X-Real-Ip" →
      r.header.get? key = r'.header.get? key

/-- An admin API that admits only 10.0.0.5. -/
def onlyTenZeroZeroFive : List Bytes :=
  [utf8 "10.0.0.5"]

/-- A request from 203.0.113.9, port 5555, with no headers. -/
def outsideRequest : Request :=
  ⟨utf8 "203.0.113.9:5555", GoMap.empty⟩

/-- The same request, naming 10.0.0.5 in `X-Forwarded-For`. -/
def spoofedRequest : Request :=
  ⟨utf8 "203.0.113.9:5555", GoMap.empty.insert (utf8 "X-Forwarded-For") [utf8 "10.0.0.5"]⟩

/-- The request from 203.0.113.9 is refused; the same request naming 10.0.0.5 in
`X-Forwarded-For` is admitted. -/
theorem forwarded_header_overrides_remote_addr (parseIP : Bytes → Option IP)
    (parseCIDR : Bytes → Option IPNet) :
    SameButForwarding outsideRequest spoofedRequest ∧
      allowedHostsMiddleware parseIP parseCIDR onlyTenZeroZeroFive outsideRequest =
        .error 403 (utf8 "Host not allowed") ∧
      allowedHostsMiddleware parseIP parseCIDR onlyTenZeroZeroFive spoofedRequest = .next := by
  refine ⟨⟨rfl, fun key other _ => (GoMap.get?_insert_ne _ _ other).symm⟩, ?_,
    forwarded_allowed_host_admitted parseIP parseCIDR (List.mem_singleton_self _) (by decide)
      (by decide) (by decide) outsideRequest⟩
  have clientIP : getClientIP outsideRequest = utf8 "203.0.113.9" := by decide
  have differs : (utf8 "10.0.0.5" == utf8 "203.0.113.9") = false := by decide
  have noSlash : (utf8 "10.0.0.5").contains 0x2F = false := by decide
  simp only [allowedHostsMiddleware, onlyTenZeroZeroFive, clientIP, List.any_cons, List.any_nil,
    differs, noSlash, Bool.false_and, Bool.false_or, Bool.or_false, List.isEmpty_cons,
    Bool.false_eq_true, ↓reduceIte]

end Sora.AdminApi

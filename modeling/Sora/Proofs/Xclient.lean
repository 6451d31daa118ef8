import Sora.Pop3.Xclient

/-
Module: Sora.Proofs.Xclient
Purpose: What any sequence of POP3 `XCLIENT` commands can do to a session. A command that
  changes the session came from a connection the limiter trusts. A proxy IP, once set, is
  never replaced, so from then on trust is decided on it alone. A
  client IP the session holds after any sequence is its own, or the originating IP of parameters
  that parsed, validated and had TTL left on a server with a limiter.
Trusted boundary: `Sora.Pop3.Xclient`; what `XclientEnv` answers.
Main exports: handleXCLIENT_changed, proxy_ip_fixed_once_set, client_ip_from_accepted_parameters
-/

namespace Sora.Pop3

open Sora.Db (Bytes)
open Sora.ManageSieve (utf8)

variable {env : XclientEnv}

/-! ### One command -/

@[simp] theorem handleXCLIENTs_nil (s : POP3Session) : handleXCLIENTs env [] s = (s, []) := rfl

theorem handleXCLIENTs_cons (args : Bytes) (more : List Bytes) (s : POP3Session) :
    handleXCLIENTs env (args :: more) s =
      ((handleXCLIENTs env more (handleXCLIENT env args s).1).1,
        (handleXCLIENT env args s).2 ++ (handleXCLIENTs env more (handleXCLIENT env args s).1).2) :=
  rfl

/-- An accepted command: the parameters as `DecrementTTL` left them are stored, the client IP
is theirs when they carry one, and the proxy IP is their `proxy-source-ip` when none was set. -/
theorem handleXCLIENT_accepted {s : POP3Session} {args : Bytes} {params params' : ForwardingParams}
    (trusted : isFromTrustedProxy env s = true) (parsed : env.parsePOP3XCLIENT args = some params)
    (valid : env.validateForwarding params = true)
    (ttl : env.decrementTTL params = (true, params')) :
    (handleXCLIENT env args s).1 =
      { s with
        forwardingParams := some params'
        remoteIP := if params'.originatingIP ≠ [] then params'.originatingIP else s.remoteIP
        proxyIP := match params'.vars.get? (utf8 "proxy-source-ip") with
          | some proxySourceIP => if s.proxyIP = [] then proxySourceIP else s.proxyIP
          | none => s.proxyIP } := by
  simp only [handleXCLIENT, trusted, parsed, valid, ttl, Bool.not_true, Bool.false_eq_true,
    ↓reduceIte]
  cases hv : params'.vars.get? (utf8 "proxy-source-ip") <;>
    by_cases ho : params'.originatingIP = [] <;> by_cases hp : s.proxyIP = [] <;> simp [ho, hp]

/-- A command that changed the session was accepted. -/
theorem handleXCLIENT_changed {s : POP3Session} {args : Bytes}
    (changed : (handleXCLIENT env args s).1 ≠ s) :
    isFromTrustedProxy env s = true ∧ ∃ params params', env.parsePOP3XCLIENT args = some params ∧
      env.validateForwarding params = true ∧ env.decrementTTL params = (true, params') := by
  unfold handleXCLIENT at changed
  split at changed
  · exact absurd rfl changed
  rename_i trusted
  refine ⟨by simpa using trusted, ?_⟩
  split at changed
  · exact absurd rfl changed
  rename_i params _
  split at changed
  · exact absurd rfl changed
  rename_i valid
  split at changed
  · exact absurd rfl changed
  rename_i params' ttl
  exact ⟨params, params', ‹_›, by simpa using valid, ttl⟩

@[simp] theorem handleXCLIENT_remoteAddr (args : Bytes) (s : POP3Session) :
    (handleXCLIENT env args s).1.remoteAddr = s.remoteAddr := by
  unfold handleXCLIENT
  split
  · rfl
  split
  · rfl
  split
  · rfl
  split
  · rfl
  dsimp only
  split <;> (try split_ifs) <;> rfl

/-- A set proxy IP survives every command. -/
theorem handleXCLIENT_proxyIP {s : POP3Session} (set : s.proxyIP ≠ []) (args : Bytes) :
    (handleXCLIENT env args s).1.proxyIP = s.proxyIP := by
  by_cases changed : (handleXCLIENT env args s).1 = s
  · rw [changed]
  obtain ⟨trusted, params, params', parsed, valid, ttl⟩ := handleXCLIENT_changed changed
  rw [handleXCLIENT_accepted trusted parsed valid ttl]
  dsimp only
  split <;> simp [set]

/-- Trust is decided by the proxy IP and the remote address alone. -/
theorem isFromTrustedProxy_congr {s s' : POP3Session} (proxy : s'.proxyIP = s.proxyIP)
    (remote : s'.remoteAddr = s.remoteAddr) : isFromTrustedProxy env s' = isFromTrustedProxy env s := by
  simp only [isFromTrustedProxy, proxy, remote]

/-- The client IP after a command is the one before, or the originating IP of parameters that
were accepted. -/
theorem handleXCLIENT_remoteIP (args : Bytes) (s : POP3Session) :
    (handleXCLIENT env args s).1.remoteIP = s.remoteIP ∨
      (∃ isTrusted, env.limiter = some isTrusted) ∧ ∃ params params',
        env.parsePOP3XCLIENT args = some params ∧ env.validateForwarding params = true ∧
        env.decrementTTL params = (true, params') ∧
        (handleXCLIENT env args s).1.remoteIP = params'.originatingIP := by
  by_cases changed : (handleXCLIENT env args s).1 = s
  · exact .inl (by rw [changed])
  obtain ⟨trusted, params, params', parsed, valid, ttl⟩ := handleXCLIENT_changed changed
  have limiter : ∃ isTrusted, env.limiter = some isTrusted := by
    unfold isFromTrustedProxy at trusted
    split at trusted
    · cases trusted
    · exact ⟨_, ‹_›⟩
  rw [handleXCLIENT_accepted trusted parsed valid ttl]
  dsimp only
  split_ifs
  · exact .inr ⟨limiter, params, params', parsed, valid, ttl, rfl⟩
  · exact .inl rfl

/-! ### Any sequence of commands -/

/-- A server whose parser accepts every `XCLIENT` as naming the client 198.51.100.7 and the proxy
192.0.2.9, and whose limiter trusts every address or none. -/
def acceptingEnv (trustsAll : Bool) : XclientEnv where
  parsePOP3XCLIENT _ :=
    some ⟨utf8 "198.51.100.7", GoMap.empty.insert (utf8 "proxy-source-ip") (utf8 "192.0.2.9")⟩
  validateForwarding _ := true
  decrementTTL params := (true, params)
  limiter := some fun _ => trustsAll
  proxyAddr _ := .other []

/-- A connection from 192.0.2.1, with no PROXY header. -/
def directSession : POP3Session :=
  ⟨utf8 "192.0.2.1", [], none, .other (utf8 "192.0.2.1:1100")⟩

/-- Over every sequence of `XCLIENT` commands, a proxy IP once set is never replaced and the
connection's remote address never changes, so whether the session is trusted stays as it was:
from then on the limiter's answer for that proxy IP alone decides every command. -/
theorem proxy_ip_fixed_once_set (env : XclientEnv) (argss : List Bytes) (s : POP3Session)
    (set : s.proxyIP ≠ []) :
    (handleXCLIENTs env argss s).1.proxyIP = s.proxyIP ∧
      isFromTrustedProxy env (handleXCLIENTs env argss s).1 = isFromTrustedProxy env s := by
  induction argss generalizing s with
  | nil => exact ⟨rfl, rfl⟩
  | cons args more ih =>
    have kept := @handleXCLIENT_proxyIP env s set args
    obtain ⟨proxy, trust⟩ := ih (handleXCLIENT env args s).1 (kept ▸ set)
    rw [handleXCLIENTs_cons]
    exact ⟨proxy.trans kept, trust.trans (isFromTrustedProxy_congr kept
      (handleXCLIENT_remoteAddr args s))⟩

/-- Two `XCLIENT` commands on a connection whose PROXY header named 203.0.113.5, to a server that
trusts every address: both are accepted, and neither replaces the proxy IP. -/
theorem proxy_ip_fixed_through_two_xclients :
    utf8 "203.0.113.5" ≠ [] ∧
      (handleXCLIENTs (acceptingEnv true) [utf8 "ADDR=198.51.100.7", utf8 "ADDR=198.51.100.8"]
        { directSession with proxyIP := utf8 "203.0.113.5" }).1.proxyIP = utf8 "203.0.113.5" :=
  ⟨by decide, (proxy_ip_fixed_once_set _ _ { directSession with proxyIP := utf8 "203.0.113.5" }
    (by decide)).1⟩

/-- Over every sequence of `XCLIENT` commands, the client IP a session ends with is the one it
started with, or the originating IP of parameters one of the commands had accepted: parameters
that parsed, validated and had TTL left, on a server with a limiter. -/
theorem client_ip_from_accepted_parameters (env : XclientEnv) (argss : List Bytes)
    (s : POP3Session) :
    (handleXCLIENTs env argss s).1.remoteIP = s.remoteIP ∨
      (∃ isTrusted, env.limiter = some isTrusted) ∧ ∃ args ∈ argss, ∃ params params',
        env.parsePOP3XCLIENT args = some params ∧ env.validateForwarding params = true ∧
        env.decrementTTL params = (true, params') ∧
        (handleXCLIENTs env argss s).1.remoteIP = params'.originatingIP := by
  induction argss generalizing s with
  | nil => exact .inl rfl
  | cons args more ih =>
    rw [handleXCLIENTs_cons]
    rcases ih (handleXCLIENT env args s).1 with same | ⟨limiter, later, mem, rest⟩
    · rw [same]
      rcases handleXCLIENT_remoteIP args s with kept | ⟨limiter, accepted⟩
      · exact .inl kept
      · exact .inr ⟨limiter, args, .head _, accepted⟩
    · exact .inr ⟨limiter, later, .tail _ mem, rest⟩

end Sora.Pop3

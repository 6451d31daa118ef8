import Sora.ManageSieve.Wire

/-
Module: Sora.Server.Net
Purpose: What package `net` gives the connection limiter and the admin API: `net.SplitHostPort`,
  a `net.Addr` as its `String()` and, for a `*net.TCPAddr` or `*net.UDPAddr`, its `IP` field show
  it, and IP networks by their `Contains`.
Trusted boundary: `net.ParseIP`, `net.ParseCIDR` and `(*IPNet).Contains` are functions given to
  the model where the code calls them.
Main exports: IP, IPNet, indexByte, lastIndexByte, splitHostPort, Addr
-/

namespace Sora.Server

open Sora.Db (Bytes)

/-- A `net.IP`, by its bytes. -/
abbrev IP := Bytes

/-- A `*net.IPNet`, by its `Contains`. -/
abbrev IPNet := IP → Bool

/-- `strings.IndexByte`. -/
def indexByte (s : Bytes) (c : UInt8) : Option Nat :=
  s.findIdx? (· == c)

/-- `strings.LastIndexByte`. -/
def lastIndexByte (s : Bytes) (c : UInt8) : Option Nat :=
  (s.reverse.findIdx? (· == c)).map (s.length - 1 - ·)

/-- `net.SplitHostPort`: the host and the port, or `none` for each of its errors. The port starts
after the last colon; a host in brackets ends at the first `]`, which must stand just before
that colon; otherwise the host holds no colon; and no `[` or `]` may stand elsewhere. -/
def splitHostPort (hostport : Bytes) : Option (Bytes × Bytes) := do
  let i ← lastIndexByte hostport 0x3A
  let (host, j, k) ← if hostport.head? = some 0x5B then do
      let e ← indexByte hostport 0x5D
      if e + 1 = i then some ((hostport.take e).drop 1, 1, e + 1) else none
    else
      let host := hostport.take i
      if host.contains 0x3A then none else some (host, 0, 0)
  if (hostport.drop j).contains 0x5B || (hostport.drop k).contains 0x5D then none
  else some (host, hostport.drop (i + 1))

/-- A `net.Addr` as the limiter reads it. -/
inductive Addr where
  /-- A `*net.TCPAddr` or `*net.UDPAddr`: its `IP` field, and what `String()` returns. -/
  | ipPort (ip : IP) (text : Bytes)
  /-- Any other `net.Addr`, by what `String()` returns. -/
  | other (text : Bytes)
deriving Repr, DecidableEq

/-- `remoteAddr.String()`. -/
def Addr.text : Addr → Bytes
  | .ipPort _ text | .other text => text

end Sora.Server

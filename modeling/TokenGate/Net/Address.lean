import TokenGate.Net.Ipv6

/-! # Addresses to listen at

An address of either family, and the place where a service listens: an address and a port. -/

namespace TokenGate

/-- An address of either family. -/
inductive IpAddress where
  | v4 (a : Ipv4)
  | v6 (a : Ipv6)
  deriving DecidableEq, Repr

namespace IpAddress

def ofText? (s : String) : Option IpAddress :=
  ((Ipv4.ofDotted? s).map v4).or ((Ipv6.ofText? s).map v6)

def any : IpAddress := v4 ⟨0⟩

end IpAddress

/-- Where a service listens. -/
structure SocketAddress where
  host : IpAddress
  port : UInt16
  deriving DecidableEq, Repr

namespace SocketAddress

def write (a : SocketAddress) : String :=
  match a.host with
  | .v4 host => s!"{host.write}:{a.port.toNat}"
  | .v6 host => s!"[{host.writeMapped}]:{a.port.toNat}"

end SocketAddress

end TokenGate

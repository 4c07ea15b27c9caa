import TokenGate.Net.Ipv6
import TokenGate.Url.Domain
import TokenGate.Url.Percent

/-! # Hosts of URLs -/

namespace TokenGate

/-- Why a text is no URL. -/
inductive Url.Error where
  | emptyHost
  | invalidDomain
  | invalidPort
  | invalidIpv4
  | invalidIpv6
  | invalidHostCharacter
  | relativeWithoutBase
  deriving DecidableEq, Repr

def Url.Error.message : Url.Error → String
  | emptyHost => "empty host"
  | invalidDomain => "invalid international domain name"
  | invalidPort => "invalid port number"
  | invalidIpv4 => "invalid IPv4 address"
  | invalidIpv6 => "invalid IPv6 address"
  | invalidHostCharacter => "invalid domain character"
  | relativeWithoutBase => "relative URL without a base"

/-- A host. -/
inductive Host where
  | domain (name : String)
  | ipv4 (address : Ipv4)
  | ipv6 (address : Ipv6)
  deriving DecidableEq, Repr

namespace Host

def write : Host → String
  | domain name => name
  | ipv4 address => address.write
  | ipv6 address => "[" ++ address.write ++ "]"

def isLoopback : Host → Bool
  | domain name => Text.equalsIgnoringAsciiCase name "localhost"
  | ipv4 address => address.isLoopback
  | ipv6 address => address.isLoopback

def bracketed (cs : List Char) : Except Url.Error Host :=
  match (cs.getLast?, Ipv6.ofText? (String.ofList cs.dropLast)) with
  | (some ']', some address) => .ok (.ipv6 address)
  | _ => .error .invalidIpv6

/-- The host of a special scheme: a domain name, or an address in any of its notations. -/
def ofText (cs : List Char) : Except Url.Error Host :=
  match cs with
  | '[' :: rest => bracketed rest
  | _ =>
    match Domain.ofOctets? (Percent.decode cs) with
    | none => .error .invalidDomain
    | some name =>
      if name == "" then .error .emptyHost
      else if Ipv4.endsInNumber name then
        match Ipv4.ofHost? name with
        | some address => .ok (.ipv4 address)
        | none => .error .invalidIpv4
      else .ok (.domain name)

/-- Characters that stand in no host of another scheme. -/
def isForbidden (c : Char) : Bool :=
  "\x00\t\n\r #/:<>?@[\\]^|".toList.contains c

/-- The host of another scheme, kept as it is. -/
def ofPlainText (cs : List Char) : Except Url.Error Host :=
  match cs with
  | '[' :: rest => bracketed rest
  | _ =>
    if cs.any isForbidden then .error .invalidHostCharacter
    else .ok (.domain (String.ofList (Percent.encode Percent.controlSet cs)))

end Host

end TokenGate

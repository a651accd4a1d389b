import LayerCull.Url.Domain
import LayerCull.Url.Ipv4
import LayerCull.Url.Ipv6
import LayerCull.Url.Percent

/-!
This module contains the host of a URL, and why a text is no URL.
-/

namespace LayerCull.Url

inductive Fault where
  | emptyHost
  | invalidPort
  | invalidIpv4
  | invalidIpv6
  /-- A name that no host can have. -/
  | invalidName
  /-- A character that no name may hold, for schemes that do not interpret the name. -/
  | invalidCharacter
  /-- There is no scheme. -/
  | relative
  deriving DecidableEq, Repr

def Fault.message : Fault → String
  | .emptyHost => "empty host"
  | .invalidPort => "invalid port number"
  | .invalidIpv4 => "invalid IPv4 address"
  | .invalidIpv6 => "invalid IPv6 address"
  | .invalidName => "invalid international domain name"
  | .invalidCharacter => "invalid domain character"
  | .relative => "relative URL without a base"

inductive Host where
  | name (text : List Char)
  | ipv4 (address : Nat)
  | ipv6 (groups : List Nat)
  deriving DecidableEq, Repr

namespace Host

def render : Host → List Char
  | .name text => text
  | .ipv4 address => Ipv4.render address
  | .ipv6 groups => '[' :: Ipv6.render groups ++ [']']

/-- Reads what stands between brackets. -/
def bracketed (rest : List Char) : Except Fault Host :=
  match rest.getLast?, Ipv6.ofText? rest.dropLast with
  | some ']', some groups => .ok (.ipv6 groups)
  | _, _ => .error .invalidIpv6

/-- Reads a name that stands for a machine. -/
def ofName (text : List Char) : Except Fault Host := do
  let some plain := (Utf8.decode? (Percent.decode text)).bind Domain.toAscii? | .error .invalidName
  if plain.isEmpty then
    .error .emptyHost
  else if Ipv4.endsInNumber plain then
    match Ipv4.ofText? plain with
    | some address => .ok (.ipv4 address)
    | none => .error .invalidIpv4
  else
    .ok (.name plain)

def parse : List Char → Except Fault Host
  | '[' :: rest => bracketed rest
  | text => ofName text

/-- Whether a host that nobody interprets may not hold the character. -/
def breaksOpaque (c : Char) : Bool :=
  "\x00\t\n\r #/:<>?@[\\]^|".toList.contains c

/-- Reads the host of a scheme that leaves its meaning open. -/
def parseOpaque : List Char → Except Fault Host
  | '[' :: rest => bracketed rest
  | text =>
    if text.any breaksOpaque then
      .error .invalidCharacter
    else
      .ok (.name (Percent.encode Percent.control text))

end Host

end LayerCull.Url

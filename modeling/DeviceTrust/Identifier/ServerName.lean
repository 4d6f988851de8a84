import DeviceTrust.Identifier.Ipv6
/-! # Server names

A host, or an IPv6 address in brackets, with an optional port. The host is not checked beyond its
characters, so one with a port may be empty.
-/

namespace DeviceTrust.ServerName

def isHostChar (c : Char) : Bool :=
  c.isAlphanum || c == '-' || c == '.'

/-- A decimal number up to 65535; a plus sign and leading zeros are allowed. -/
def isPort (cs : List Char) : Bool :=
  let digits := match cs with
    | '+' :: rest => rest
    | _ => cs
  !digits.isEmpty && digits.all Char.isDigit && Ipv6.decimalValue digits ≤ 65535

def isPortPart : List Char → Bool
  | [] => true
  | ':' :: port => isPort port
  | _ => false

def isServerName : List Char → Bool
  | [] => false
  | '[' :: rest =>
    match rest.dropWhile (· != ']') with
    | _ :: portPart => Ipv6.isAddress (rest.takeWhile (· != ']')) && isPortPart portPart
    | [] => false
  | name => (name.takeWhile (· != ':')).all isHostChar && isPortPart (name.dropWhile (· != ':'))

end DeviceTrust.ServerName

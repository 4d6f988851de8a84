/-! # IPv6 address literals

An address is eight groups of one to four hexadecimal digits. One `::` may stand for one or more zero
groups, and the last two groups may be written as a dotted IPv4 address.
-/

namespace DeviceTrust.Ipv6

def pieces (separator : Char) : List Char → List (List Char)
  | [] => [[]]
  | c :: rest =>
    if c = separator then [] :: pieces separator rest
    else match pieces separator rest with
      | [] => [[c]]
      | piece :: more => (c :: piece) :: more

def cut : List Char → Option (List Char × List Char)
  | [] => none
  | ':' :: ':' :: rest => some ([], rest)
  | c :: rest => (cut rest).map fun (head, tail) => (c :: head, tail)

def isHexDigit (c : Char) : Bool :=
  c.isDigit || ('a' ≤ c && c ≤ 'f') || ('A' ≤ c && c ≤ 'F')

def isGroup (cs : List Char) : Bool :=
  0 < cs.length && cs.length ≤ 4 && cs.all isHexDigit

def decimalValue (digits : List Char) : Nat :=
  digits.foldl (fun value c => 10 * value + (c.toNat - '0'.toNat)) 0

/-- A number up to 255, without leading zeros. -/
def isOctet (cs : List Char) : Bool :=
  0 < cs.length && cs.length ≤ 3 && cs.all Char.isDigit && decimalValue cs ≤ 255 &&
    (cs.head? != some '0' || cs.length == 1)

def isIpv4 (cs : List Char) : Bool :=
  let octets := pieces '.' cs
  octets.length == 4 && octets.all isOctet

/-- How many groups a sequence of written groups stands for, the last of which may be an IPv4
address. -/
def groupCount : List (List Char) → Option Nat
  | [] => some 0
  | [last] => if isGroup last then some 1 else if isIpv4 last then some 2 else none
  | group :: rest => if isGroup group then (groupCount rest).map (· + 1) else none

/-- The groups on one side of `::`, where nothing at all may be written. -/
def sideGroups (cs : List Char) : List (List Char) :=
  if cs.isEmpty then [] else pieces ':' cs

def isAddress (cs : List Char) : Bool :=
  match cut cs with
  | none => groupCount (pieces ':' cs) == some 8
  | some (head, tail) =>
    (sideGroups head).all isGroup &&
      match groupCount (sideGroups tail) with
      | some count => (sideGroups head).length + count ≤ 7
      | none => false

end DeviceTrust.Ipv6

/-! # Base64

The standard alphabet. Writing pads nothing. Lenient reading takes padding or its absence but no other
symbol, and tells where a text fails; strict reading takes only a text that writing could produce, with
or without the padding that completes its last group of four.
-/

namespace DeviceTrust.Base64

def symbol (value : Nat) : UInt8 :=
  if value < 26 then .ofNat (value + 65)
  else if value < 52 then .ofNat (value + 71)
  else if value < 62 then .ofNat (value - 4)
  else if value = 62 then 43
  else 47

def value? (symbol : UInt8) : Option Nat :=
  let n := symbol.toNat
  if 65 ≤ n ∧ n ≤ 90 then some (n - 65)
  else if 97 ≤ n ∧ n ≤ 122 then some (n - 71)
  else if 48 ≤ n ∧ n ≤ 57 then some (n + 4)
  else if n = 43 then some 62
  else if n = 47 then some 63
  else none

def pad : UInt8 := 61

/-- Three bytes become four symbols. One or two bytes at the end become two or three symbols, the last
of which has zero bits to spare. -/
def encodeBytes : List UInt8 → List UInt8
  | a :: b :: c :: rest =>
    symbol (a.toNat / 4) :: symbol (a.toNat % 4 * 16 + b.toNat / 16) ::
      symbol (b.toNat % 16 * 4 + c.toNat / 64) :: symbol (c.toNat % 64) :: encodeBytes rest
  | [a, b] =>
    [symbol (a.toNat / 4), symbol (a.toNat % 4 * 16 + b.toNat / 16), symbol (b.toNat % 16 * 4)]
  | [a] => [symbol (a.toNat / 4), symbol (a.toNat % 4 * 16)]
  | [] => []

/-- The padding that brings a text up to a multiple of four symbols. -/
def padding (symbols : List UInt8) : List UInt8 :=
  List.replicate ((4 - symbols.length % 4) % 4) pad

def toText (symbols : List UInt8) : String :=
  String.ofList (symbols.map fun symbol => Char.ofNat symbol.toNat)

def encode (bytes : List UInt8) : String := toText (encodeBytes bytes)

inductive Error where
  /-- A symbol outside the alphabet, or padding that is not at the end. -/
  | symbol (byte : UInt8) (offset : Nat)
  /-- A last symbol whose spare bits are not zero. -/
  | lastSymbol (byte : UInt8) (offset : Nat)
  /-- A single symbol is left over, which is less than a byte. -/
  | length (symbols : Nat)
  deriving DecidableEq

def Error.message : Error → String
  | symbol byte offset => "Invalid symbol " ++ toString byte.toNat ++ ", offset " ++ toString offset ++ "."
  | lastSymbol byte offset =>
    "Invalid last symbol " ++ toString byte.toNat ++ ", offset " ++ toString offset ++ "."
  | length symbols => "Invalid input length: " ++ toString symbols

/-- The values of some symbols, or the first symbol that has none. -/
def values (offset : Nat) : List UInt8 → Except Error (List Nat)
  | [] => .ok []
  | byte :: rest =>
    match value? byte with
    | none => .error (.symbol byte offset)
    | some value => (values (offset + 1) rest).map (value :: ·)

def groupBytes : List Nat → List UInt8 × Bool
  | [a, b] => ([.ofNat (a * 4 + b / 16)], b % 16 = 0)
  | [a, b, c] => ([.ofNat (a * 4 + b / 16), .ofNat (b % 16 * 16 + c / 4)], c % 4 = 0)
  | [a, b, c, d] =>
    ([.ofNat (a * 4 + b / 16), .ofNat (b % 16 * 16 + c / 4), .ofNat (c % 4 * 64 + d)], true)
  | _ => ([], true)

/-- The last group: two symbols at least, then padding only. -/
def decodeLast (offset : Nat) (group : List UInt8) : Except Error (List UInt8) := do
  let symbols := group.takeWhile (· != pad)
  let rest := group.dropWhile (· != pad)
  let decoded ← values offset symbols
  if !rest.isEmpty && (symbols.length < 2 || rest.any (· != pad)) then
    throw (.symbol pad (offset + symbols.length))
  if symbols.length = 1 then
    throw (.length (offset + 1))
  let (bytes, spareIsZero) := groupBytes decoded
  if !spareIsZero then
    throw (.lastSymbol ((symbols.getLast?).getD pad) (offset + symbols.length - 1))
  return bytes

def decodeBytes (offset : Nat) : List UInt8 → Except Error (List UInt8)
  | a :: b :: c :: d :: e :: rest => do
    let decoded ← values offset [a, b, c, d]
    let bytes ← decodeBytes (offset + 4) (e :: rest)
    return (groupBytes decoded).1 ++ bytes
  | group => decodeLast offset group

def decode (text : String) : Except Error (List UInt8) :=
  decodeBytes 0 text.toUTF8.data.toList

/-- Strict reading: the text is one of the two written forms of its bytes. -/
def decodeStrict (text : String) : Option (List UInt8) :=
  match decode text with
  | .ok bytes =>
    let symbols := encodeBytes bytes
    if text = toText symbols ∨ text = toText (symbols ++ padding symbols) then some bytes else none
  | .error _ => none

/-- How many bytes a text of that many bytes is taken to hold before it is read. -/
def estimate (length : Nat) : Nat := length / 4 * 3 + if length % 4 = 0 then 0 else 3

end DeviceTrust.Base64

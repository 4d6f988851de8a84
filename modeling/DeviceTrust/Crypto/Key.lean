import DeviceTrust.Crypto.Ed25519
import DeviceTrust.Text.Base64
import DeviceTrust.Json.Codec
/-! # Keys

Identity keys of devices and private signing keys, with their base64 texts. A key has 32 bytes, and a
text is refused by its length before it is read.
-/

namespace DeviceTrust

inductive KeyError where
  | identityLength (bytes : Nat)
  | privateLength (bytes : Nat)
  | identityText (error : Base64.Error)
  | privateText
  deriving DecidableEq

def KeyError.message : KeyError → String
  | identityLength bytes =>
    "Failed to decode Curve25519 key from Base64: Invalid number of bytes for Curve25519, " ++
      "expected 32, got " ++ toString bytes ++ "."
  | privateLength bytes =>
    "Failed to decode Ed25519 key from Base64: Invalid number of bytes for Ed25519, " ++
      "expected 32, got " ++ toString bytes ++ "."
  | identityText error => "Failed to decode a public key from Base64: " ++ error.message
  | privateText => "Failed to decode a private key from Base64: invalid Base64 encoding"

/-- A text that could hold 32 bytes, with or without padding. -/
def hasKeyLength (text : String) : Bool := text.utf8ByteSize == 43 || text.utf8ByteSize == 44

structure IdentityKey where
  bytes : List UInt8
  length_eq : bytes.length = 32
  deriving DecidableEq

namespace IdentityKey

def ofBytes? (bytes : List UInt8) : Option IdentityKey :=
  if h : bytes.length = 32 then some ⟨bytes, h⟩ else none

@[simp] theorem ofBytes?_bytes (key : IdentityKey) : ofBytes? key.bytes = some key := by
  simp [ofBytes?, key.length_eq]

def text (key : IdentityKey) : String := Base64.encode key.bytes

def ofText (text : String) : Except KeyError IdentityKey :=
  if hasKeyLength text then
    match Base64.decode text with
    | .error error => .error (.identityText error)
    | .ok bytes =>
      match ofBytes? bytes with
      | some key => .ok key
      | none => .error (.identityLength bytes.length)
  else .error (.identityLength (Base64.estimate text.utf8ByteSize))

def encodeByte (byte : UInt8) : Json := Codec.encodeNat byte.toNat

def decodeByte (value : Json) : Option UInt8 := (Codec.decodeBelow 256 value).map UInt8.ofNat

theorem decodeByte_encodeByte (byte : UInt8) : decodeByte (encodeByte byte) = some byte := by
  simp [decodeByte, encodeByte, Codec.decodeBelow_encodeNat (UInt8.toNat_lt byte)]

/-- In a record a key is the list of its 32 bytes. -/
instance : Codec IdentityKey where
  encode key := .list (key.bytes.map encodeByte)
  decode
    | .list items => (items.mapM decodeByte).bind ofBytes?
    | _ => none

theorem mapM_decodeByte (bytes : List UInt8) : (bytes.map encodeByte).mapM decodeByte = some bytes := by
  induction bytes with
  | nil => rfl
  | cons byte rest ih => simp only [List.map_cons, List.mapM_cons, decodeByte_encodeByte, ih]; rfl

instance : Codec.Faithful IdentityKey where
  decode_encode key := by
    show ((key.bytes.map encodeByte).mapM decodeByte).bind ofBytes? = some key
    rw [mapM_decodeByte]
    exact ofBytes?_bytes key

end IdentityKey

structure SigningKey where
  bytes : List UInt8
  deriving DecidableEq

namespace SigningKey

def ofText? (text : String) : Option SigningKey :=
  match Base64.decode text with
  | .ok bytes => if bytes.length = 32 then some ⟨bytes⟩ else none
  | .error _ => none

def ofPrivateText (text : String) : Except KeyError SigningKey :=
  if hasKeyLength text then
    match Base64.decodeStrict text with
    | some seed => if seed.length = 32 then .ok ⟨Ed25519.publicKey seed⟩ else .error .privateText
    | none => .error .privateText
  else .error (.privateLength (Base64.estimate text.utf8ByteSize))

end SigningKey

end DeviceTrust

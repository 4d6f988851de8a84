import DeviceTrust.Json.Codec
import Std.Data.TreeMap
/-! # Room ids

Any text that starts with `!`. Ids are ordered as their texts.
-/

namespace DeviceTrust

def isRoomId : List Char → Bool
  | '!' :: _ => true
  | _ => false

structure RoomId where
  text : String
  valid : isRoomId text.toList = true
  deriving DecidableEq

namespace RoomId

def ofString? (text : String) : Option RoomId :=
  if h : isRoomId text.toList = true then some ⟨text, h⟩ else none

@[simp] theorem ofString?_text (room : RoomId) : ofString? room.text = some room := by
  simp [ofString?, room.valid]

theorem eq_of_text_eq {a b : RoomId} (h : a.text = b.text) : a = b := by
  cases a; cases b; simp_all

instance : Ord RoomId := ⟨compareOn text⟩

instance : Std.TransOrd RoomId := inferInstanceAs (Std.TransCmp (compareOn text))

instance : Std.LawfulEqOrd RoomId where
  eq_of_compare h := eq_of_text_eq (Std.compare_eq_iff_eq.1 h)

instance : Codec RoomId where
  encode room := .text room.text
  decode value := value.text?.bind ofString?

instance : Codec.Faithful RoomId := ⟨fun room => ofString?_text room⟩

end RoomId

end DeviceTrust

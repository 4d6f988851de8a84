import DeviceTrust.Identifier.ServerName
import DeviceTrust.Json.Codec
import Std.Data.TreeMap
/-! # User ids

`@` localpart `:` server name. The localpart ends at the first colon and is made of visible ASCII.
Ids are ordered as their texts.
-/

namespace DeviceTrust

def isLocalpartChar (c : Char) : Bool := '!' ≤ c && c ≤ '~'

def isUserId : List Char → Bool
  | '@' :: rest =>
    let localpart := rest.takeWhile (· != ':')
    match rest.dropWhile (· != ':') with
    | _ :: server =>
      !localpart.isEmpty && localpart.all isLocalpartChar && ServerName.isServerName server
    | [] => false
  | _ => false

structure UserId where
  text : String
  valid : isUserId text.toList = true
  deriving DecidableEq

namespace UserId

def ofString? (text : String) : Option UserId :=
  if h : isUserId text.toList = true then some ⟨text, h⟩ else none

@[simp] theorem ofString?_text (user : UserId) : ofString? user.text = some user := by
  simp [ofString?, user.valid]

theorem eq_of_text_eq {a b : UserId} (h : a.text = b.text) : a = b := by
  cases a; cases b; simp_all

instance : Ord UserId := ⟨compareOn text⟩

instance : Std.TransOrd UserId := inferInstanceAs (Std.TransCmp (compareOn text))

instance : Std.LawfulEqOrd UserId where
  eq_of_compare h := eq_of_text_eq (Std.compare_eq_iff_eq.1 h)

instance : Codec UserId where
  encode user := .text user.text
  decode value := value.text?.bind ofString?

instance : Codec.Faithful UserId := ⟨fun user => ofString?_text user⟩

end UserId

end DeviceTrust

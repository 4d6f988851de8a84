import DeviceTrust.Identifier.ServerName
import Std.Data.TreeMap
/-! # Event ids

A text that starts with `$`. One that contains a colon has a server name after its first colon.
Ids are ordered as their texts.
-/

namespace DeviceTrust

def isEventId : List Char → Bool
  | '$' :: rest =>
    match rest.dropWhile (· != ':') with
    | _ :: server => ServerName.isServerName server
    | [] => true
  | _ => false

structure EventId where
  text : String
  valid : isEventId text.toList = true
  deriving DecidableEq

namespace EventId

def ofString? (text : String) : Option EventId :=
  if h : isEventId text.toList = true then some ⟨text, h⟩ else none

@[simp] theorem ofString?_text (event : EventId) : ofString? event.text = some event := by
  simp [ofString?, event.valid]

theorem eq_of_text_eq {a b : EventId} (h : a.text = b.text) : a = b := by
  cases a; cases b; simp_all

instance : Ord EventId := ⟨compareOn text⟩

instance : Std.TransOrd EventId := inferInstanceAs (Std.TransCmp (compareOn text))

instance : Std.LawfulEqOrd EventId where
  eq_of_compare h := eq_of_text_eq (Std.compare_eq_iff_eq.1 h)

end EventId

end DeviceTrust

import CivilTime.Failure
import CivilTime.Limits

/-!
# Sequences

Texts, lists and mappings have a length and can be gone through : a text character by character, a
list item by item, a mapping key by key. Texts and lists can be indexed from both ends and repeated;
mappings can be asked for the value of a key.
-/

namespace CivilTime.Value

/-- The number of characters, items or entries. -/
def length : Value → Attempt Nat
  | .str s => .ok s.length
  | .list items => .ok items.length
  | .dict entries => .ok entries.length
  | v => .error (.type (.noLength v.typeName))

/-- The items in their order, if the value has any. -/
def items? : Value → Option (List Value)
  | .str s => some (s.toList.map fun c => .str (String.ofList [c]))
  | .list items => some items
  | .dict entries => some (entries.map fun e => .str e.1)
  | _ => none

/-- The items in their order. -/
def items (v : Value) : Attempt (List Value) :=
  match v.items? with
  | some items => .ok items
  | none => .error (.type (.notIterable v.typeName))

/-- The value under a key. -/
def entry (v : Value) (key : String) : Attempt Value :=
  match v with
  | .dict entries =>
    match lookup key entries with
    | some w => .ok w
    | none => .error (.key (.str key))
  | .list _ => .error (.type (.listIndex "str"))
  | .str _ => .error (.type (.textIndex "str"))
  | v => .error (.type (.notSubscriptable v.typeName))

/-! ## Indexing and repeating -/

/-- Indices and lengths lie below this number, and indices not below its negative. -/
def indexRange : Nat := Nat.pow 2 63

/-- Whether an index is in the range of indices. -/
def isIndex (i : Int) : Bool :=
  -(indexRange : Int) ≤ i && i < indexRange

/-- The item at an index; a negative one counts from the end. -/
def itemAt? {α : Type} (items : List α) (i : Int) : Option α :=
  let place := if i < 0 then i + items.length else i
  if place < 0 then none else items[place.toNat]?

/-- The items `count` times over, if the memory has room for so many; a negative count gives
none. -/
def repeated {α : Type} (limits : Limits) (items : List α) (count : Int) : Attempt (List α) :=
  if items = [] then .ok []
  else if limits.items < items.length * count.toNat then .error .memory
  else .ok (List.replicate count.toNat items).flatten

/-- The characters of a text `count` times over. A length that is no index is refused as such. -/
def repeatedText (limits : Limits) (text : List Char) (count : Int) : Attempt (List Char) :=
  if indexRange ≤ text.length * count.toNat then .error (.range .repeatedText)
  else repeated limits text count

/-- How a text or list is repeated; other values cannot be. -/
def repetition? (limits : Limits) : Value → Option (Int → Attempt Value)
  | .str s => some fun count =>
    (repeatedText limits s.toList count).map fun cs => .str (String.ofList cs)
  | .list items => some fun count => (repeated limits items count).map .list
  | _ => none

end CivilTime.Value

import CivilTime.Value

/-!
# Equality of values

Numbers of all sorts are equal if they stand at the same place, so one, true and 1.0 are equal; text
equals text, lists are compared item by item, and mappings by their keys without regard to order.
Fields are equal if they are of the very same kind and wrap equal values (`Value.same`).
Not-a-number stands at no place, but it is one value like any other and equal to itself.

A set keeps one value of each class of equal values. Only values without lists and mappings inside
can be members (`Value.unhashable?` gives the type that stands in the way), and `hashKey` is what
the hash of a value depends on : equal values have equal keys, and a field's key ignores its kind.
-/

namespace CivilTime

namespace Value

mutual

/-- Equality of values. -/
def same : Value → Value → Bool
  | .null, .null => true
  | .float .nan, .float .nan => true
  | .str s, .str t => s = t
  | .list xs, .list ys => sameItems xs ys
  | .dict xs, .dict ys => xs.length = ys.length && sameEntries xs ys
  | .field k v, .field l w => k.same l && v.same w
  | v, w => match v.number?, w.number? with
    | some a, some b => a.same b
    | _, _ => false

/-- Equality of lists, item by item. -/
def sameItems : List Value → List Value → Bool
  | [], [] => true
  | v :: vs, w :: ws => v.same w && sameItems vs ws
  | _, _ => false

/-- Whether every entry has a counterpart under the same key. -/
def sameEntries : List (String × Value) → List (String × Value) → Bool
  | [], _ => true
  | (key, v) :: rest, ys =>
    (match lookup key ys with
      | some w => v.same w
      | none => false) && sameEntries rest ys

end

/-- The type inside a value that keeps it from being a member of a set. -/
def unhashable? : Value → Option String
  | .list _ => some "list"
  | .dict _ => some "dict"
  | .field _ value => value.unhashable?
  | _ => none

end Value

/-! ## Hash keys -/

/-- The modulus of the hash of numbers, a Mersenne prime. -/
def hashModulus : Nat := Nat.pow 2 61 - 1

/-- What a hash depends on. -/
inductive HashKey where
  | null
  | number (residue : Int)
  | nan
  | text (s : String)
  | tuple (keys : List HashKey)

namespace HashKey

mutual

/-- Equality of keys. -/
def same : HashKey → HashKey → Bool
  | .null, .null => true
  | .nan, .nan => true
  | .number m, .number n => m = n
  | .text s, .text t => s = t
  | .tuple xs, .tuple ys => sameAll xs ys
  | _, _ => false

/-- Equality of sequences of keys. -/
def sameAll : List HashKey → List HashKey → Bool
  | [], [] => true
  | x :: xs, y :: ys => x.same y && sameAll xs ys
  | _, _ => false

end

/-- The residue of an integer, with its sign; minus one is no residue and gives way to minus two. -/
def ofInt (n : Int) : HashKey :=
  let residue := n.tmod hashModulus
  .number (if residue = -1 then -2 else residue)

/-- The residue that stands for infinity. -/
def infinityResidue : Int := 314159

/-- The key of a text. The hash of the empty text is zero. -/
def ofText (s : String) : HashKey :=
  if s = "" then .number 0 else .text s

/-- The residue of a number of units. One unit is `2 ^ -1074`, which is congruent to `2 ^ 24`. -/
def ofUnits (units : Int) : HashKey :=
  ofInt (units * Nat.pow 2 24)

end HashKey

namespace Value

/-- What the hash of a value depends on; none if the value has no hash. -/
def hashKey : Value → Option HashKey
  | .null => some .null
  | .bool b => some (.ofInt (if b then 1 else 0))
  | .int n => some (.ofInt n)
  | .float .nan => some .nan
  | .float (.infinity negative) =>
    some (.ofInt (if negative then -HashKey.infinityResidue else HashKey.infinityResidue))
  | .float x => some (.ofUnits x.units)
  | .str s => some (.ofText s)
  | .field _ value => value.hashKey.map fun key => .tuple [key]
  | _ => none

end Value

/-- The members of a set made of a sequence : the first of each class of values that `same` takes to
be equal. -/
def distinctBy {α : Type} (same : α → α → Bool) (items : List α) : List α :=
  items.foldl (fun members x => if members.any (same x) then members else members ++ [x]) []

end CivilTime

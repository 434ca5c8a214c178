import CivilTime.Number.Binary64

/-!
# Values and kinds of fields

A field of a date or a time counts something, and its kind says what : the six calendar units have
kinds of their own (`CalendarUnit`), further kinds may be declared with a name and a bound, and all
of them descend from one root that declares neither. Two declarations never give the same kind,
even with equal name and bound, so a declared kind carries the serial number of its declaration.

Values are of any type : what is put into a field is checked when it is put there and not before.
`Value.typeName` is the name of a value's type as messages spell it, and the type of a field is its
kind.

A mapping is the list of its entries in order. `insertEntry` assigns a value to a key, and
`lookup_insertEntry` says what is found afterwards.
-/

namespace CivilTime

/-- The units of the calendar and the clock that fields count. -/
inductive CalendarUnit where
  | month
  | weekDay
  | day
  | hour
  | minute
  | second
  deriving DecidableEq, Repr

namespace CalendarUnit

/-- All units, in the order of their declaration. -/
def all : List CalendarUnit :=
  [.month, .weekDay, .day, .hour, .minute, .second]

/-- The name of a unit's kind. -/
def name : CalendarUnit → String
  | .month => "Month"
  | .weekDay => "WeekDay"
  | .day => "Day"
  | .hour => "Hour"
  | .minute => "Minute"
  | .second => "Second"

/-- The largest count of a unit. -/
def max : CalendarUnit → Int
  | .month => 12
  | .weekDay => 7
  | .day => 32
  | .hour => 24
  | .minute => 60
  | .second => 60

end CalendarUnit

mutual

/-- What a field counts. -/
inductive Kind where
  /-- The root of all kinds, without a name and a bound of its own. -/
  | root
  /-- The kind of a calendar unit. -/
  | standard (unit : CalendarUnit)
  /-- A kind declared under a name, with a bound, as a descendant of another kind. -/
  | declared (serial : Nat) (name : String) (max : Value) (parent : Kind)

/-- A value of any type. -/
inductive Value where
  | null
  | bool (b : Bool)
  | int (n : Int)
  | float (x : Binary64)
  | str (s : String)
  | list (items : List Value)
  /-- A mapping, in the order of its entries. -/
  | dict (entries : List (String × Value))
  /-- A field of some kind and the value it wraps. -/
  | field (kind : Kind) (value : Value)

end

instance : Inhabited Value := ⟨.null⟩

instance : Inhabited Kind := ⟨.root⟩

namespace Kind

/-- The name of the type of a kind's fields. -/
def typeName : Kind → String
  | .root => "BoundedField"
  | .standard unit => unit.name
  | .declared _ name _ _ => name

/-- The name a kind declares. -/
def name? : Kind → Option String
  | .root => none
  | .standard unit => some unit.name
  | .declared _ name _ _ => some name

/-- The bound a kind declares. -/
def max? : Kind → Option Value
  | .root => none
  | .standard unit => some (.int unit.max)
  | .declared _ _ max _ => some max

/-- Whether two kinds are the same one. Declared kinds are told apart by their serial numbers. -/
def same : Kind → Kind → Bool
  | .root, .root => true
  | .standard u, .standard v => u = v
  | .declared m _ _ _, .declared n _ _ _ => m = n
  | _, _ => false

@[simp] theorem same_self (k : Kind) : k.same k = true := by
  cases k <;> simp [same]

theorem same_comm (k l : Kind) : k.same l = l.same k := by
  cases k <;> cases l <;> simp [same, eq_comm]

theorem same_trans {k l m : Kind} (hkl : k.same l = true) (hlm : l.same m = true) :
    k.same m = true := by
  cases k <;> cases l <;> cases m <;> simp_all [same]

@[simp] theorem same_standard (k : Kind) (u : CalendarUnit) :
    k.same (.standard u) = true ↔ k = .standard u := by
  cases k <;> simp [same]

end Kind

namespace Value

/-- The name of a value's type. -/
def typeName : Value → String
  | .null => "NoneType"
  | .bool _ => "bool"
  | .int _ => "int"
  | .float _ => "float"
  | .str _ => "str"
  | .list _ => "list"
  | .dict _ => "dict"
  | .field kind _ => kind.typeName

/-- A value that counts as a whole number; the truth values count as one and zero. -/
def integer? : Value → Option Int
  | .bool b => some (if b then 1 else 0)
  | .int n => some n
  | _ => none

/-- A value that counts as a number. -/
def number? : Value → Option Number
  | .bool b => some (.int (if b then 1 else 0))
  | .int n => some (.int n)
  | .float x => some (.float x)
  | _ => none

end Value

/-! ## Mappings -/

section Mappings

variable {α : Type}

/-- What is found under a key, if the key is there. -/
def lookup (key : String) (entries : List (String × α)) : Option α :=
  (entries.find? fun e => e.1 = key).map Prod.snd

/-- Entries of a mapping, where a key that is there already keeps its place and takes the new
value. -/
def insertEntry (entries : List (String × α)) (key : String) (value : α) : List (String × α) :=
  if entries.any fun e => e.1 = key then
    entries.map fun e => if e.1 = key then (key, value) else e
  else
    entries ++ [(key, value)]

/-- The mapping that a sequence of entries makes. -/
def mappingOf (entries : List (String × α)) : List (String × α) :=
  entries.foldl (fun acc e => insertEntry acc e.1 e.2) []

@[simp] theorem lookup_nil (key : String) : lookup key ([] : List (String × α)) = none := rfl

theorem lookup_cons (key : String) (e : String × α) (entries : List (String × α)) :
    lookup key (e :: entries) = if e.1 = key then some e.2 else lookup key entries := by
  by_cases h : e.1 = key <;> simp [lookup, h]

theorem lookup_eq_none_iff {key : String} {entries : List (String × α)} :
    lookup key entries = none ↔ ∀ e ∈ entries, e.1 ≠ key := by
  simp only [lookup, Option.map_eq_none_iff, List.find?_eq_none, decide_eq_true_eq, ne_eq]

theorem lookup_append_singleton (key : String) (entries : List (String × α)) (e : String × α) :
    lookup key (entries ++ [e]) =
      (lookup key entries).or (if e.1 = key then some e.2 else none) := by
  induction entries with
  | nil => simp [lookup_cons]
  | cons d entries ih =>
    rw [List.cons_append, lookup_cons, lookup_cons, ih]
    by_cases h : d.1 = key <;> simp [h]

/-- A new value in the place of an old one leaves the other keys alone. -/
theorem lookup_map_of_ne {key other : String} (h : key ≠ other) (value : α)
    (entries : List (String × α)) :
    lookup other (entries.map fun e => if e.1 = key then (key, value) else e) =
      lookup other entries := by
  induction entries with
  | nil => rfl
  | cons e entries ih =>
    rw [List.map_cons, lookup_cons, lookup_cons, ih]
    by_cases here : e.1 = key <;> simp [here, h]

/-- A new value in the place of an old one is found under its key. -/
theorem lookup_map_self {key : String} (value : α) {entries : List (String × α)}
    (found : (entries.any fun e => e.1 = key) = true) :
    lookup key (entries.map fun e => if e.1 = key then (key, value) else e) = some value := by
  induction entries with
  | nil => simp at found
  | cons e entries ih =>
    rw [List.map_cons, lookup_cons]
    by_cases here : e.1 = key
    · simp [here]
    · have later : (entries.any fun e => e.1 = key) = true := by simpa [here] using found
      simp [here, ih later]

/-- An assignment is found under its key and leaves the other keys alone. -/
theorem lookup_insertEntry (entries : List (String × α)) (key other : String) (value : α) :
    lookup other (insertEntry entries key value) =
      if key = other then some value else lookup other entries := by
  unfold insertEntry
  by_cases h : key = other
  · subst h
    split
    · next found => rw [if_pos rfl, lookup_map_self value found]
    · next missing =>
      have absent : lookup key entries = none :=
        lookup_eq_none_iff.mpr fun e he same =>
          missing (List.any_eq_true.mpr ⟨e, he, decide_eq_true same⟩)
      simp [lookup_append_singleton, absent]
  · split
    · exact lookup_map_of_ne h value entries
    · simp [lookup_append_singleton, h]

end Mappings

end CivilTime

import CivilTime.Field.Run
import CivilTime.Member

/-!
# Findings

A question about date-times is answered by a truth value, a count, a text or several texts
(`Finding`). Findings can be compared with each other like the values they are; the order of texts
is that of their code points, and of lists of them the lexicographic one.

No member of a finding can be changed : all of them are members of its type
(`Finding.sharedMembers`).
-/

namespace CivilTime

/-- The answer to a question. -/
inductive Finding where
  | truth (b : Bool)
  | count (n : Nat)
  | text (s : String)
  | texts (items : List String)
  deriving DecidableEq, Repr

namespace Finding

/-- A finding as a value. -/
def toValue : Finding → Value
  | .truth b => .bool b
  | .count n => .int n
  | .text s => .str s
  | .texts items => .list (items.map .str)

/-- The name of a finding's type. -/
def typeName (f : Finding) : String :=
  f.toValue.typeName

/-! ## Comparing findings -/

/-- A finding as a number. A truth value counts as one or zero. -/
def number? : Finding → Option Nat
  | .truth b => some (if b then 1 else 0)
  | .count n => some n
  | _ => none

/-- Equality as of values, so a truth value may equal a count. -/
def same (f g : Finding) : Bool :=
  f.toValue.same g.toValue

/-- Strict order. Only numbers, texts, and lists of texts are ordered, each among themselves. -/
def less (f g : Finding) : Attempt Bool :=
  match f, g with
  | .text s, .text t => .ok (decide (s < t))
  | .texts xs, .texts ys => .ok (decide (xs < ys))
  | f, g =>
    match f.number?, g.number? with
    | some m, some n => .ok (decide (m < n))
    | _, _ => .error (.type (.ordering "<" f.typeName g.typeName))

/-! ## Members -/

/-- The names of the members that are worked out from a number. -/
def numericNames : List String :=
  ["real", "imag", "numerator", "denominator"]

/-- The members of numbers beyond those that all types have. -/
def numberMembers (n : Int) : SharedMembers :=
  [("real", .number n), ("imag", .number 0), ("numerator", .number n),
    ("denominator", .number 1)] ++
  SharedMember.builtin.named
    ["as_integer_ratio", "bit_count", "bit_length", "conjugate", "from_bytes", "to_bytes",
      "__ceil__", "__floor__", "__round__", "__trunc__", "__getnewargs__"] ++
  SharedMember.wrapper.named
    ["__hash__", "__abs__", "__add__", "__and__", "__bool__", "__divmod__", "__float__",
      "__floordiv__", "__index__", "__int__", "__invert__", "__lshift__", "__mod__", "__mul__",
      "__neg__", "__or__", "__pos__", "__pow__", "__radd__", "__rand__", "__rdivmod__",
      "__rfloordiv__", "__rlshift__", "__rmod__", "__rmul__", "__ror__", "__rpow__", "__rrshift__",
      "__rshift__", "__rsub__", "__rtruediv__", "__rxor__", "__sub__", "__truediv__", "__xor__"]

/-- The members of texts beyond those that all types have. -/
def textMembers : SharedMembers :=
  SharedMember.builtin.named
    ["capitalize", "casefold", "center", "count", "encode", "endswith", "expandtabs", "find",
      "format", "format_map", "index", "isalnum", "isalpha", "isascii", "isdecimal", "isdigit",
      "isidentifier", "islower", "isnumeric", "isprintable", "isspace", "istitle", "isupper",
      "join", "ljust", "lower", "lstrip", "maketrans", "partition", "removeprefix", "removesuffix",
      "replace", "rfind", "rindex", "rjust", "rpartition", "rsplit", "rstrip", "split",
      "splitlines", "startswith", "strip", "swapcase", "title", "translate", "upper", "zfill",
      "__getnewargs__"] ++
  SharedMember.wrapper.named
    ["__hash__", "__add__", "__contains__", "__getitem__", "__iter__", "__len__", "__mod__",
      "__mul__", "__rmod__", "__rmul__"]

/-- The members of lists beyond those that all types have. A list has no hash. -/
def listMembers : SharedMembers :=
  [("__hash__", .plain "NoneType")] ++
  SharedMember.builtin.named
    ["append", "clear", "copy", "count", "extend", "index", "insert", "pop", "remove", "reverse",
      "sort", "__class_getitem__", "__getitem__", "__reversed__"] ++
  SharedMember.wrapper.named
    ["__add__", "__contains__", "__delitem__", "__iadd__", "__imul__", "__iter__", "__len__",
      "__mul__", "__rmul__", "__setitem__"]

/-- The members of a finding's type, by their names. -/
def sharedMembers (f : Finding) : SharedMembers :=
  SharedMembers.basic ++
    match f with
    | .truth b => numberMembers (if b then 1 else 0)
    | .count n => numberMembers n
    | .text _ => textMembers
    | .texts _ => listMembers

/-- The member of a name. -/
def member (f : Finding) (name : String) : Attempt SharedMember :=
  f.sharedMembers.require f.typeName name

/-- Why a member other than the type itself can be neither assigned nor deleted. -/
def lockedMember (f : Finding) (name : String) : Failure :=
  match lookup name f.sharedMembers with
  | none => .member (.absent f.typeName name)
  | some _ =>
    if name ∈ numericNames then .member (.notWritable "int" name)
    else .member (.readOnly f.typeName name)

/-- The finding after a member is assigned, which cannot be. -/
def assign (f : Finding) (name : String) (v : Value) : Attempt Finding :=
  if name = "__class__" then .error (.type (.classAssigned v.typeName))
  else .error (f.lockedMember name)

/-- The finding after a member is deleted, which cannot be. -/
def delete (f : Finding) (name : String) : Attempt Finding :=
  if name = "__class__" then .error (.type .classDeleted)
  else .error (f.lockedMember name)

end Finding

end CivilTime

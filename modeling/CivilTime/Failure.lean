import CivilTime.Text.Clipped
import CivilTime.Value.Literal

/-!
# Failures

What can go wrong is an inductive type of causes, and `Failure.message` words each of them.

A `DateTimeError` says that a text or a number is no date or time : the text of a number is no
numeral, a number lies outside the range of its field, or a text lacks the layout of a date-time.
These three are what callers are meant to handle, and reports name them (`DateTimeError.label`).

The other causes are mistakes of use (a value of the wrong type, an unknown attribute, an attempt to
change a frozen value) and limits of the surroundings (a number with too many digits, a file that
cannot be read or decoded). Many of their messages have room for so much of a type's name only
(`typeRoom`, `operandRoom`, `lookupRoom`); what a kind itself says about its fields names it in
full.
-/

namespace CivilTime

/-! ## Errors of dates and times -/

/-- Why a text or a number is no date or time. -/
inductive DateTimeError where
  /-- The text of a number is no numeral. The arguments are those of the conversion's error. -/
  | parse (cause : List Value)
  /-- A number lies outside the range of a field. -/
  | overflow (field max : Value)
  /-- A text lacks the layout of a date-time. -/
  | malformed (text reason : Value)

namespace DateTimeError

/-- The name of the sort of error. -/
def label : DateTimeError → String
  | .parse _ => "ParseError"
  | .overflow .. => "FieldOverflowError"
  | .malformed .. => "MalformedInputError"

/-- The arguments of an error as one text : nothing for none, a single one by itself, and several in
parentheses. -/
def joinArguments : List Value → String
  | [] => ""
  | [v] => v.display
  | vs => "(" ++ ", ".intercalate (Value.literals vs) ++ ")"

/-- The wording of an error. -/
def message : DateTimeError → String
  | .parse cause => joinArguments cause
  | .overflow field max => field.display ++ " must be between 0-" ++ max.display
  | .malformed text reason =>
    "Malformed date-time " ++ text.literal ++ ": " ++ reason.display

/-- Whether the wording would show an integer with too many digits. -/
def oversized : DateTimeError → Bool
  | .parse cause => Value.anyOversized cause
  | .overflow field max => field.oversized || max.oversized
  | .malformed text reason => text.oversized || reason.oversized

/-- An error with its sort showing. -/
def literal (e : DateTimeError) : String :=
  e.label ++ "(" ++ Text.quoted e.message ++ ")"

/-- The wording of a text that is no numeral, around what is shown of the text. -/
def noNumeral (shown : String) : String :=
  "invalid literal for int() with base 10: " ++ shown

/-- The error of a text that is no numeral. -/
def notDecimal (text : String) : DateTimeError :=
  .parse [.str (noNumeral (Text.quoted text))]

/-- The error of a text of the wrong length. -/
def wrongLength (text : String) (expected : Nat) : DateTimeError :=
  .malformed (.str text)
    (.str ("expected " ++ toString expected ++ " characters, got " ++ toString text.length))

/-- The error of a text with a wrong delimiter. -/
def wrongDelimiter (text : String) (expected : Char) (position : Nat) (found : Char) :
    DateTimeError :=
  .malformed (.str text)
    (.str ("expected " ++ Text.quoted (String.ofList [expected]) ++ " at position " ++
      toString position ++ ", got " ++ Text.quoted (String.ofList [found])))

end DateTimeError

/-! ## Room for names -/

/-- The bytes of a type's name that a message about a single value shows. -/
def typeRoom : Nat := 200

/-- The bytes of a type's name that a message shows where it names both operands, or the attribute
to be changed. -/
def operandRoom : Nat := 100

/-- The bytes of a type's name that a message about an attribute looked up in vain shows. -/
def lookupRoom : Nat := 50

/-- The characters of a quoted text that a message about a text that is no integer shows. -/
def numeralRoom : Nat := 200

/-! ## Other causes -/

/-- A conversion to a whole number. -/
inductive Conversion where
  | integer
  | index
  deriving DecidableEq, Repr

/-- The name of a conversion. -/
def Conversion.name : Conversion → String
  | .integer => "__int__"
  | .index => "__index__"

/-- A value of a type that does not fit. The strings are names of types. -/
inductive TypeFault where
  | notText (got : String)
  | notInteger (field got : String)
  | wrongKind (member expected got : String)
  | aware (zone : String)
  | operands (operator left right : String)
  | operand (operator type : String)
  | concatenation (left right : String)
  | repetition (count : String)
  | ordering (operator left right : String)
  | conversion (how : Conversion) (got : String)
  | formatting (type : String)
  | integerArgument (got : String)
  | unhashable (type : String)
  | noLength (type : String)
  | notIterable (type : String)
  | notSpreadable (type : String)
  | notSubscriptable (type : String)
  | listIndex (got : String)
  | textIndex (got : String)
  | missingMax
  | extraKeyword (kind : String)
  | unexpectedArgument (name : String)
  | repeatedArgument (name : String)
  | missingArguments (names : List String)
  | excessArguments (given : Nat)
  /-- Parts are to be replaced in what has no parts. -/
  | notReplaceable
  | path (got : String)
  | classAssigned (got : String)
  | classDeleted
  | membersAssigned (got : String)

/-- Names in single quotes, the last two joined by "and". -/
def enumeration : List String → String
  | [] => ""
  | [a] => "'" ++ a ++ "'"
  | [a, b] => "'" ++ a ++ "' and '" ++ b ++ "'"
  | [a, b, c] => "'" ++ a ++ "', '" ++ b ++ "', and '" ++ c ++ "'"
  | a :: rest => "'" ++ a ++ "', " ++ enumeration rest

/-- The wording of a type that does not fit. -/
def TypeFault.message : TypeFault → String
  | .notText got => "expected str, got " ++ got
  | .notInteger field got => field ++ " expects an int, got " ++ got
  | .wrongKind member expected got => member ++ " must be " ++ expected ++ ", got " ++ got
  | .aware zone => "dt must be a naive datetime (no tzinfo), got tzinfo=" ++ zone ++ "."
  | .operands operator left right =>
    "unsupported operand type(s) for " ++ operator ++ ": '" ++ Text.clip operandRoom left ++
      "' and '" ++ Text.clip operandRoom right ++ "'"
  | .operand operator type =>
    "bad operand type for unary " ++ operator ++ ": '" ++ Text.clip typeRoom type ++ "'"
  | .concatenation left right =>
    "can only concatenate " ++ left ++ " (not \"" ++ Text.clip typeRoom right ++ "\") to " ++ left
  | .repetition count =>
    "can't multiply sequence by non-int of type '" ++ Text.clip typeRoom count ++ "'"
  | .ordering operator left right =>
    "'" ++ operator ++ "' not supported between instances of '" ++ Text.clip operandRoom left ++
      "' and '" ++ Text.clip operandRoom right ++ "'"
  | .conversion how got =>
    how.name ++ " returned non-int (type " ++ Text.clip typeRoom got ++ ")"
  | .formatting type =>
    "unsupported format string passed to " ++ Text.clip typeRoom type ++ ".__format__"
  | .integerArgument got =>
    "int() argument must be a string, a bytes-like object or a real number, not '" ++
      Text.clip typeRoom got ++ "'"
  | .unhashable type => "unhashable type: '" ++ Text.clip typeRoom type ++ "'"
  | .noLength type => "object of type '" ++ Text.clip typeRoom type ++ "' has no len()"
  | .notIterable type => "'" ++ Text.clip typeRoom type ++ "' object is not iterable"
  | .notSpreadable type => "Value after * must be an iterable, not " ++ Text.clip typeRoom type
  | .notSubscriptable type => "'" ++ Text.clip typeRoom type ++ "' object is not subscriptable"
  | .listIndex got =>
    "list indices must be integers or slices, not " ++ Text.clip typeRoom got
  | .textIndex got => "string indices must be integers, not '" ++ Text.clip typeRoom got ++ "'"
  | .missingMax => "BoundedField.__init_subclass__() missing 1 required keyword-only argument: 'max'"
  | .extraKeyword kind => kind ++ ".__init_subclass__() takes no keyword arguments"
  | .unexpectedArgument name =>
    "DateTime.__init__() got an unexpected keyword argument '" ++ name ++ "'"
  | .repeatedArgument name =>
    "DateTime.__init__() got multiple values for argument '" ++ name ++ "'"
  | .missingArguments names =>
    "DateTime.try_new() missing " ++ toString names.length ++ " required positional argument" ++
      (if names.length = 1 then "" else "s") ++ ": " ++ enumeration names
  | .excessArguments given =>
    "DateTime.try_new() takes 7 positional arguments but " ++ toString given ++ " were given"
  | .notReplaceable => "replace() should be called on dataclass instances"
  | .path got => "expected str, bytes or os.PathLike object, not " ++ Text.clip typeRoom got
  | .classAssigned got => "__class__ must be set to a class, not '" ++ got ++ "' object"
  | .classDeleted => "can't delete __class__ attribute"
  | .membersAssigned got =>
    "__dict__ must be set to a dictionary, not a '" ++ Text.clip typeRoom got ++ "'"

/-- An attribute that is not there or cannot be changed. -/
inductive MemberFault where
  | ofObject (type member : String)
  | ofType (type member : String)
  /-- There is no such attribute to assign or delete. -/
  | absent (type member : String)
  /-- The attribute belongs to the type and is not changed through a value. -/
  | readOnly (type member : String)
  /-- The attribute is there, but it cannot be changed. -/
  | notWritable (type member : String)

/-- The wording of an attribute that is not there or cannot be changed. -/
def MemberFault.message : MemberFault → String
  | .ofObject type member =>
    "'" ++ Text.clip lookupRoom type ++ "' object has no attribute '" ++ member ++ "'"
  | .ofType type member =>
    "type object '" ++ Text.clip lookupRoom type ++ "' has no attribute '" ++ member ++ "'"
  | .absent type member =>
    "'" ++ Text.clip operandRoom type ++ "' object has no attribute '" ++ member ++ "'"
  | .readOnly type member =>
    "'" ++ Text.clip lookupRoom type ++ "' object attribute '" ++ member ++ "' is read-only"
  | .notWritable type member =>
    "attribute '" ++ member ++ "' of '" ++ Text.clip operandRoom type ++ "' objects is not writable"

/-- A value that cannot be converted or accepted. -/
inductive ValueFault where
  /-- A number has too many digits to be written. -/
  | tooLongToWrite
  /-- A numeral has too many digits to be read. -/
  | tooLongToRead (digits : Nat)
  /-- A number is to be written in a way its type does not have. -/
  | formatCode (type : String)
  /-- A text is no integer numeral. -/
  | noInteger (text : String)
  /-- Not-a-number has no integer part. -/
  | notANumber
  /-- The name of a kind holds the character zero. -/
  | nullInName
  /-- A path holds the character zero. -/
  | nullInPath
  /-- What is read is no sequence of characters, since one half of a surrogate pair stands in it
  without the other. -/
  | loneSurrogate
  /-- The entries of a file that are no date-times. -/
  | validation (file : String) (items : List String)

/-- The wording of a value that cannot be converted or accepted. -/
def ValueFault.message : ValueFault → String
  | .tooLongToWrite =>
    "Exceeds the limit (" ++ toString Text.digitLimit ++ " digits) for integer string " ++
      "conversion; use sys.set_int_max_str_digits() to increase the limit"
  | .tooLongToRead digits =>
    "Exceeds the limit (" ++ toString Text.digitLimit ++ " digits) for integer string " ++
      "conversion: value has " ++ toString digits ++
      " digits; use sys.set_int_max_str_digits() to increase the limit"
  | .formatCode type =>
    "Unknown format code 'd' for object of type '" ++ Text.clip typeRoom type ++ "'"
  | .noInteger text =>
    DateTimeError.noNumeral (String.ofList ((Text.quoted text).toList.take numeralRoom))
  | .notANumber => "cannot convert float NaN to integer"
  | .nullInName => "type name must not contain null characters"
  | .nullInPath => "embedded null byte"
  | .loneSurrogate => "unpaired surrogate in a text"
  | .validation file items =>
    "Validation errors in " ++ file ++ ":\n" ++ "\n".intercalate (items.map ("  - " ++ ·))

/-- A number beyond the range of the type it is converted to. -/
inductive RangeFault where
  | infinity
  | toFloat
  | toIndex (type : String)
  | toLength
  /-- A repeated text would have more characters than can be counted. -/
  | repeatedText

/-- The wording of a number out of range. -/
def RangeFault.message : RangeFault → String
  | .infinity => "cannot convert float infinity to integer"
  | .toFloat => "int too large to convert to float"
  | .toIndex type => "cannot fit '" ++ Text.clip typeRoom type ++ "' into an index-sized integer"
  | .toLength => "Python int too large to convert to C ssize_t"
  | .repeatedText => "repeated string is too long"

/-- An index outside a sequence. -/
inductive IndexFault where
  | outOfRange (sequence : String)
  | tooLarge (type : String)

/-- The wording of an index outside a sequence. -/
def IndexFault.message : IndexFault → String
  | .outOfRange sequence => sequence ++ " index out of range"
  | .tooLarge type => "cannot fit '" ++ Text.clip typeRoom type ++ "' into an index-sized integer"

/-- An attempt to change a frozen value. -/
inductive FrozenFault where
  | assign (member : String)
  | delete (member : String)

/-- The wording of an attempt to change a frozen value. -/
def FrozenFault.message : FrozenFault → String
  | .assign member => "cannot assign to field " ++ Text.quoted member
  | .delete member => "cannot delete field " ++ Text.quoted member

/-- What is wrong with a document. -/
inductive SyntaxFault where
  | byteOrderMark
  | expectingValue
  | expectingName
  | expectingColon
  | expectingComma
  | extraData
  | unterminated
  | controlCharacter
  | badEscape
  | badCodePoint

/-- The wording of a fault in a document. -/
def SyntaxFault.message : SyntaxFault → String
  | .byteOrderMark => "Unexpected UTF-8 BOM (decode using utf-8-sig)"
  | .expectingValue => "Expecting value"
  | .expectingName => "Expecting property name enclosed in double quotes"
  | .expectingColon => "Expecting ':' delimiter"
  | .expectingComma => "Expecting ',' delimiter"
  | .extraData => "Extra data"
  | .unterminated => "Unterminated string starting at"
  | .controlCharacter => "Invalid control character at"
  | .badEscape => "Invalid \\escape"
  | .badCodePoint => "Invalid \\uXXXX escape"

/-- A fault in a document and its place : line and column count from one, the offset from zero. -/
structure DocumentFault where
  fault : SyntaxFault
  line : Nat
  column : Nat
  offset : Nat

/-- The wording of a fault in a document. -/
def DocumentFault.message (f : DocumentFault) : String :=
  f.fault.message ++ ": line " ++ toString f.line ++ " column " ++ toString f.column ++
    " (char " ++ toString f.offset ++ ")"

/-- Why bytes are no UTF-8 text. -/
inductive EncodingReason where
  | badStart
  | badContinuation
  | truncated

/-- The wording of a reason. -/
def EncodingReason.message : EncodingReason → String
  | .badStart => "invalid start byte"
  | .badContinuation => "invalid continuation byte"
  | .truncated => "unexpected end of data"

/-- The bytes that are no character : where they start, the first of them, and how many. -/
structure EncodingFault where
  start : Nat
  first : UInt8
  count : Nat
  reason : EncodingReason

/-- The wording of an encoding fault. -/
def EncodingFault.message (f : EncodingFault) : String :=
  "'utf-8' codec can't decode " ++
    (if f.count = 1 then
      "byte 0x" ++ String.ofList (Text.hexDigits 2 f.first.toNat) ++ " in position " ++
        toString f.start
    else
      "bytes in position " ++ toString f.start ++ "-" ++ toString (f.start + f.count - 1)) ++
    ": " ++ f.reason.message

/-- Why a file cannot be read. -/
inductive FileFault where
  | missing (name : String)
  | directory (name : String)
  /-- The name is longer than names of files can be. -/
  | tooLong (name : String)

/-- The wording of a file fault. -/
def FileFault.message : FileFault → String
  | .missing name => "[Errno 2] No such file or directory: " ++ Text.quoted name
  | .directory name => "[Errno 21] Is a directory: " ++ Text.quoted name
  | .tooLong name => "[Errno 36] File name too long: " ++ Text.quoted name

/-! ## All causes -/

/-- A cause of failure. -/
inductive Failure where
  | dateTime (error : DateTimeError)
  | type (fault : TypeFault)
  | member (fault : MemberFault)
  | value (fault : ValueFault)
  | range (fault : RangeFault)
  | index (fault : IndexFault)
  | key (missing : Value)
  | frozen (fault : FrozenFault)
  | document (fault : DocumentFault)
  | encoding (fault : EncodingFault)
  | file (fault : FileFault)
  /-- A sequence is too long for the memory. -/
  | memory
  /-- Containers of the given sort are nested too deeply in a document. -/
  | nesting (container : String)

/-- The wording of a failure. -/
def Failure.message : Failure → String
  | .dateTime error => error.message
  | .type fault => fault.message
  | .member fault => fault.message
  | .value fault => fault.message
  | .range fault => fault.message
  | .index fault => fault.message
  | .key missing => missing.literal
  | .frozen fault => fault.message
  | .document fault => fault.message
  | .encoding fault => fault.message
  | .file fault => fault.message
  | .memory => ""
  | .nesting container =>
    "maximum recursion depth exceeded while decoding a JSON " ++ container ++
      " from a unicode string"

/-- A result or the cause of its failure. -/
abbrev Attempt := Except Failure

namespace Value

/-- The literal of a value, unless it would show a number with too many digits. -/
def literal? (v : Value) : Attempt String :=
  if v.oversized then .error (.value .tooLongToWrite) else .ok v.literal

/-- The bare text of a value, unless it would show a number with too many digits. -/
def display? (v : Value) : Attempt String :=
  if v.oversized then .error (.value .tooLongToWrite) else .ok v.display

end Value

/-- The failure of a number outside the range of a field, or of the bound that cannot be written. -/
def Failure.overflow (field : String) (max : Value) : Failure :=
  if max.oversized then .value .tooLongToWrite else .dateTime (.overflow (.str field) max)

end CivilTime

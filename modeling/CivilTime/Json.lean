import CivilTime.Limits
import CivilTime.Text.Utf8
import CivilTime.Text.Lines

/-!
# Reading JSON

`Json.decode` reads one JSON value out of a text. Beside the standard grammar it takes `NaN`,
`Infinity` and `-Infinity` as numbers. A number without fraction and exponent is an integer, any
other a floating-point number. In an object a repeated name keeps its first place and takes the last
value.

An escape can stand for half of a surrogate pair, and two halves that follow each other make one
character. A half that stands alone is no character, and no other one is put in its place : the text
it is read in is none, and so are the list and the object that keep such a text. If this is all that
is wrong with a document, there is no value of it and a failure that is met nowhere else
(`ValueFault.loneSurrogate`). So what is said of the value of a document is said of all documents
that keep nothing but characters in their texts.

The functions below read from the front of a list of characters and give back what is left. A fault
is reported with the characters that begin where it was found (`Halt.fault`), from which its offset
follows. How deeply lists and objects may be nested depends on the stack there is.
-/

namespace CivilTime.Json

/-- Why reading stopped : a fault of syntax in front of the given characters, or another failure. -/
inductive Halt where
  | fault (fault : SyntaxFault) (rest : List Char)
  | failure (cause : Failure)

/-- A result and the characters behind it. -/
abbrev Scanned (α : Type) := α × List Char

/-! ## Strings -/

/-- The value of a hexadecimal digit. -/
def hexValue? (c : Char) : Option Nat :=
  if '0' ≤ c ∧ c ≤ '9' then some (c.toNat - '0'.toNat)
  else if 'a' ≤ c ∧ c ≤ 'f' then some (c.toNat - 'a'.toNat + 10)
  else if 'A' ≤ c ∧ c ≤ 'F' then some (c.toNat - 'A'.toNat + 10)
  else none

/-- The value of a run of hexadecimal digits. -/
def hexNumber? (digits : List Char) : Option Nat :=
  digits.foldl (fun acc c => do return (← acc) * 16 + (← hexValue? c)) (some 0)

/-- The sixteen bits of an escape, from the letter `u` on. A character has to follow the digits. -/
def codeUnit (text : List Char) : Except Halt (Scanned Nat) :=
  let digits := (text.drop 1).take 4
  let rest := text.drop 5
  if rest = [] then .error (.fault .badCodePoint text)
  else match hexNumber? digits with
    | none => .error (.fault .badCodePoint text)
    | some n => .ok (n, rest)

/-- Whether sixteen bits are the first half of a surrogate pair. -/
def isHighSurrogate (n : Nat) : Bool :=
  0xD800 ≤ n && n < 0xDC00

/-- Whether sixteen bits are the second half of a surrogate pair. -/
def isLowSurrogate (n : Nat) : Bool :=
  0xDC00 ≤ n && n < 0xE000

/-- The character of an escape, from the letter `u` on : one code unit, or the two halves of a
surrogate pair. A half without the other one is no character. -/
def codePointEscape (text : List Char) : Except Halt (Scanned (Option Char)) := do
  let (high, rest) ← codeUnit text
  if isHighSurrogate high then
    match rest with
    | '\\' :: 'u' :: more =>
      if more.drop 4 = [] then return (none, rest)
      let (low, behind) ← codeUnit ('u' :: more)
      if isLowSurrogate low then
        return (some (Char.ofNat (0x10000 + (high - 0xD800) * 0x400 + (low - 0xDC00))), behind)
      else
        return (none, rest)
    | _ => return (none, rest)
  else if isLowSurrogate high then
    return (none, rest)
  else
    return (some (Char.ofNat high), rest)

/-- The character that a letter stands for after a backslash. -/
def simpleEscape? : Char → Option Char
  | '"' => some '"'
  | '\\' => some '\\'
  | '/' => some '/'
  | 'b' => some '\x08'
  | 'f' => some '\x0c'
  | 'n' => some '\n'
  | 'r' => some '\r'
  | 't' => some '\t'
  | _ => none

/-- What stands in a string up to its closing quote, where `opening` begins with the opening quote.
The fuel bounds its length. -/
def stringBody (opening : List Char) : Nat → List Char → Except Halt (Scanned (List (Option Char)))
  | 0, _ => .error (.fault .unterminated opening)
  | _, [] => .error (.fault .unterminated opening)
  | _ + 1, '"' :: rest => .ok ([], rest)
  | fuel + 1, '\\' :: rest =>
    match rest with
    | [] => .error (.fault .unterminated opening)
    | 'u' :: _ => do
      let (c, rest) ← codePointEscape rest
      let (cs, rest) ← stringBody opening fuel rest
      return (c :: cs, rest)
    | letter :: rest' =>
      match simpleEscape? letter with
      | none => .error (.fault .badEscape ('\\' :: rest))
      | some c => do
        let (cs, rest) ← stringBody opening fuel rest'
        return (some c :: cs, rest)
  | fuel + 1, c :: rest =>
    if c.toNat < 0x20 then .error (.fault .controlCharacter (c :: rest))
    else do
      let (cs, rest) ← stringBody opening fuel rest
      return (some c :: cs, rest)

/-- The string that begins behind the opening quote `text` starts with, unless there is more than
characters in it. -/
def string (fuel : Nat) (text : List Char) : Except Halt (Scanned (Option String)) := do
  let (cs, rest) ← stringBody text fuel (text.drop 1)
  return ((cs.mapM id).map String.ofList, rest)

/-! ## Numbers -/

/-- The digits before the decimal point. A leading zero stands alone. -/
def wholeDigits : List Char → List Char
  | '0' :: _ => ['0']
  | text => text.takeWhile Char.isDigit

/-- The digits behind a decimal point, and what follows them. -/
def fraction? : List Char → Option (List Char × List Char)
  | '.' :: rest =>
    let digits := rest.takeWhile Char.isDigit
    if digits = [] then none else some (digits, rest.drop digits.length)
  | _ => none

/-- The exponent behind its letter, and what follows it. -/
def exponent? : List Char → Option (Int × List Char)
  | letter :: rest =>
    if letter = 'e' ∨ letter = 'E' then
      let (negative, rest) := match rest with
        | '-' :: rest => (true, rest)
        | '+' :: rest => (false, rest)
        | rest => (false, rest)
      let digits := rest.takeWhile Char.isDigit
      let size : Int := Text.decimalValue digits
      if digits = [] then none
      else some (if negative then -size else size, rest.drop digits.length)
    else none
  | [] => none

/-- The number a text begins with. -/
def number (text : List Char) : Except Halt (Scanned Value) :=
  let (negative, unsigned) := match text with
    | '-' :: rest => (true, rest)
    | rest => (false, rest)
  let whole := wholeDigits unsigned
  if whole = [] then .error (.fault .expectingValue text)
  else
    let rest := unsigned.drop whole.length
    let fraction := fraction? rest
    let rest := (fraction.map Prod.snd).getD rest
    let exponent := exponent? rest
    let rest := (exponent.map Prod.snd).getD rest
    if fraction.isSome ∨ exponent.isSome then
      let digits := (fraction.map Prod.fst).getD []
      let power := (exponent.map Prod.fst).getD 0 - digits.length
      .ok (.float (.ofDecimal negative (Text.decimalValue (whole ++ digits)) power), rest)
    else if Text.digitLimit < whole.length then
      .error (.failure (.value (.tooLongToRead whole.length)))
    else
      let size : Int := Text.decimalValue whole
      .ok (.int (if negative then -size else size), rest)

/-! ## Values -/

/-- A blank between the tokens of JSON. -/
def isBlank (c : Char) : Bool :=
  c == ' ' || c == '\t' || c == '\n' || c == '\r'

/-- A text behind its leading blanks. -/
def skipBlanks (text : List Char) : List Char :=
  text.dropWhile isBlank

/-- The words that stand for values. -/
def words : List (List Char × Value) := [
  ("null".toList, .null),
  ("true".toList, .bool true),
  ("false".toList, .bool false),
  ("NaN".toList, .float .nan),
  ("Infinity".toList, .float (.infinity false)),
  ("-Infinity".toList, .float (.infinity true))]

/-- The word a text begins with. -/
def word? (text : List Char) : Option (Value × List Char) :=
  (words.find? fun w => w.1.isPrefixOf text).map fun w => (w.2, text.drop w.1.length)

/-- The list of some items, if each of them has a value. -/
def listOf? (items : List (Option Value)) : Option Value := do
  return .list (← items.mapM id)

/-- The mapping of some entries, if each of them has a name and each one that is kept has a
value. -/
def dictOf? (entries : List (Option String × Option Value)) : Option Value := do
  let named ← entries.mapM fun e => e.1.map fun name => (name, e.2)
  return .dict (← (mappingOf named).mapM fun e => e.2.map fun v => (e.1, v))

mutual

/-- The value a text begins with. The fuel bounds the number of calls : at most two of them begin at
the same character. -/
def value : Nat → Nat → List Char → Except Halt (Scanned (Option Value))
  | 0, _, text => .error (.fault .expectingValue text)
  | _, _, [] => .error (.fault .expectingValue [])
  | fuel + 1, depth, c :: rest =>
    if c = '"' then do
      let (s, rest) ← string fuel (c :: rest)
      return (s.map .str, rest)
    else if c = '\x7b' then
      match depth with
      | 0 => .error (.failure (.nesting "object"))
      | depth + 1 =>
        match skipBlanks rest with
        | '\x7d' :: rest => .ok (some (.dict []), rest)
        | rest => do
          let (entries, rest) ← members fuel depth rest
          return (dictOf? entries, rest)
    else if c = '[' then
      match depth with
      | 0 => .error (.failure (.nesting "array"))
      | depth + 1 =>
        match skipBlanks rest with
        | ']' :: rest => .ok (some (.list []), rest)
        | rest => do
          let (items, rest) ← elements fuel depth rest
          return (listOf? items, rest)
    else
      match word? (c :: rest) with
      | some (v, rest) => .ok (some v, rest)
      | none => do
        let (v, rest) ← number (c :: rest)
        return (some v, rest)

/-- The entries of an object up to its closing brace. -/
def members : Nat → Nat → List Char →
    Except Halt (Scanned (List (Option String × Option Value)))
  | 0, _, text => .error (.fault .expectingName text)
  | fuel + 1, depth, text =>
    match text with
    | '"' :: _ => do
      let (name, rest) ← string fuel text
      match skipBlanks rest with
      | ':' :: rest =>
        let (v, rest) ← value fuel depth (skipBlanks rest)
        match skipBlanks rest with
        | '\x7d' :: rest => return ([(name, v)], rest)
        | ',' :: rest =>
          let (entries, rest) ← members fuel depth (skipBlanks rest)
          return ((name, v) :: entries, rest)
        | rest => .error (.fault .expectingComma rest)
      | rest => .error (.fault .expectingColon rest)
    | _ => .error (.fault .expectingName text)

/-- The items of a list up to its closing bracket. -/
def elements : Nat → Nat → List Char → Except Halt (Scanned (List (Option Value)))
  | 0, _, text => .error (.fault .expectingValue text)
  | fuel + 1, depth, text => do
    let (v, rest) ← value fuel depth text
    match skipBlanks rest with
    | ']' :: rest => return ([v], rest)
    | ',' :: rest =>
      let (items, rest) ← elements fuel depth (skipBlanks rest)
      return (v :: items, rest)
    | rest => .error (.fault .expectingComma rest)

end

/-! ## Documents -/

/-- The fault in front of the rest of a text, with its place. -/
def locate (text rest : List Char) (fault : SyntaxFault) : DocumentFault :=
  let offset := text.length - rest.length
  let (line, column) := Text.lineAndColumn text offset
  ⟨fault, line, column, offset⟩

/-- The value of a text that holds one JSON value and blanks around it, if there is one. -/
def scanDocument (nesting : Nat) (text : List Char) : Except Halt (Option Value) := do
  if text.head? = some '\uFEFF' then .error (.fault .byteOrderMark text)
  let (v, rest) ← value (2 * text.length + 2) nesting (skipBlanks text)
  let rest := skipBlanks rest
  if rest = [] then return v else .error (.fault .extraData rest)

/-- The value of a text that holds one JSON value and blanks around it. -/
def decode (text : List Char) (nesting : Nat := Limits.usual.nesting) : Attempt Value :=
  match scanDocument nesting text with
  | .ok (some v) => .ok v
  | .ok none => .error (.value .loneSurrogate)
  | .error (.fault fault rest) => .error (.document (locate text rest fault))
  | .error (.failure cause) => .error cause

/-- The value of the bytes of a JSON document in UTF-8. -/
def decodeBytes (nesting : Nat) (bytes : List UInt8) : Attempt Value :=
  match Text.decodeUtf8 bytes with
  | .error fault => .error (.encoding fault)
  | .ok chars => decode (Text.normalizeNewlines chars) nesting

end CivilTime.Json

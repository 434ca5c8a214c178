import CivilTime.Failure

/-!
# UTF-8

A character takes one to four bytes : a first byte that tells their number, and continuation bytes
from 0x80 to 0xBF. After some first bytes the range of the second byte is narrower
(`secondRange`), so that no character has two encodings and none of them is a surrogate.

Bytes that are no character are reported with the longest part that could have begun one
(`EncodingFault`). If the bytes end inside a character, that is the whole rest; otherwise it ends
before the first byte that does not fit.
-/

namespace CivilTime.Text

/-- The number of bytes after a first byte; none for a byte that begins no character. -/
def continuationCount? (first : UInt8) : Option Nat :=
  if first < 0x80 then some 0
  else if first < 0xC2 then none
  else if first < 0xE0 then some 1
  else if first < 0xF0 then some 2
  else if first < 0xF5 then some 3
  else none

/-- The range of the second byte after a first byte. -/
def secondRange (first : UInt8) : UInt8 × UInt8 :=
  if first = 0xE0 then (0xA0, 0xBF)
  else if first = 0xED then (0x80, 0x9F)
  else if first = 0xF0 then (0x90, 0xBF)
  else if first = 0xF4 then (0x80, 0x8F)
  else (0x80, 0xBF)

/-- The leading bytes that fit as continuation bytes, the first of them in a range of its own. -/
def fitting (range : UInt8 × UInt8) : List UInt8 → List UInt8
  | [] => []
  | b :: rest =>
    if range.1 ≤ b && b ≤ range.2 then b :: fitting (0x80, 0xBF) rest else []

/-- The payload of a first byte with so many bytes after it. -/
def firstPayload (first : UInt8) (count : Nat) : Nat :=
  if count = 0 then first.toNat else first.toNat % Nat.pow 2 (6 - count)

/-- The code point of a first byte and its continuation bytes. -/
def codePoint (first : UInt8) (continuation : List UInt8) : Nat :=
  continuation.foldl (fun acc b => acc * 64 + b.toNat % 64) (firstPayload first continuation.length)

/-- The characters of bytes that start at offset `start`. The fuel bounds their number. -/
def decodeFrom : Nat → Nat → List UInt8 → Except EncodingFault (List Char)
  | _, _, [] => .ok []
  | 0, _, _ :: _ => .ok []
  | fuel + 1, start, first :: rest =>
    match continuationCount? first with
    | none => .error ⟨start, first, 1, .badStart⟩
    | some count =>
      let continuation := fitting (secondRange first) (rest.take count)
      if continuation.length = count then do
        let chars ← decodeFrom fuel (start + count + 1) (rest.drop count)
        return Char.ofNat (codePoint first continuation) :: chars
      else if continuation.length = rest.length then
        .error ⟨start, first, continuation.length + 1, .truncated⟩
      else
        .error ⟨start, first, continuation.length + 1, .badContinuation⟩

/-- The characters that bytes encode. -/
def decodeUtf8 (bytes : List UInt8) : Except EncodingFault (List Char) :=
  decodeFrom bytes.length 0 bytes

end CivilTime.Text

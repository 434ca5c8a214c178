import CivilTime.Text.Printable

/-!
# Quoted text

A text is quoted so that it can be shown on one line : it stands between two equal quotes, and a
character that is not printable is written as an escape. Single quotes are used unless the text
holds a single quote and no double quote (`quoteFor`). Inside, the quote in use and the backslash
get a backslash before them; tab, newline and carriage return have escapes of their own, and any
other character that is not printable is written as its code point in two, four or eight
hexadecimal digits, the fewest that suffice (`escape`).

Main statement : a quoted text consists of printable characters only (`isPrintable_of_mem_quote`).
-/

namespace CivilTime.Text

/-- The number `n` in exactly `width` lower-case hexadecimal digits; higher digits are cut off. -/
def hexDigits : Nat → Nat → List Char
  | 0, _ => []
  | width + 1, n => hexDigits width (n / 16) ++ [Nat.digitChar (n % 16)]

/-- The code point of a character as an escape. -/
def codePointEscape (c : Char) : List Char :=
  let n := c.toNat
  if n ≤ 0xFF then '\\' :: 'x' :: hexDigits 2 n
  else if n ≤ 0xFFFF then '\\' :: 'u' :: hexDigits 4 n
  else '\\' :: 'U' :: hexDigits 8 n

/-- How a character is written between two quotes `quote`. -/
def escape (quote c : Char) : List Char :=
  if c = quote ∨ c = '\\' then ['\\', c]
  else if c = '\t' then ['\\', 't']
  else if c = '\n' then ['\\', 'n']
  else if c = '\r' then ['\\', 'r']
  else if isPrintable c then [c]
  else codePointEscape c

/-- The quote a text is written with. -/
def quoteFor (text : List Char) : Char :=
  if '\'' ∈ text ∧ '"' ∉ text then '"' else '\''

/-- A text between quotes. -/
def quote (text : List Char) : List Char :=
  let q := quoteFor text
  q :: (text.flatMap (escape q) ++ [q])

/-- A text between quotes. -/
def quoted (text : String) : String :=
  String.ofList (quote text.toList)

/-! ## Quoted text is printable -/

theorem isPrintable_digitChar {n : Nat} (h : n < 16) : isPrintable (Nat.digitChar n) = true := by
  match n with
  | 0 | 1 | 2 | 3 | 4 | 5 | 6 | 7 | 8 | 9 | 10 | 11 | 12 | 13 | 14 | 15 => decide
  | n + 16 => omega

theorem isPrintable_of_mem_hexDigits {width n : Nat} {c : Char} (h : c ∈ hexDigits width n) :
    isPrintable c = true := by
  induction width generalizing n with
  | zero => simp [hexDigits] at h
  | succ width ih =>
    rcases List.mem_append.mp h with h | h
    · exact ih h
    · rw [List.mem_singleton.mp h]
      exact isPrintable_digitChar (Nat.mod_lt _ (by decide))

theorem isPrintable_of_mem_codePointEscape {c x : Char} (h : x ∈ codePointEscape c) :
    isPrintable x = true := by
  have marks : isPrintable '\\' = true ∧ isPrintable 'x' = true ∧ isPrintable 'u' = true ∧
      isPrintable 'U' = true := by decide
  have cut {m : Char} {width n : Nat} (hm : isPrintable m = true)
      (hx : x ∈ '\\' :: m :: hexDigits width n) : isPrintable x = true := by
    rcases List.mem_cons.mp hx with rfl | hx
    · exact marks.1
    · rcases List.mem_cons.mp hx with rfl | hx
      · exact hm
      · exact isPrintable_of_mem_hexDigits hx
  unfold codePointEscape at h
  dsimp only at h
  split at h
  · exact cut marks.2.1 h
  · split at h
    · exact cut marks.2.2.1 h
    · exact cut marks.2.2.2 h

theorem isPrintable_of_mem_escape {q c x : Char} (hq : isPrintable q = true)
    (h : x ∈ escape q c) : isPrintable x = true := by
  have marks : isPrintable '\\' = true ∧ isPrintable 't' = true ∧ isPrintable 'n' = true ∧
      isPrintable 'r' = true := by decide
  have pair {m : Char} (hm : isPrintable m = true) (hx : x ∈ ['\\', m]) :
      isPrintable x = true := by
    rcases List.mem_cons.mp hx with hx | hx
    · rw [hx]; exact marks.1
    · rw [List.mem_singleton.mp hx]; exact hm
  unfold escape at h
  split at h
  · next hc =>
    rcases hc with hc | hc
    · exact pair (hc ▸ hq) h
    · exact pair (hc ▸ marks.1) h
  · split at h
    · exact pair marks.2.1 h
    · split at h
      · exact pair marks.2.2.1 h
      · split at h
        · exact pair marks.2.2.2 h
        · split at h
          · next hc => rw [List.mem_singleton.mp h]; exact hc
          · exact isPrintable_of_mem_codePointEscape h

theorem isPrintable_quoteFor (text : List Char) : isPrintable (quoteFor text) = true := by
  unfold quoteFor
  split <;> decide

theorem isPrintable_of_mem_quote {text : List Char} {x : Char} (h : x ∈ quote text) :
    isPrintable x = true := by
  have hq := isPrintable_quoteFor text
  rcases List.mem_cons.mp h with rfl | h
  · exact hq
  · rcases List.mem_append.mp h with h | h
    · obtain ⟨c, -, hx⟩ := List.mem_flatMap.mp h
      exact isPrintable_of_mem_escape hq hx
    · rw [List.mem_singleton.mp h]; exact hq

end CivilTime.Text

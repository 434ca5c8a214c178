/-!
# Text in columns

A column of a table has a width in characters, and shorter cells are filled up with blanks, on the
right (`padRight`) or on the left (`padLeft`). A longer cell keeps all its characters.
-/

namespace CivilTime.Text

/-- A run of `n` blanks. -/
def blanks (n : Nat) : String :=
  String.ofList (List.replicate n ' ')

/-- A run of `n` dashes. -/
def dashes (n : Nat) : String :=
  String.ofList (List.replicate n '-')

/-- Blanks after the text, up to `width` characters. -/
def padRight (width : Nat) (text : String) : String :=
  text ++ blanks (width - text.length)

/-- Blanks before the text, up to `width` characters. -/
def padLeft (width : Nat) (text : String) : String :=
  blanks (width - text.length) ++ text

@[simp] theorem toList_blanks (n : Nat) : (blanks n).toList = List.replicate n ' ' := by
  simp [blanks]

@[simp] theorem toList_dashes (n : Nat) : (dashes n).toList = List.replicate n '-' := by
  simp [dashes]

@[simp] theorem length_blanks (n : Nat) : (blanks n).length = n := by
  simp [← String.length_toList]

@[simp] theorem length_dashes (n : Nat) : (dashes n).length = n := by
  simp [← String.length_toList]

theorem length_padRight (width : Nat) (text : String) :
    (padRight width text).length = max text.length width := by
  simp [padRight]; omega

end CivilTime.Text

import CivilTime.DateTime.Wire
import CivilTime.Display
import CivilTime.Proofs.Fields

/-!
# Texts cut at their delimiters

A text that has the length and the delimiters of the wire (`HasLayout`) is nothing but its six
slices with the delimiters between them (`ofList_spaced_slicesOf`), and slices that are as wide as
their places are found again in the text that is made of them (`slicesOf_spaced`). So reading such a
text is reading six slices (`ofWire_of_hasLayout`), and a text without the layout is refused before
any number in it is looked at (`hasLayout_of_ofWire`).
-/

namespace CivilTime

namespace Part

/-- The place of the first character of a part on the wire. -/
def start : Part → Nat
  | .year => 0
  | .month => 5
  | .day => 8
  | .hour => 11
  | .minute => 14
  | .second => 17

/-- The number of characters of a part on the wire. -/
def width : Part → Nat
  | .year => 4
  | _ => 2

theorem forall_iff {P : Part → Prop} : (∀ p, P p) ↔
    P .year ∧ P .month ∧ P .day ∧ P .hour ∧ P .minute ∧ P .second := by
  constructor
  · intro h
    exact ⟨h .year, h .month, h .day, h .hour, h .minute, h .second⟩
  · rintro ⟨year, month, day, hour, minute, second⟩ p
    cases p <;> assumption

theorem width_pos (p : Part) : 0 < p.width := by
  cases p <;> decide

theorem width_le (p : Part) : p.width ≤ 4 := by
  cases p <;> decide

end Part

namespace DateTime

/-! ## Slices -/

/-- The characters at the places of the parts. -/
def slicesOf (text : String) (p : Part) : List Char :=
  (text.toList.drop p.start).take p.width

/-- Slices with the delimiters between them. -/
def spaced (slices : Part → List Char) : List Char :=
  slices .year ++ '-' :: (slices .month ++ '-' :: (slices .day ++ 'T' ::
    (slices .hour ++ ':' :: (slices .minute ++ ':' :: slices .second))))

/-- Whether each slice is as wide as its place. -/
def Fit (slices : Part → List Char) : Prop :=
  ∀ p, (slices p).length = p.width

/-- Whether a text has the length of the wire, and the delimiters at their places. -/
structure HasLayout (text : String) : Prop where
  length : text.length = wireLength
  delimiter : ∀ d ∈ delimiters, text.toList[d.1]? = some d.2

theorem length_spaced (slices : Part → List Char) : (spaced slices).length =
    (slices .year).length + (slices .month).length + (slices .day).length +
      (slices .hour).length + (slices .minute).length + (slices .second).length + 5 := by
  simp only [spaced, List.length_append, List.length_cons]
  omega

theorem map_spaced {f : Char → Char} (hdash : f '-' = '-') (hcolon : f ':' = ':')
    (hmark : f 'T' = 'T') (slices : Part → List Char) :
    (spaced slices).map f = spaced fun p => (slices p).map f := by
  simp only [spaced, List.map_append, List.map_cons, hdash, hcolon, hmark]

/-- The characters from one place on, cut at a delimiter further on. -/
theorem drop_eq_take_append {text : List Char} (i width : Nat) {c : Char}
    (h : text[i + width]? = some c) :
    text.drop i = (text.drop i).take width ++ c :: text.drop (i + width + 1) := by
  obtain ⟨inside, rfl⟩ := List.getElem?_eq_some_iff.mp h
  rw [← List.drop_eq_getElem_cons inside, ← List.drop_drop, List.take_append_drop]

/-- A text with the layout of the wire is its slices with the delimiters between them. -/
theorem ofList_spaced_slicesOf {text : String} (h : HasLayout text) :
    String.ofList (spaced (slicesOf text)) = text := by
  have found : ∀ d ∈ delimiters, text.toList[d.1]? = some d.2 := h.delimiter
  have year := drop_eq_take_append 0 4 (found (4, '-') (by decide))
  have month := drop_eq_take_append 5 2 (found (7, '-') (by decide))
  have day := drop_eq_take_append 8 2 (found (10, 'T') (by decide))
  have hour := drop_eq_take_append 11 2 (found (13, ':') (by decide))
  have minute := drop_eq_take_append 14 2 (found (16, ':') (by decide))
  have second : (text.toList.drop 17).take 2 = text.toList.drop 17 := by
    apply List.take_of_length_le
    rw [List.length_drop, String.length_toList, h.length]
    decide
  have whole : text.toList = spaced (slicesOf text) := by
    rw [minute] at hour
    rw [hour] at day
    rw [day] at month
    rw [month] at year
    simpa only [spaced, slicesOf, Part.start, Part.width, second, List.drop_zero] using year
  rw [← whole, String.ofList_toList]

theorem fit_slicesOf {text : String} (h : HasLayout text) : Fit (slicesOf text) := by
  intro p
  have length := h.length
  rw [← String.length_toList] at length
  cases p <;> simp [slicesOf, Part.start, Part.width, length, wireLength]

/-- Slices as wide as their places stand at them. -/
theorem slicesOf_spaced {slices : Part → List Char} (h : Fit slices) :
    slicesOf (String.ofList (spaced slices)) = slices := by
  have wide : ∀ p, (slices p).length = p.width := h
  funext p
  cases p <;>
    simp [slicesOf, spaced, Part.start, Part.width, List.drop_append, List.drop_of_length_le,
      List.take_of_length_le, wide]

theorem hasLayout_spaced {slices : Part → List Char} (h : Fit slices) :
    HasLayout (String.ofList (spaced slices)) := by
  have wide : ∀ p, (slices p).length = p.width := h
  constructor
  · simp [length_spaced, wide, Part.width, wireLength]
  · simp [delimiters, spaced, List.getElem?_append, List.getElem?_cons, wide, Part.width]

/-! ## The check of the layout -/

theorem wrongDelimiter?_eq_none_iff {text : String} (h : text.length = wireLength) :
    wrongDelimiter? text = none ↔ ∀ d ∈ delimiters, text.toList[d.1]? = some d.2 := by
  simp only [wrongDelimiter?, List.findSome?_eq_none_iff]
  refine forall₂_congr fun d hd => ?_
  have inside : d.1 < text.toList.length := by
    rw [String.length_toList, h]
    revert d
    decide
  simp [List.getElem?_eq_getElem inside]

theorem checkLayout_eq_ok_iff {text : String} : checkLayout text = .ok () ↔ HasLayout text := by
  by_cases length : text.length = wireLength
  · have delimiter := wrongDelimiter?_eq_none_iff length
    have layout : HasLayout text ↔ ∀ d ∈ delimiters, text.toList[d.1]? = some d.2 :=
      ⟨HasLayout.delimiter, HasLayout.mk length⟩
    rw [layout, ← delimiter, checkLayout, if_neg (not_not_intro length)]
    cases wrongDelimiter? text <;> simp
  · have layout : ¬HasLayout text := fun h => length h.length
    simp [checkLayout, length, layout]

/-! ## Reading slices -/

/-- The date-time of six slices, read from left to right. -/
def ofSlices (slices : Part → List Char) : Attempt DateTime := do
  let year ← readNumeral (String.ofList (slices .year))
  let month ← Field.parse (.standard .month) (.str (String.ofList (slices .month)))
  let day ← Field.parse (.standard .day) (.str (String.ofList (slices .day)))
  let hour ← Field.parse (.standard .hour) (.str (String.ofList (slices .hour)))
  let minute ← Field.parse (.standard .minute) (.str (String.ofList (slices .minute)))
  let second ← Field.parse (.standard .second) (.str (String.ofList (slices .second)))
  let month ← month.combine .sub (.int 1)
  let day ← day.combine .sub (.int 1)
  return ⟨.int year, month, day, hour, minute, second⟩

theorem ofWire_eq (text : String) :
    ofWire text = (checkLayout text).mapError .dateTime >>= fun _ => ofSlices (slicesOf text) :=
  rfl

/-- Reading a text with the layout of the wire is reading its slices. -/
theorem ofWire_of_hasLayout {text : String} (h : HasLayout text) :
    ofWire text = ofSlices (slicesOf text) := by
  rw [ofWire_eq, checkLayout_eq_ok_iff.mpr h]
  rfl

/-- Only texts with the layout of the wire are read. -/
theorem hasLayout_of_ofWire {text : String} {dt : DateTime} (h : ofWire text = .ok dt) :
    HasLayout text := by
  rw [ofWire_eq] at h
  rw [← checkLayout_eq_ok_iff]
  cases layout : checkLayout text with
  | ok => rfl
  | error e => simp [layout, Except.mapError] at h

theorem ofWire_spaced {slices : Part → List Char} (h : Fit slices) :
    ofWire (String.ofList (spaced slices)) = ofSlices slices := by
  rw [ofWire_of_hasLayout (hasLayout_spaced h), slicesOf_spaced h]

theorem ofWire_of_length_ne {text : String} (h : text.length ≠ wireLength) :
    ofWire text = .error (.dateTime (.wrongLength text wireLength)) := by
  rw [ofWire_eq, checkLayout, if_pos h]
  rfl

end DateTime

end CivilTime

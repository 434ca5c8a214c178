import CivilTime.Proofs.FieldTexts

/-!
# Fields of declared kinds

Every kind but the root declares a name and a bound, and any value may be the bound. To check a
value after it is put in, as `Field.new` does, or before, as `Field.tryFrom` does, comes to the same
under every bound, and neither way puts in anything but the value it was given
(`Field.new_tryFrom_cases`). Only integers pass; if the bound counts as a whole number, they are
those from zero up to it (`Field.exists_tryFrom_iff`).

A text that spells a natural number goes the same way as the number (`Field.parse_of_spells`), so
the three checked ways agree (`Field.checked_ways_agree`).
-/

namespace CivilTime.Field

open Text

variable {k : Kind}

/-! ## Two ways to check a value -/

/-- A value is checked with one result, after it is put in as before. What passes is left as it
is. -/
theorem new_tryFrom_cases (h : k ≠ .root) (v : Value) :
    (∃ f, new k v = .ok f ∧ tryFrom k v = .ok f ∧ f = unchecked k v) ∨
      ∃ cause, new k v = .error cause ∧ tryFrom k v = .error cause := by
  rw [new_eq_tryFrom h]
  cases made : tryFrom k v with
  | ok f =>
    obtain ⟨n, rfl, rfl⟩ := exists_int_of_tryFrom made
    exact .inl ⟨_, rfl, rfl, rfl⟩
  | error cause => exact .inr ⟨cause, rfl, rfl⟩

/-- Under a bound that counts as a whole number, the integers from zero up to it pass. -/
theorem exists_tryFrom_iff {name : String} {max : Value} {bound : Int}
    (h : k.declaration? = some (name, max)) (whole : max.integer? = some bound) (v : Value) :
    (∃ f, tryFrom k v = .ok f) ↔ ∃ n : Int, v = .int n ∧ 0 ≤ n ∧ n ≤ bound := by
  constructor
  · rintro ⟨f, made⟩
    obtain ⟨n, rfl, -⟩ := exists_int_of_tryFrom made
    rw [tryFrom_int h whole] at made
    split at made
    · next range => exact ⟨n, rfl, range⟩
    · cases made
  · rintro ⟨n, rfl, range⟩
    exact ⟨_, by rw [tryFrom_int h whole, if_pos range]⟩

/-! ## Texts -/

/-- A text that spells not too many digits goes the way of the number they stand for. -/
theorem parse_of_spells {text : String} {digits : List Char} (h : Spells text digits)
    (short : digits.length ≤ 4300) :
    parse k (.str text) = tryFrom k (.int (decimalValue digits)) := by
  rw [parse_str, readNumeral_of_spells h short, Attempt.ok_bind]

/-- For a kind that declares a name and a bound, whatever the bound is, the two ways to check a
value make the same field, the one that is made without a check, or fail for the same cause. If the
bound counts as a whole number, they succeed on the integers from zero up to it and on nothing else.
And the digits of a natural number, behind any zeros and at most one plus sign and not too many in
all, are read as the number is converted. -/
theorem checked_ways_agree {name : String} {max : Value} (h : k.declaration? = some (name, max)) :
    (∀ v, (∃ f, new k v = .ok f ∧ tryFrom k v = .ok f ∧ f = unchecked k v) ∨
      ∃ cause, new k v = .error cause ∧ tryFrom k v = .error cause) ∧
    (∀ bound, max.integer? = some bound → ∀ v,
      (∃ f, tryFrom k v = .ok f) ↔ ∃ n : Int, v = .int n ∧ 0 ≤ n ∧ n ≤ bound) ∧
    ∀ (text : String) (zeros n : Nat), Spells text (List.replicate zeros '0' ++ naturalDigits n) →
      zeros + (naturalDigits n).length ≤ 4300 → parse k (.str text) = tryFrom k (.int n) := by
  refine ⟨new_tryFrom_cases ?_, fun bound whole => exists_tryFrom_iff h whole,
    fun text zeros n spelled short => ?_⟩
  · rintro rfl
    cases h
  · rw [parse_of_spells spelled (by simpa using short), decimalValue_replicate_append,
      decimalValue_naturalDigits]

/-- A kind of counts up to three, declared as a descendant of the months. -/
def quarter : Kind :=
  .declared 1 "Quarter" (.int 3) (.standard .month)

/-- The last quarter of a year can be given as it is, or as a text with a sign and zeros. -/
theorem ways_to_quarter :
    Kind.declare 1 "Quarter" (some (.int 3)) false (.standard .month) = .ok quarter ∧
      quarter.declaration? = some ("Quarter", .int 3) ∧
      (∃ f, tryFrom quarter (.int 3) = .ok f) ∧ (¬∃ f, tryFrom quarter (.int 4) = .ok f) ∧
      parse quarter (.str "+003") = tryFrom quarter (.int 3) := by
  obtain ⟨-, range, texts⟩ := checked_ways_agree (k := quarter) rfl
  refine ⟨rfl, rfl, (range 3 rfl _).mpr ⟨3, rfl, by decide⟩, fun made => ?_, ?_⟩
  · obtain ⟨n, same, -, upper⟩ := (range 3 rfl _).mp made
    cases same
    exact absurd upper (by decide)
  · have digits : AreDigits (List.replicate 2 '0' ++ naturalDigits 3) :=
      areDigits_append.mpr ⟨areDigits_replicate_zero 2, areDigits_naturalDigits 3⟩
    exact texts "+003" 2 3 ⟨by decide, digits, .inr rfl⟩ (by decide)

/-- Under a bound that is no number, a negative count is found out of range before the bound is
looked at. -/
example : tryFrom (.declared 1 "Odd" (.str "x") .root) (.int (-1)) =
    .error (.dateTime (.overflow (.str "Odd") (.str "x"))) := by
  rfl

end CivilTime.Field

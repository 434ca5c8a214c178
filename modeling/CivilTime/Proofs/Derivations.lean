import CivilTime.DateTime.Clock
import CivilTime.DateTime.Members
import CivilTime.Proofs.RoundTrip

/-!
# What every way to a date-time keeps

A date-time comes about from a text, from six numbers, from a source, or from finished parts, and a
finished part is given, taken over from another date-time, or the sum or difference of one. Texts,
numbers and sums go through the check of their kinds; a part that is given goes through none.

So a property of the fields of a unit that every checked field has (`Certified`) holds of all five
fields of a date-time (`EachField`) as soon as it holds of the parts that were given
(`Value.Suits`). There is one lemma for each way, the last two of them about texts
(`eachField_of_ofWire`) and about one part changed by an amount (`eachField_of_bump`).
-/

namespace CivilTime

/-- A property of the fields of a unit that follows from the check of the unit. -/
def Certified (Q : CalendarUnit → Field → Prop) : Prop :=
  ∀ {u : CalendarUnit} {v : Value} {f : Field}, Field.tryFrom (.standard u) v = .ok f → Q u f

/-- Whether a value has a property if it can be the field of a part. -/
def Value.Suits (Q : CalendarUnit → Field → Prop) (p : Part) (v : Value) : Prop :=
  ∀ {u : CalendarUnit} {f : Field}, p.unit? = some u → Field.ofValue? v = some f →
    f.kind = .standard u → Q u f

theorem certified_kind : Certified fun u f => f.kind = .standard u :=
  fun h => Field.kind_of_tryFrom h

theorem certified_inRange : Certified fun u f => f.InRange u :=
  fun h => Field.inRange_of_tryFrom h (Field.kind_of_tryFrom h)

namespace DateTime

/-- Whether all five fields of a date-time have a property of their units. -/
structure EachField (Q : CalendarUnit → Field → Prop) (dt : DateTime) : Prop where
  month : Q .month dt.month
  day : Q .day dt.day
  hour : Q .hour dt.hour
  minute : Q .minute dt.minute
  second : Q .second dt.second

section

variable {Q : CalendarUnit → Field → Prop}

/-! ## Finished parts -/

theorem ofValue?_of_requireUnit {p : Part} {u : CalendarUnit} {v : Value} {f : Field}
    (h : requireUnit p u v = .ok f) : Field.ofValue? v = some f ∧ f.kind = .standard u := by
  unfold requireUnit at h
  split at h
  · next g hg =>
    split_ifs at h with same
    obtain rfl := Except.ok.inj h
    exact ⟨hg, (Kind.same_standard _ _).mp same⟩
  · cases h

theorem eachField_of_ofParts {parts : Part → Value} (given : ∀ p, (parts p).Suits Q p)
    {dt : DateTime} (h : ofParts parts = .ok dt) : dt.EachField Q := by
  obtain ⟨month, hmonth, h⟩ := Attempt.bind_eq_ok_iff.mp h
  obtain ⟨day, hday, h⟩ := Attempt.bind_eq_ok_iff.mp h
  obtain ⟨hour, hhour, h⟩ := Attempt.bind_eq_ok_iff.mp h
  obtain ⟨minute, hminute, h⟩ := Attempt.bind_eq_ok_iff.mp h
  obtain ⟨second, hsecond, h⟩ := Attempt.bind_eq_ok_iff.mp h
  have field : ∀ {p : Part} {u : CalendarUnit} {f : Field}, p.unit? = some u →
      requireUnit p u (parts p) = .ok f → Q u f := fun hu hf =>
    given _ hu (ofValue?_of_requireUnit hf).1 (ofValue?_of_requireUnit hf).2
  obtain rfl := Except.ok.inj h
  exact
    { month := field rfl hmonth
      day := field rfl hday
      hour := field rfl hhour
      minute := field rfl hminute
      second := field rfl hsecond }

/-- The parts of a date-time suit if its fields do. -/
theorem EachField.suits {dt : DateTime} (h : dt.EachField Q) (p : Part) :
    (dt.part p).Suits Q p := by
  intro u f hu hf _
  cases p with
  | year => cases hu
  | month => cases hu; cases hf; exact h.month
  | day => cases hu; cases hf; exact h.day
  | hour => cases hu; cases hf; exact h.hour
  | minute => cases hu; cases hf; exact h.minute
  | second => cases hu; cases hf; exact h.second

theorem suits_zero (hQ : Certified Q) (p : Part) : p.zero.Suits Q p := by
  intro u f hu hf _
  rw [Part.zero, hu] at hf
  obtain rfl := Option.some.inj hf
  exact hQ (Field.tryFrom_standard_of_le (Int.le_refl 0) u.max_nonneg)

theorem suits_of_setNamed {e : String × Value} (given : ∀ p, e.2.Suits Q p)
    {parts result : Part → Value} (hparts : ∀ p, (parts p).Suits Q p)
    (h : setNamed parts e = .ok result) (p : Part) : (result p).Suits Q p := by
  unfold setNamed at h
  split at h
  · next q _ =>
    obtain rfl := Except.ok.inj h
    by_cases hp : p = q
    · simpa only [if_pos hp] using given p
    · simpa only [if_neg hp] using hparts p
  · split_ifs at h

/-- Setting parts by their names keeps what suits. -/
theorem suits_of_setAll {named : List (String × Value)} (given : ∀ e ∈ named, ∀ p, e.2.Suits Q p)
    {parts result : Part → Value} (hparts : ∀ p, (parts p).Suits Q p)
    (h : setAll parts named = .ok result) : ∀ p, (result p).Suits Q p := by
  induction named generalizing parts with
  | nil =>
    obtain rfl := Except.ok.inj h
    exact hparts
  | cons e rest ih =>
    rw [setAll, List.foldlM_cons] at h
    obtain ⟨next, hnext, h⟩ := Attempt.bind_eq_ok_iff.mp h
    exact ih (fun d hd => given d (List.mem_cons_of_mem e hd))
      (suits_of_setNamed (given e List.mem_cons_self) hparts hnext) h

theorem eachField_of_new (hQ : Certified Q) {named : List (String × Value)}
    (given : ∀ e ∈ named, ∀ p, e.2.Suits Q p) {dt : DateTime} (h : new named = .ok dt) :
    dt.EachField Q := by
  obtain ⟨parts, hparts, h⟩ := Attempt.bind_eq_ok_iff.mp h
  exact eachField_of_ofParts (suits_of_setAll given (suits_zero hQ) hparts) h

theorem eachField_of_replace {named : List (String × Value)}
    (given : ∀ e ∈ named, ∀ p, e.2.Suits Q p) {dt result : DateTime} (hdt : dt.EachField Q)
    (h : dt.replace named = .ok result) : result.EachField Q := by
  obtain ⟨parts, hparts, h⟩ := Attempt.bind_eq_ok_iff.mp h
  exact eachField_of_ofParts (suits_of_setAll given hdt.suits hparts) h

/-! ## Numbers and sources -/

theorem eachField_of_tryNew (hQ : Certified Q) {year month day hour minute second : Value}
    {dt : DateTime} (h : tryNew year month day hour minute second = .ok dt) :
    dt.EachField Q := by
  obtain ⟨m, hmonth, h⟩ := Attempt.bind_eq_ok_iff.mp h
  obtain ⟨d, hday, h⟩ := Attempt.bind_eq_ok_iff.mp h
  obtain ⟨k, hhour, h⟩ := Attempt.bind_eq_ok_iff.mp h
  obtain ⟨n, hminute, h⟩ := Attempt.bind_eq_ok_iff.mp h
  obtain ⟨s, hsecond, h⟩ := Attempt.bind_eq_ok_iff.mp h
  obtain rfl := Except.ok.inj h
  exact ⟨hQ hmonth, hQ hday, hQ hhour, hQ hminute, hQ hsecond⟩

theorem eachField_of_tryNewOf (hQ : Certified Q) {numbers : List Value} {dt : DateTime}
    (h : tryNewOf numbers = .ok dt) : dt.EachField Q := by
  unfold tryNewOf at h
  split at h
  · exact eachField_of_tryNew hQ h
  · split_ifs at h

theorem eachField_of_ofSource (hQ : Certified Q) {s : Source} {dt : DateTime}
    (h : ofSource s = .ok dt) : dt.EachField Q := by
  obtain ⟨_, -, h⟩ := Attempt.bind_eq_ok_iff.mp h
  obtain ⟨year, -, h⟩ := Attempt.bind_eq_ok_iff.mp h
  obtain ⟨_, -, h⟩ := Attempt.bind_eq_ok_iff.mp h
  obtain ⟨month, -, h⟩ := Attempt.bind_eq_ok_iff.mp h
  obtain ⟨_, -, h⟩ := Attempt.bind_eq_ok_iff.mp h
  obtain ⟨day, -, h⟩ := Attempt.bind_eq_ok_iff.mp h
  obtain ⟨hour, -, h⟩ := Attempt.bind_eq_ok_iff.mp h
  obtain ⟨minute, -, h⟩ := Attempt.bind_eq_ok_iff.mp h
  obtain ⟨second, -, h⟩ := Attempt.bind_eq_ok_iff.mp h
  exact eachField_of_tryNew hQ h

/-! ## Texts -/

/-- Integers in the ranges of their units pass the check. -/
theorem eachField_ofCounts (hQ : Certified Q) {c : Part → Int} (h : (ofCounts c).Holds c) :
    (ofCounts c).EachField Q where
  month := hQ (Field.tryFrom_standard_of_le h.month.nonneg h.month.le_max)
  day := hQ (Field.tryFrom_standard_of_le h.day.nonneg h.day.le_max)
  hour := hQ (Field.tryFrom_standard_of_le h.hour.nonneg h.hour.le_max)
  minute := hQ (Field.tryFrom_standard_of_le h.minute.nonneg h.minute.le_max)
  second := hQ (Field.tryFrom_standard_of_le h.second.nonneg h.second.le_max)

theorem eachField_of_ofWire (hQ : Certified Q) {text : String} {dt : DateTime}
    (h : ofWire text = .ok dt) : dt.EachField Q := by
  obtain ⟨-, -, ranges, rfl⟩ := ofWire_eq_ok_iff.mp h
  exact eachField_ofCounts hQ ranges.holds

theorem eachField_of_parse (hQ : Certified Q) {v : Value} {dt : DateTime}
    (h : (parse v).outcome = .ok dt) : dt.EachField Q := by
  cases v with
  | str text => exact eachField_of_ofWire hQ ((outcome_parseText text).symm.trans h)
  | _ => cases h

/-! ## One part changed by an amount -/

/-- The sum or difference of two numbers is no field. -/
theorem ofValue?_of_onNumbers {op : Operation} {x y : Number} {v : Value}
    (h : op.onNumbers x y = .ok v) : Field.ofValue? v = none := by
  unfold Operation.onNumbers at h
  split at h
  · obtain rfl := Except.ok.inj h
    rfl
  · unfold Operation.onConverted at h
    split at h
    · obtain rfl := Except.ok.inj h
      rfl
    · cases h

/-- Only a field has a sum or difference that is a field. -/
theorem exists_combine_of_ofValue? {op : Operation} {a b v : Value} {f : Field}
    (h : a.combine op b = .ok v) (hf : Field.ofValue? v = some f) :
    ∃ g : Field, g.combine op b = .ok f := by
  unfold Value.combine at h
  split at h
  · next kind value =>
    refine ⟨⟨kind, value⟩, ?_⟩
    split at h
    · obtain ⟨sum, hsum, h⟩ := Attempt.bind_eq_ok_iff.mp h
      obtain ⟨g, hg, h⟩ := Attempt.bind_eq_ok_iff.mp h
      obtain rfl := Except.ok.inj h
      rw [Field.ofValue?_toValue] at hf
      obtain rfl := Option.some.inj hf
      exact Attempt.bind_eq_ok_iff.mpr ⟨sum, hsum, hg⟩
    · cases h
  · split at h <;> cases h
    cases hf
  · split at h <;> cases h
    cases hf
  · split at h
    · exact absurd (ofValue?_of_onNumbers h) (by simp [hf])
    · cases h

theorem suits_of_combine (hQ : Certified Q) {op : Operation} {a b v : Value}
    (h : a.combine op b = .ok v) (p : Part) : v.Suits Q p := by
  intro u f _ hf hkind
  obtain ⟨g, hg⟩ := exists_combine_of_ofValue? h hf
  obtain ⟨w, hw⟩ := Field.exists_tryFrom_of_combine hg
  rw [Field.kind_of_tryFrom hw] at hkind
  exact hQ (hkind ▸ hw)

theorem eachField_of_bump (hQ : Certified Q) {dt result : DateTime} (hdt : dt.EachField Q)
    {name : String} {op : Operation} {amount : Value}
    (h : dt.bump name op amount = .ok result) : result.EachField Q := by
  unfold bump at h
  split at h
  · obtain ⟨v, hv, h⟩ := Attempt.bind_eq_ok_iff.mp h
    refine eachField_of_replace (fun e he p => ?_) hdt h
    obtain rfl := List.mem_singleton.mp he
    exact suits_of_combine hQ hv p
  · obtain ⟨_, -, h⟩ := Attempt.bind_eq_ok_iff.mp h
    obtain ⟨_, -, h⟩ := Attempt.bind_eq_ok_iff.mp h
    cases h

end

end DateTime

end CivilTime

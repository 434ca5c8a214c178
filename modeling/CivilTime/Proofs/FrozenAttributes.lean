import CivilTime.Session
import Mathlib.Data.List.Basic

/-!
# Frozen attributes

A date-time refuses every change of its attributes, and so does a field of the root itself. A field
of any other kind refuses to have its value changed and nothing else
(`Instance.frozen_iff_root_or_value`) : the freeze does not come down from the root to the kinds
that descend from it.

What else is assigned to such a field becomes an attribute of it, and can be deleted again
(`Instance.Assigned`, `Instance.Deleted`). Three names stand apart. Two of them cannot be changed
for reasons of their own. The third one stands for all attributes together, so whoever deletes it
deletes the value as well, and zero comes in its place (`Instance.Deleted.toField_change`).
-/

namespace CivilTime

/-- What is found after the entries of a key are taken out. -/
theorem lookup_filter_ne {α : Type} (entries : List (String × α)) (key other : String) :
    lookup other (entries.filter fun e => e.1 ≠ key) =
      if key = other then none else lookup other entries := by
  induction entries with
  | nil => simp
  | cons e entries ih =>
    rw [List.filter_cons, lookup_cons]
    by_cases out : e.1 = key
    · rw [if_neg (by simpa using out), ih, out]
      split_ifs <;> rfl
    · rw [if_pos (by simpa using out), lookup_cons, ih]
      by_cases here : e.1 = other
      · rw [if_pos here, if_pos here, if_neg (here ▸ Ne.symm out)]
      · rw [if_neg here, if_neg here]

theorem any_key_iff_lookup_ne_none {α : Type} {entries : List (String × α)} {key : String} :
    (entries.any fun e => e.1 = key) = true ↔ lookup key entries ≠ none := by
  simp only [ne_eq, lookup_eq_none_iff, List.any_eq_true, decide_eq_true_eq, not_forall, not_not,
    exists_prop]

namespace Instance

variable {i : Instance} {name : String} {v : Value}

theorem isFrozen_iff : i.isFrozen name = true ↔ i.kind = .root ∨ name = "value" := by
  obtain ⟨kind, members⟩ := i
  cases kind <;> simp [isFrozen]

/-! ## Changes of what is not frozen -/

/-- The names that are not kept among the attributes. -/
def ownNames : List String :=
  ["__class__", "__weakref__", "__dict__"]

/-- The endings of an assignment to an attribute that is not frozen. -/
inductive Assigned (i : Instance) (name : String) (v : Value) : Attempt Instance → Prop
  /-- The attribute has the value, and the others are as they were. -/
  | put {members : List (String × Value)} : name ∉ ownNames →
    (∀ other, lookup other members = if name = other then some v else lookup other i.members) →
    Assigned i name v (.ok ⟨i.kind, members⟩)
  /-- The entries of a mapping take the place of all attributes. -/
  | replaced {entries : List (String × Value)} : name = "__dict__" → v = .dict entries →
    Assigned i name v (.ok ⟨i.kind, entries⟩)
  /-- The name is not one of an attribute. -/
  | refused {cause : Failure} : name ∈ ownNames →
    (name = "__dict__" → ∀ entries, v ≠ .dict entries) → (∀ fault, cause ≠ .frozen fault) →
    Assigned i name v (.error cause)

/-- The endings of the deletion of an attribute that is not frozen. -/
inductive Deleted (i : Instance) (name : String) : Attempt Instance → Prop
  /-- The attribute was there and is gone, and the others are as they were. -/
  | removed {members : List (String × Value)} : name ∉ ownNames → lookup name i.members ≠ none →
    (∀ other, lookup other members = if name = other then none else lookup other i.members) →
    Deleted i name (.ok ⟨i.kind, members⟩)
  /-- There was no such attribute. -/
  | absent : name ∉ ownNames → lookup name i.members = none →
    Deleted i name (.error (.member (.absent i.kind.typeName name)))
  /-- All attributes are gone. -/
  | emptied : name = "__dict__" → Deleted i name (.ok ⟨i.kind, []⟩)
  /-- The name is not one of an attribute. -/
  | refused {cause : Failure} : name ∈ ownNames → name ≠ "__dict__" →
    (∀ fault, cause ≠ .frozen fault) → Deleted i name (.error cause)

theorem assign_of_isFrozen (h : i.isFrozen name = true) (v : Value) :
    i.assign name v = .error (.frozen (.assign name)) :=
  if_pos h

theorem delete_of_isFrozen (h : i.isFrozen name = true) :
    i.delete name = .error (.frozen (.delete name)) :=
  if_pos h

theorem assigned_assign (h : i.isFrozen name ≠ true) (v : Value) :
    Assigned i name v (i.assign name v) := by
  unfold assign
  rw [if_neg h]
  split_ifs with type weak all
  · exact .refused (by simp [type, ownNames]) (by simp [type]) nofun
  · exact .refused (by simp [weak, ownNames]) (by simp [weak]) nofun
  · cases v with
    | dict entries => exact .replaced all rfl
    | _ => exact .refused (by simp [all, ownNames]) (fun _ => nofun) nofun
  · exact .put (by simp [type, weak, all, ownNames]) (lookup_insertEntry i.members name · v)

theorem deleted_delete (h : i.isFrozen name ≠ true) : Deleted i name (i.delete name) := by
  unfold delete
  rw [if_neg h]
  split_ifs with type weak all found
  · exact .refused (by simp [type, ownNames]) (by simp [type]) nofun
  · exact .refused (by simp [weak, ownNames]) (by simp [weak]) nofun
  · exact .emptied all
  · exact .removed (by simp [type, weak, all, ownNames]) (any_key_iff_lookup_ne_none.mp found)
      (lookup_filter_ne i.members name)
  · exact .absent (by simp [type, weak, all, ownNames])
      (not_not.mp fun there => found (any_key_iff_lookup_ne_none.mpr there))

/-- The value of a field stays unless all attributes are replaced. -/
theorem Assigned.toField_change {r : Attempt Instance} (h : Assigned i name v r)
    (other : name ≠ "value") (mapping : name = "__dict__" → ∀ entries, v ≠ .dict entries) :
    (i.change r).1.toField = i.toField := by
  cases h with
  | put _ lookups =>
    have kept := lookups "value"
    rw [if_neg other] at kept
    simp only [change, toField, value, kept]
  | replaced all replaced => exact absurd replaced (mapping all _)
  | refused => rfl

/-- The value of a field stays unless all attributes are deleted, and then it is zero. -/
theorem Deleted.toField_change {r : Attempt Instance} (h : Deleted i name r)
    (other : name ≠ "value") : (i.change r).1.toField =
      if name = "__dict__" then ⟨i.kind, .int 0⟩ else i.toField := by
  cases h with
  | removed own _ lookups =>
    have kept := lookups "value"
    rw [if_neg other] at kept
    rw [if_neg fun all => own (by simp [all, ownNames])]
    simp only [change, toField, value, kept]
  | absent own =>
    rw [if_neg fun all => own (by simp [all, ownNames])]
    rfl
  | emptied all =>
    rw [if_pos all]
    rfl
  | refused _ all =>
    rw [if_neg all]
    rfl

/-! ## What is frozen -/

/-- A change that is not frozen is not refused as frozen. -/
theorem Assigned.ne_frozen {r : Attempt Instance} (h : Assigned i name v r) (fault : FrozenFault) :
    r ≠ .error (.frozen fault) := by
  cases h with
  | put | replaced => exact nofun
  | refused _ _ other => exact fun same => other fault (Except.error.inj same)

theorem Deleted.ne_frozen {r : Attempt Instance} (h : Deleted i name r) (fault : FrozenFault) :
    r ≠ .error (.frozen fault) := by
  cases h with
  | removed | absent | emptied => exact nofun
  | refused _ _ other => exact fun same => other fault (Except.error.inj same)

/-- A change is answered with a failure exactly if it fails so. -/
theorem change_eq_error_iff {result : Attempt Instance} {cause : Failure} :
    i.change result = (i, .error cause) ↔ result = .error cause := by
  cases result <;> simp [change]

theorem assign_eq_frozen_iff : i.assign name v = .error (.frozen (.assign name)) ↔
    i.kind = .root ∨ name = "value" := by
  rw [← isFrozen_iff]
  refine ⟨fun refused => ?_, fun h => assign_of_isFrozen h v⟩
  by_contra free
  exact (assigned_assign free v).ne_frozen _ refused

theorem delete_eq_frozen_iff : i.delete name = .error (.frozen (.delete name)) ↔
    i.kind = .root ∨ name = "value" := by
  rw [← isFrozen_iff]
  refine ⟨fun refused => ?_, delete_of_isFrozen⟩
  by_contra free
  exact (deleted_delete free).ne_frozen _ refused

end Instance

namespace Session

variable {slots : Slots} {slot : String} {dt : DateTime}

/-- No attribute of a date-time can be assigned. -/
theorem step_assign_dateTime (h : lookup slot slots = some (.dateTime dt)) (name : String)
    (v : Value) (to? : Option String) : step slots ⟨.assign slot name (.ok v), to?⟩ =
      (slots, ⟨[], [], .error (.frozen (.assign name))⟩) := by
  have found : slots.get slot = .ok (.dateTime dt) := by
    rw [Slots.get, h]
  simp only [step, Action.result, found]
  rfl

/-- No attribute of a date-time can be deleted. -/
theorem step_delete_dateTime (h : lookup slot slots = some (.dateTime dt)) (name : String)
    (to? : Option String) : step slots ⟨.delete slot name, to?⟩ =
      (slots, ⟨[], [], .error (.frozen (.delete name))⟩) := by
  have found : slots.get slot = .ok (.dateTime dt) := by
    rw [Slots.get, h]
  simp only [step, Action.result, found]
  rfl

end Session

namespace Instance

/-- An attribute of a field can be neither assigned nor deleted, and the field keeps the attributes
it has, exactly if it is a field of the root itself or the attribute is its value. Of a field of any
other kind every other attribute can be assigned and, if it is there, deleted, but for the three
names that stand apart. No attribute of a date-time can be assigned or deleted, and it stays as it
is. -/
theorem frozen_iff_root_or_value (i : Instance) (name : String) (v : Value) :
    (i.step (.assign name v) = (i, .error (.frozen (.assign name))) ↔
      i.kind = .root ∨ name = "value") ∧
    (i.step (.delete name) = (i, .error (.frozen (.delete name))) ↔
      i.kind = .root ∨ name = "value") ∧
    (i.kind ≠ .root → name ≠ "value" →
      Assigned i name v (i.assign name v) ∧ Deleted i name (i.delete name)) ∧
    ∀ (slots : Slots) (slot : String) (dt : DateTime) (to? : Option String),
      lookup slot slots = some (.dateTime dt) →
        Session.step slots ⟨.assign slot name (.ok v), to?⟩ =
          (slots, ⟨[], [], .error (.frozen (.assign name))⟩) ∧
        Session.step slots ⟨.delete slot name, to?⟩ =
          (slots, ⟨[], [], .error (.frozen (.delete name))⟩) := by
  refine ⟨change_eq_error_iff.trans assign_eq_frozen_iff,
    change_eq_error_iff.trans delete_eq_frozen_iff, fun kind other => ?_, fun _ _ _ to? h => ?_⟩
  · have free : i.isFrozen name ≠ true := fun frozen =>
      (isFrozen_iff.mp frozen).elim kind other
    exact ⟨assigned_assign free v, deleted_delete free⟩
  · exact ⟨Session.step_assign_dateTime h name v to?, Session.step_delete_dateTime h name to?⟩

/-- The fifth of the stored months, with a note. -/
def annotatedMonth : Instance :=
  ⟨.standard .month, [("value", .int 5), ("note", .str "x")]⟩

/-- The value of a month stays, while a note is replaced or taken off; a date-time takes no note. -/
theorem changes_of_annotatedMonth :
    annotatedMonth.step (.delete "value") = (annotatedMonth, .error (.frozen (.delete "value"))) ∧
      (∃ i, annotatedMonth.assign "note" .null = .ok i ∧ lookup "note" i.members = some .null) ∧
      (∃ i, annotatedMonth.delete "note" = .ok i ∧ lookup "note" i.members = none) ∧
      ∀ dt, Session.step [("a", .dateTime dt)] ⟨.assign "a" "note" (.ok .null), none⟩ =
        ([("a", .dateTime dt)], ⟨[], [], .error (.frozen (.assign "note"))⟩) := by
  obtain ⟨-, delete, -, -⟩ := frozen_iff_root_or_value annotatedMonth "value" .null
  obtain ⟨-, -, free, frozen⟩ := frozen_iff_root_or_value annotatedMonth "note" .null
  obtain ⟨assigned, deleted⟩ := free nofun (by decide)
  refine ⟨delete.mpr (.inr rfl), ?_, ?_, fun dt => (frozen _ "a" dt none rfl).1⟩
  · generalize annotatedMonth.assign "note" .null = r at assigned
    cases assigned with
    | put _ lookups => exact ⟨_, rfl, lookups "note"⟩
    | replaced all => exact absurd all (by decide)
    | refused own => exact absurd own (by decide)
  · generalize annotatedMonth.delete "note" = r at deleted
    cases deleted with
    | removed _ _ lookups => exact ⟨_, rfl, lookups "note"⟩
    | absent _ missing => cases missing
    | emptied all => exact absurd all (by decide)
    | refused own => exact absurd own (by decide)

/-- Not every field is frozen in all its attributes : a month takes a note. -/
theorem not_frozen_of_note : ¬∀ (f : Field) (name : String) (v : Value),
    (ofField f).step (.assign name v) = (ofField f, .error (.frozen (.assign name))) ∧
      (ofField f).step (.delete name) = (ofField f, .error (.frozen (.delete name))) := by
  intro all
  have refused := (all ⟨.standard .month, .int 5⟩ "note" (.str "x")).1
  cases refused

end Instance

end CivilTime

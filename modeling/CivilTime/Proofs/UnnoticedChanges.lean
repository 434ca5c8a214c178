import CivilTime.Proofs.FrozenAttributes
import CivilTime.Proofs.Sessions

/-!
# Runs with attempts to change attributes

A run goes as if its changes of attributes were left out if all other steps have the same answers
and the same is left in the end (`Instance.Unnoticed`, `Session.Unnoticed`).

For sessions this is always so : every change of a date-time or a finding fails and leaves all slots
as they were (`Session.unnoticed`). For a field it is so as long as nobody deletes the mapping of
all its attributes. Whoever does puts zero in the place of the value, so this is noticed unless the
value is zero already (`Instance.unnoticed_iff_keepsValue`). Attributes of other names, be they
those of the bound, the name or the operations of a kind, change nothing, since what a field answers
depends on its kind and its value alone (`Instance.step_congr`).
-/

namespace CivilTime

/-! ## Leaving steps out -/

section

variable {σ α : Type} {p : σ → Bool} {s : σ}

/-- The answers of a run to the steps that have a property. -/
def answersTo (p : σ → Bool) (steps : List σ) (answers : List α) : List α :=
  ((steps.zip answers).filter fun x => p x.1).map Prod.snd

theorem answersTo_cons_of_pos (h : p s = true) (steps : List σ) (a : α) (answers : List α) :
    answersTo p (s :: steps) (a :: answers) = a :: answersTo p steps answers := by
  rw [answersTo, List.zip_cons_cons, List.filter_cons_of_pos (by simpa using h), List.map_cons]
  rfl

theorem answersTo_cons_of_neg (h : ¬p s = true) (steps : List σ) (a : α) (answers : List α) :
    answersTo p (s :: steps) (a :: answers) = answersTo p steps answers := by
  rw [answersTo, List.zip_cons_cons, List.filter_cons_of_neg (by simpa using h)]
  rfl

end

/-- Kinds that are the same one are both the root or neither. -/
theorem Kind.eq_root_iff_of_same {k l : Kind} (h : k.same l = true) : k = .root ↔ l = .root := by
  cases k <;> cases l <;> simp [same] at h ⊢

namespace Step

/-- Whether a step leaves the attributes alone. -/
def keepsAttributes : Step → Bool
  | .assign .. => false
  | .delete .. => false
  | _ => true

/-- Whether a step puts a mapping in the place of all attributes. -/
def ReplacesAll (s : Step) : Prop :=
  ∃ entries, s = .assign "__dict__" (.dict entries)

end Step

namespace Instance

variable {i j : Instance} {s : Step} {rest : List Step}

/-! ## One step of a run on a field -/

/-- What a field answers, and what field it becomes, depends on its kind and value alone. -/
theorem step_congr (h : i.toField = j.toField) (keeps : s.keepsAttributes = true) :
    (i.step s).2 = (j.step s).2 ∧ (i.step s).1.toField = (j.step s).1.toField := by
  cases s with
  | ask q =>
    have kind : i.kind = j.kind := congrArg Field.kind h
    have answer : (i.step (.ask q)).2 = (j.step (.ask q)).2 := by
      simp only [step, h]
    refine ⟨answer, ?_⟩
    show (i.after (q.answer i.toField)).toField = (j.after (q.answer j.toField)).toField
    rw [h]
    generalize q.answer j.toField = a
    unfold after
    split
    · rw [kind]
      split_ifs
      · rfl
      · exact h
    · exact h
  | refused cause => exact ⟨rfl, h⟩
  | assign name v => cases keeps
  | delete name => cases keeps

/-- An assignment leaves the value of a field as it was. -/
theorem toField_step_assign (i : Instance) {name : String} {v : Value}
    (one : ¬(Step.assign name v).ReplacesAll) : (i.step (.assign name v)).1.toField = i.toField := by
  show (i.change (i.assign name v)).1.toField = i.toField
  by_cases frozen : i.isFrozen name = true
  · rw [assign_of_isFrozen frozen]
    rfl
  · have other : name ≠ "value" := fun same => frozen (isFrozen_iff.mpr (.inr same))
    exact (assigned_assign frozen v).toField_change other fun all entries mapping =>
      one ⟨entries, by rw [all, mapping]⟩

/-- A deletion leaves the value of a field as it was, unless it takes all attributes away. -/
theorem toField_step_delete (i : Instance) (name : String) :
    (i.step (.delete name)).1.toField =
      if name = "__dict__" ∧ i.isFrozen name = false then ⟨i.kind, .int 0⟩ else i.toField := by
  show (i.change (i.delete name)).1.toField = _
  by_cases frozen : i.isFrozen name = true
  · rw [delete_of_isFrozen frozen, if_neg fun h => by simp [frozen] at h]
    rfl
  · have other : name ≠ "value" := fun same => frozen (isFrozen_iff.mpr (.inr same))
    rw [(deleted_delete frozen).toField_change other]
    simp only [Bool.eq_false_iff.mpr frozen, and_true]

/-- The root stays the root, and no other kind becomes the root. -/
theorem kind_step_eq_root_iff (i : Instance) (one : ¬s.ReplacesAll) :
    (i.step s).1.kind = .root ↔ i.kind = .root := by
  cases s with
  | ask q =>
    show (i.after (q.answer i.toField)).kind = .root ↔ i.kind = .root
    unfold after
    split
    · split_ifs with same
      · exact Kind.eq_root_iff_of_same same
      · rfl
    · rfl
  | refused cause => rfl
  | assign name v =>
    have kept : (i.step (.assign name v)).1.kind = i.kind :=
      congrArg Field.kind (i.toField_step_assign one)
    rw [kept]
  | delete name =>
    have kept : (i.step (.delete name)).1.kind = i.kind := by
      show (i.step (.delete name)).1.toField.kind = i.kind
      rw [toField_step_delete]
      split_ifs <;> rfl
    rw [kept]

theorem kind_final_eq_root_iff (i : Instance) {steps : List Step}
    (each : ∀ s ∈ steps, ¬s.ReplacesAll) : (i.final steps).kind = .root ↔ i.kind = .root := by
  induction steps generalizing i with
  | nil => rfl
  | cons s rest ih =>
    obtain ⟨one, later⟩ := List.forall_mem_cons.mp each
    exact (ih (i.step s).1 later).trans (i.kind_step_eq_root_iff one)

/-! ## Runs on a field -/

/-- Whether a run goes as if its changes of attributes were left out : the other steps have the same
answers, with the same value after each of them, and the same field is left in the end. -/
structure Unnoticed (i : Instance) (steps : List Step) : Prop where
  answers : answersTo Step.keepsAttributes steps (i.run steps) =
    i.run (steps.filter Step.keepsAttributes)
  last : (i.final steps).toField = (i.final (steps.filter Step.keepsAttributes)).toField

/-- Whether all attributes are deleted of the root's own fields only, and of fields that wrap
zero. -/
def KeepsValue (i : Instance) (steps : List Step) : Prop :=
  ∀ before, before ++ [.delete "__dict__"] <+: steps →
    i.kind = .root ∨ (i.final before).value = .int 0

theorem keepsValue_of_not_mem {steps : List Step} (h : .delete "__dict__" ∉ steps) (i : Instance) :
    i.KeepsValue steps :=
  fun _ deleted => absurd (deleted.subset (List.mem_append_right _ (List.mem_singleton_self _))) h

theorem KeepsValue.tail (h : i.KeepsValue (s :: rest)) (one : ¬s.ReplacesAll) :
    (i.step s).1.KeepsValue rest := by
  intro before deleted
  rw [i.kind_step_eq_root_iff one]
  exact h (s :: before) (List.cons_prefix_cons.mpr ⟨rfl, deleted⟩)

/-- A change of attributes leaves the value as it was. -/
theorem KeepsValue.toField_step (h : i.KeepsValue (s :: rest)) (one : ¬s.ReplacesAll)
    (change : ¬s.keepsAttributes = true) : (i.step s).1.toField = i.toField := by
  cases s with
  | ask q => exact absurd rfl change
  | refused cause => exact absurd rfl change
  | assign name v => exact i.toField_step_assign one
  | delete name =>
    rw [toField_step_delete]
    split_ifs with all
    · obtain ⟨rfl, free⟩ := all
      rcases h [] (by simp) with root | zero
      · exact absurd (isFrozen_iff.mpr (.inl root)) (Bool.eq_false_iff.mp free)
      · rw [toField, ← zero]
        rfl
    · rfl

/-- Fields of one kind and value have the same runs, with the changes of attributes and without. A
step that is no such change is made in both runs and answered in the same way; any other one leaves
the value of the first field as it was. -/
theorem run_congr (steps : List Step) (h : i.toField = j.toField)
    (each : ∀ s ∈ steps, ¬s.ReplacesAll) (value : i.KeepsValue steps) :
    answersTo Step.keepsAttributes steps (i.run steps) =
        j.run (steps.filter Step.keepsAttributes) ∧
      (i.final steps).toField = (j.final (steps.filter Step.keepsAttributes)).toField := by
  induction steps generalizing i j with
  | nil => exact ⟨rfl, h⟩
  | cons s rest ih =>
    obtain ⟨one, later⟩ := List.forall_mem_cons.mp each
    have final : i.final (s :: rest) = (i.step s).1.final rest := rfl
    by_cases keeps : s.keepsAttributes = true
    · obtain ⟨answer, next⟩ := step_congr h keeps
      obtain ⟨answers, last⟩ := ih next later (value.tail one)
      have valueAfter : (i.step s).1.value = (j.step s).1.value := congrArg Field.value next
      rw [run, answersTo_cons_of_pos keeps, List.filter_cons_of_pos keeps, run, answer, valueAfter,
        answers, final, last]
      exact ⟨rfl, rfl⟩
    · have stays := (value.toField_step one keeps).trans h
      rw [run, answersTo_cons_of_neg keeps, List.filter_cons_of_neg keeps, final]
      exact ih stays later (value.tail one)

/-- If the deletion of all attributes goes unnoticed, the value is zero already. -/
theorem value_eq_zero_of_unnoticed {before : List Step} (kind : (i.final before).kind ≠ .root)
    (h : i.Unnoticed before) (h' : i.Unnoticed (before ++ [.delete "__dict__"])) :
    (i.final before).value = .int 0 := by
  have free : (i.final before).isFrozen "__dict__" = false :=
    Bool.eq_false_iff.mpr fun frozen => (isFrozen_iff.mp frozen).elim kind (by decide)
  have deleted : (i.final (before ++ [.delete "__dict__"])).toField =
      ⟨(i.final before).kind, .int 0⟩ := by
    rw [final, List.foldl_append]
    exact ((i.final before).toField_step_delete "__dict__").trans (if_pos ⟨rfl, free⟩)
  have leftOut : (before ++ [Step.delete "__dict__"]).filter Step.keepsAttributes =
      before.filter Step.keepsAttributes := by
    simp [List.filter_append, Step.keepsAttributes]
  have same := h'.last
  rw [leftOut, ← h.last, deleted] at same
  exact (congrArg Field.value same).symm

end Instance

/-! ## Runs of sessions -/

namespace Session

/-- Whether a step of a session leaves the attributes of answers alone. -/
def Step.keepsAttributes (s : Step) : Bool :=
  match s.action with
  | .assign .. => false
  | .delete .. => false
  | _ => true

/-- Whether a run goes as if its changes of attributes were left out : each of them fails, the other
steps have the same answers, and the same is left in the slots. -/
structure Unnoticed (slots : Slots) (steps : List Step) : Prop where
  refused : ∀ x ∈ steps.zip (run slots steps), x.1.keepsAttributes = false →
    ∃ cause, x.2.outcome = .error cause
  answers : answersTo Step.keepsAttributes steps (run slots steps) =
    run slots (steps.filter Step.keepsAttributes)
  last : final slots steps = final slots (steps.filter Step.keepsAttributes)

theorem outcome_step_ne_ok {s : Step} (change : ¬s.keepsAttributes = true) (slots : Slots)
    (a : Answer) : (step slots s).2.outcome ≠ .ok a := by
  intro h
  obtain ⟨action, to?⟩ := s
  cases action with
  | derive how => exact change rfl
  | ask question => exact change rfl
  | assign slot name value =>
    obtain ⟨b, -, h⟩ := Traced.outcome_bind_eq_ok_iff.mp h
    obtain ⟨v, -, h⟩ := Traced.outcome_bind_eq_ok_iff.mp h
    exact b.assign_ne_ok name v a h
  | delete slot name =>
    obtain ⟨b, -, h⟩ := Traced.outcome_bind_eq_ok_iff.mp h
    exact b.delete_ne_ok name a h

/-- A change of attributes fails and leaves all slots as they were. -/
theorem step_of_change {s : Step} (change : ¬s.keepsAttributes = true) (slots : Slots) :
    (∃ cause, (step slots s).2.outcome = .error cause) ∧ (step slots s).1 = slots := by
  cases outcome : (step slots s).2.outcome with
  | ok a => exact absurd outcome (outcome_step_ne_ok change slots a)
  | error cause =>
    refine ⟨⟨cause, rfl⟩, ?_⟩
    show slotsAfter slots s.target? (step slots s).2.outcome = slots
    rw [outcome]
    cases s.target? <;> rfl

theorem unnoticed (slots : Slots) (steps : List Step) : Unnoticed slots steps := by
  induction steps generalizing slots with
  | nil => exact ⟨by simp [run], rfl, rfl⟩
  | cons s rest ih =>
    have next : final slots (s :: rest) = final (step slots s).1 rest := rfl
    have later := ih (step slots s).1
    by_cases keeps : s.keepsAttributes = true
    · refine ⟨fun x hx change => ?_, ?_, ?_⟩
      · rcases List.mem_cons.mp hx with rfl | hx
        · exact absurd keeps (Bool.eq_false_iff.mp change)
        · exact later.refused x hx change
      · rw [run, answersTo_cons_of_pos keeps, List.filter_cons_of_pos keeps, run, later.answers]
      · rw [next, List.filter_cons_of_pos keeps, later.last]
        rfl
    · obtain ⟨failed, stays⟩ := step_of_change keeps slots
      rw [stays] at later next
      refine ⟨fun x hx change => ?_, ?_, ?_⟩
      · rw [run, stays] at hx
        rcases List.mem_cons.mp hx with rfl | hx
        · exact failed
        · exact later.refused x hx change
      · rw [run, stays, answersTo_cons_of_neg keeps, List.filter_cons_of_neg keeps, later.answers]
      · rw [next, List.filter_cons_of_neg keeps, later.last]

end Session

namespace Instance

/-- Changes of the attributes of a field, none of which puts a mapping in the place of all of them,
go unnoticed up to every place of a run exactly if all attributes are deleted of the root's own
fields only, and of fields that wrap zero. Changes of the attributes of date-times fail and go
unnoticed in every session. -/
theorem unnoticed_iff_keepsValue (i : Instance) (steps : List Step)
    (each : ∀ s ∈ steps, ¬s.ReplacesAll) :
    ((∀ before, before <+: steps → i.Unnoticed before) ↔ i.KeepsValue steps) ∧
      ∀ (slots : Slots) (session : List Session.Step), Session.Unnoticed slots session := by
  refine ⟨⟨fun unnoticed before h => ?_, fun value before h => ?_⟩, Session.unnoticed⟩
  · have earlier : before <+: steps := (List.prefix_append before _).trans h
    by_cases root : i.kind = .root
    · exact .inl root
    · have kind : (i.final before).kind ≠ .root :=
        mt (i.kind_final_eq_root_iff fun s hs => each s (earlier.subset hs)).mp root
      exact .inr (value_eq_zero_of_unnoticed kind (unnoticed before earlier) (unnoticed _ h))
  · obtain ⟨answers, last⟩ := run_congr before (rfl : i.toField = i.toField)
      (fun s hs => each s (h.subset hs)) fun earlier deleted => value earlier (deleted.trans h)
    exact ⟨answers, last⟩

/-- Two sums with vain attempts to raise the bound, to set the value back and to change the
kind. -/
def meddledSums : List Step :=
  [.assign "MAX" (.int 99), .ask (.add (.int 1)), .delete "MAX", .assign "value" (.int 0),
    .delete "value", .ask (.add (.int 1)), .assign "__class__" (.str "Hour"), .ask .display]

/-- The last minute but one is raised once, and not beyond the bound of its kind. -/
theorem unnoticed_meddledSums :
    (ofField ⟨.standard .minute, .int 59⟩).Unnoticed meddledSums ∧
      answersTo Step.keepsAttributes meddledSums
          ((ofField ⟨.standard .minute, .int 59⟩).run meddledSums) =
        [(.ok (.field (.standard .minute) (.int 60)), .int 60),
          (.error (.dateTime (.overflow (.str "Minute") (.int 60))), .int 60),
          (.ok (.str "Minute(value=60)"), .int 60)] := by
  have unnoticed : (ofField ⟨.standard .minute, .int 59⟩).Unnoticed meddledSums :=
    (unnoticed_iff_keepsValue _ meddledSums (by simp [meddledSums, Step.ReplacesAll])).1.mpr
      (keepsValue_of_not_mem (by simp [meddledSums]) _) meddledSums (List.prefix_refl _)
  exact ⟨unnoticed, unnoticed.answers.trans rfl⟩

/-- Not all changes of attributes go unnoticed : a month is set back to zero. -/
theorem not_unnoticed_of_delete : ¬∀ (f : Field) (steps : List Step),
    (∀ name entries, .assign name (.dict entries) ∉ steps) → (ofField f).Unnoticed steps := by
  intro all
  have unnoticed := all ⟨.standard .month, .int 5⟩ [.delete "__dict__", .ask .toInteger] (by simp)
  have answers : [((.ok (.int 0), .int 0) : Attempt Value × Value)] = [(.ok (.int 5), .int 5)] :=
    unnoticed.answers
  simp at answers

end Instance

end CivilTime

import CivilTime.Proofs.Fields
import Mathlib.Data.List.Forall2

/-!
# Traversals that may fail

A traversal goes through its items one after the other and ends at the first failure. So it fails
with the cause of the first item that fails (`Attempt.mapM_eq_error_iff`), and it succeeds with the
results of all items, each in its place (`Attempt.mapM_eq_ok_iff`). Where a failure has no cause, a
result is optional (`mapM_eq_some_iff`).
-/

namespace CivilTime

section

variable {α β γ : Type} {R : α → β → Prop} {xs : List α} {ys : List β}

/-! ## Items of two lists, each beside its counterpart -/

theorem forall_mem_of_forall₂ {P : β → Prop} (hP : ∀ a b, R a b → P b)
    (h : List.Forall₂ R xs ys) : ∀ b ∈ ys, P b := by
  induction h with
  | nil => nofun
  | cons first _ ih => exact List.forall_mem_cons.mpr ⟨hP _ _ first, ih⟩

theorem map_eq_of_forall₂ {f : α → γ} {g : β → γ} (same : ∀ a b, R a b → g b = f a)
    (h : List.Forall₂ R xs ys) : ys.map g = xs.map f := by
  induction h with
  | nil => rfl
  | cons first _ ih => rw [List.map_cons, List.map_cons, same _ _ first, ih]

/-- A traversal has a result if each of its items has one. -/
theorem mapM_eq_some_iff {f : α → Option β} :
    xs.mapM f = some ys ↔ List.Forall₂ (fun a b => f a = some b) xs ys := by
  induction xs generalizing ys with
  | nil => simp [eq_comm]
  | cons a rest ih =>
    rw [List.mapM_cons, List.forall₂_cons_left_iff]
    simp only [Option.bind_eq_bind, Option.bind_eq_some_iff, Option.pure_def, Option.some.injEq,
      ih, eq_comm (b := ys), exists_and_left]

end

namespace Attempt

variable {α β : Type}

/-! ## Results of one attempt -/

theorem map_eq_ok_iff {g : α → β} {x : Attempt α} {b : β} :
    g <$> x = .ok b ↔ ∃ a, x = .ok a ∧ b = g a := by
  rw [map_eq_pure_bind, bind_eq_ok_iff]
  simp only [pure_eq_ok, Except.ok.injEq, eq_comm]

theorem exists_map_eq_ok_iff {g : α → β} {x : Attempt α} :
    (∃ b, g <$> x = .ok b) ↔ ∃ a, x = .ok a := by
  simp only [map_eq_ok_iff]
  exact ⟨fun ⟨_, a, ha, _⟩ => ⟨a, ha⟩, fun ⟨a, ha⟩ => ⟨_, a, ha, rfl⟩⟩

theorem map_eq_error_iff {g : α → β} {x : Attempt α} {cause : Failure} :
    g <$> x = .error cause ↔ x = .error cause := by
  rw [map_eq_pure_bind]
  cases x <;> simp

/-! ## Results of a traversal -/

variable {f : α → Attempt β} {items : List α}

/-- A traversal fails with the cause of the first item that fails. -/
theorem mapM_eq_error_iff {cause : Failure} : items.mapM f = .error cause ↔
    ∃ before a after, items = before ++ a :: after ∧ (∀ b ∈ before, ∃ r, f b = .ok r) ∧
      f a = .error cause := by
  induction items with
  | nil => simp
  | cons a rest ih =>
    rw [List.mapM_cons]
    cases first : f a with
    | error other =>
      rw [error_bind, Except.error.injEq]
      constructor
      · rintro rfl
        exact ⟨[], a, rest, rfl, nofun, first⟩
      · rintro ⟨before, b, after, split, passed, failed⟩
        rcases List.cons_eq_append_iff.mp split with ⟨rfl, same⟩ | ⟨before, rfl, -⟩
        · obtain ⟨rfl, -⟩ := List.cons.inj same
          exact Except.error.inj (first.symm.trans failed)
        · obtain ⟨r, hr⟩ := passed a List.mem_cons_self
          cases first.symm.trans hr
    | ok r =>
      rw [ok_bind, bind_pure_comp, map_eq_error_iff, ih]
      constructor
      · rintro ⟨before, b, after, rfl, passed, failed⟩
        exact ⟨a :: before, b, after, rfl, List.forall_mem_cons.mpr ⟨⟨r, first⟩, passed⟩, failed⟩
      · rintro ⟨before, b, after, split, passed, failed⟩
        rcases List.cons_eq_append_iff.mp split with ⟨rfl, same⟩ | ⟨before, rfl, rfl⟩
        · obtain ⟨rfl, -⟩ := List.cons.inj same
          cases first.symm.trans failed
        · exact ⟨before, b, after, rfl, (List.forall_mem_cons.mp passed).2, failed⟩

/-- A traversal fails as soon as one of its items does. -/
theorem exists_mapM_eq_error_iff :
    (∃ cause, items.mapM f = .error cause) ↔ ∃ a ∈ items, ∃ cause, f a = .error cause := by
  constructor
  · rintro ⟨cause, failed⟩
    obtain ⟨before, a, after, rfl, -, failed⟩ := mapM_eq_error_iff.mp failed
    exact ⟨a, List.mem_append_right _ List.mem_cons_self, cause, failed⟩
  · rintro ⟨a, ha, cause, failed⟩
    induction items with
    | nil => cases ha
    | cons b rest ih =>
      rw [List.mapM_cons]
      cases first : f b with
      | error other => exact ⟨other, rfl⟩
      | ok r =>
        rcases List.mem_cons.mp ha with rfl | ha
        · cases first.symm.trans failed
        · obtain ⟨other, later⟩ := ih ha
          exact ⟨other, by rw [ok_bind, later]; rfl⟩

/-- A traversal succeeds with the results of all items. -/
theorem mapM_eq_ok_iff {results : List β} :
    items.mapM f = .ok results ↔ List.Forall₂ (fun a r => f a = .ok r) items results := by
  induction items generalizing results with
  | nil => rw [List.mapM_nil, pure_eq_ok, Except.ok.injEq, List.forall₂_nil_left_iff, eq_comm]
  | cons a rest ih =>
    rw [List.mapM_cons, bind_eq_ok_iff, List.forall₂_cons_left_iff]
    simp only [bind_pure_comp, map_eq_ok_iff, ih, exists_and_left]

theorem mapM_eq_ok_map {g : α → β} (h : ∀ a ∈ items, f a = .ok (g a)) :
    items.mapM f = .ok (items.map g) := by
  rw [mapM_eq_ok_iff, List.forall₂_map_right_iff, List.forall₂_same]
  exact h

theorem exists_mapM_eq_ok (h : ∀ a ∈ items, ∃ b, f a = .ok b) :
    ∃ results, items.mapM f = .ok results := by
  cases outcome : items.mapM f with
  | ok results => exact ⟨results, rfl⟩
  | error cause =>
    obtain ⟨a, ha, _, failed⟩ := exists_mapM_eq_error_iff.mp ⟨cause, outcome⟩
    obtain ⟨b, hb⟩ := h a ha
    cases failed.symm.trans hb

end Attempt

end CivilTime

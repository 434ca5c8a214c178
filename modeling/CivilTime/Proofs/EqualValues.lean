import CivilTime.Field.Run
import Mathlib.Data.List.Forall2
import Mathlib.Data.Rat.Cast.Order
import Mathlib.Order.WithBot

/-!
# Equal values and their hashes

Values are equal (`Value.Equal`) if both are null, the same number whatever its sort, the same text,
lists with equal items, or fields of the very same kind that wrap equal values. `Value.same` decides
this for values without mappings and not-a-number in them (`Value.same_iff_equal`), and among these
it is an equivalence.

The hash of a number depends on its place only. The units of one have the residue one
(`HashKey.ofUnits_mul_unitsPerOne`), so an integer and the floating-point number of the same size
have the same key. From there it goes up through the fields : equal values have the same key, or
none of them has one (`Value.requireHash_eq_of_equal`).
-/

namespace CivilTime

/-! ## Numbers -/

/-- The place of a number on the extended line of rational numbers; not-a-number has none. -/
def Number.rational? : Number → Option (WithBot (WithTop ℚ))
  | .int n => some ((n : ℚ) : WithTop ℚ)
  | .float .nan => none
  | .float (.infinity negative) => some (if negative then ⊥ else (⊤ : WithTop ℚ))
  | .float x => some ((x.units / Binary64.unitsPerOne : ℚ) : WithTop ℚ)

/-- The place that is counted in units. -/
def Position.rational : Position → WithBot (WithTop ℚ)
  | .below => ⊥
  | .at units => ((units / Binary64.unitsPerOne : ℚ) : WithTop ℚ)
  | .above => (⊤ : WithTop ℚ)

theorem Binary64.unitsPerOne_ne_zero : (unitsPerOne : ℚ) ≠ 0 :=
  Nat.cast_ne_zero.mpr unitsPerOne_pos.ne'

theorem Position.rational_injective : Function.Injective Position.rational := by
  intro p q h
  match p, q with
  | .below, .below => rfl
  | .above, .above => rfl
  | .at m, .at n =>
    have quotients : (m / Binary64.unitsPerOne : ℚ) = n / Binary64.unitsPerOne :=
      WithTop.coe_injective (WithBot.coe_injective h)
    rw [div_left_inj' Binary64.unitsPerOne_ne_zero] at quotients
    rw [Int.cast_injective quotients]
  | .below, .at _ | .below, .above => exact absurd h WithBot.bot_ne_coe
  | .at _, .below | .above, .below => exact absurd h WithBot.coe_ne_bot
  | .at _, .above => exact absurd (WithBot.coe_injective h) WithTop.coe_ne_top
  | .above, .at _ => exact absurd (WithBot.coe_injective h) WithTop.top_ne_coe

theorem Number.rational?_eq (a : Number) : a.rational? = a.position.map Position.rational := by
  match a with
  | .int n =>
    have place : ((n * Binary64.unitsPerOne : Int) / Binary64.unitsPerOne : ℚ) = n := by
      rw [Int.cast_mul, Int.cast_natCast, mul_div_cancel_right₀ _ Binary64.unitsPerOne_ne_zero]
    rw [rational?, position, Option.map_some, Position.rational, place]
  | .float .nan => rfl
  | .float (.infinity negative) => cases negative <;> rfl
  | .float (.finite ..) => rfl

/-- Numbers of either sort are equal if they are the same rational number, or infinite on the same
side. -/
theorem Number.same_iff_rational? (a b : Number) :
    a.same b = true ↔ ∃ q, a.rational? = some q ∧ b.rational? = some q := by
  simp only [Number.same_eq_true_iff, Number.rational?_eq, Option.map_eq_some_iff]
  constructor
  · rintro ⟨p, ha, hb⟩
    exact ⟨_, ⟨p, ha, rfl⟩, ⟨p, hb, rfl⟩⟩
  · rintro ⟨q, ⟨p, ha, rfl⟩, ⟨p', hb, same⟩⟩
    exact ⟨p, ha, Position.rational_injective same ▸ hb⟩

/-! ## Relations item by item -/

section

variable {α : Type} {R : α → α → Prop} {as bs cs : List α}

/-- A relation of lists item by item is symmetric if it is so at the items of the first one. -/
theorem forall₂_symm_of_mem (h : ∀ a ∈ as, ∀ b, R a b → R b a)
    (items : List.Forall₂ R as bs) : List.Forall₂ R bs as := by
  induction items with
  | nil => exact .nil
  | cons first _ ih =>
    obtain ⟨turn, others⟩ := List.forall_mem_cons.mp h
    exact .cons (turn _ first) (ih others)

/-- A relation of lists item by item is transitive if it is so at the items of the first one. -/
theorem forall₂_trans_of_mem (h : ∀ a ∈ as, ∀ b c, R a b → R b c → R a c)
    (left : List.Forall₂ R as bs) (right : List.Forall₂ R bs cs) : List.Forall₂ R as cs := by
  induction left generalizing cs with
  | nil => exact right
  | cons first _ ih =>
    obtain ⟨step, others⟩ := List.forall_mem_cons.mp h
    cases right with
    | cons second rest => exact .cons (step _ _ first second) (ih others rest)

end

namespace Value

/-! ## Equality -/

/-- Equality of values. -/
inductive Equal : Value → Value → Prop
  | null : Equal .null .null
  | number {v w : Value} {a b : Number} {q : WithBot (WithTop ℚ)} :
    v.number? = some a → w.number? = some b → a.rational? = some q → b.rational? = some q →
      Equal v w
  | str (s : String) : Equal (.str s) (.str s)
  | list {xs ys : List Value} : List.Forall₂ Equal xs ys → Equal (.list xs) (.list ys)
  | field {k l : Kind} {v w : Value} : k.same l = true → Equal v w →
      Equal (.field k v) (.field l w)

/-- Whether a value has neither mappings nor not-a-number in it. -/
inductive IsPlain : Value → Prop
  | null : IsPlain .null
  | bool (b : Bool) : IsPlain (.bool b)
  | int (n : Int) : IsPlain (.int n)
  | float {x : Binary64} : x ≠ .nan → IsPlain (.float x)
  | str (s : String) : IsPlain (.str s)
  | list {items : List Value} : (∀ v ∈ items, IsPlain v) → IsPlain (.list items)
  | field (k : Kind) {v : Value} : IsPlain v → IsPlain (.field k v)

/-! ## Values of each form -/

section

variable {u v w : Value} {a : Number}

theorem equal_null_iff : Value.null.Equal w ↔ w = .null := by
  constructor
  · intro h
    cases h with
    | null => rfl
    | number hv => cases hv
  · rintro rfl
    exact .null

theorem equal_str_iff {s : String} : (Value.str s).Equal w ↔ w = .str s := by
  constructor
  · intro h
    cases h with
    | str => rfl
    | number hv => cases hv
  · rintro rfl
    exact .str s

theorem equal_list_iff {xs : List Value} :
    (Value.list xs).Equal w ↔ ∃ ys, w = .list ys ∧ List.Forall₂ Equal xs ys := by
  constructor
  · intro h
    cases h with
    | list items => exact ⟨_, rfl, items⟩
    | number hv => cases hv
  · rintro ⟨ys, rfl, items⟩
    exact .list items

theorem equal_field_iff {k : Kind} :
    (Value.field k v).Equal w ↔ ∃ l u, w = .field l u ∧ k.same l = true ∧ v.Equal u := by
  constructor
  · intro h
    cases h with
    | field kinds wrapped => exact ⟨_, _, rfl, kinds, wrapped⟩
    | number hv => cases hv
  · rintro ⟨l, u, rfl, kinds, wrapped⟩
    exact .field kinds wrapped

theorem equal_iff_of_number? (ha : v.number? = some a) :
    v.Equal w ↔ ∃ b, w.number? = some b ∧ a.same b = true := by
  constructor
  · intro h
    cases h with
    | number hv hw hp hq =>
      obtain rfl := Option.some.inj (hv.symm.trans ha)
      exact ⟨_, hw, (Number.same_iff_rational? _ _).mpr ⟨_, hp, hq⟩⟩
    | _ => cases ha
  · rintro ⟨b, hb, same⟩
    obtain ⟨q, hp, hq⟩ := (Number.same_iff_rational? _ _).mp same
    exact .number ha hb hp hq

/-! ## Deciding equality -/

theorem same_iff_of_number? (hv : v.IsPlain) (ha : v.number? = some a) :
    v.same w = true ↔ ∃ b, w.number? = some b ∧ a.same b = true := by
  cases hv with
  | bool b | int n =>
    obtain rfl := Option.some.inj ha
    cases w <;> simp [same, number?]
  | @float x hx =>
    obtain rfl := Option.some.inj ha
    cases w <;> cases x <;> simp_all [same, number?]
  | _ => cases ha

/-- Lists are the same if each item is the same as the one in its place. -/
theorem sameItems_iff_of_mem {R : Value → Value → Prop} {xs ys : List Value}
    (h : ∀ v ∈ xs, ∀ w, v.same w = true ↔ R v w) :
    sameItems xs ys = true ↔ List.Forall₂ R xs ys := by
  induction xs generalizing ys with
  | nil => cases ys <;> simp [sameItems]
  | cons v vs ih =>
    obtain ⟨first, others⟩ := List.forall_mem_cons.mp h
    cases ys with
    | nil => simp [sameItems]
    | cons w ws => simp [sameItems, first, ih others]

/-- Equality of plain values is decided. -/
theorem same_iff_equal (hv : v.IsPlain) : v.same w = true ↔ v.Equal w := by
  induction hv generalizing w with
  | null =>
    rw [equal_null_iff]
    cases w <;> simp [same, number?]
  | bool b => rw [same_iff_of_number? (.bool b) rfl, equal_iff_of_number? rfl]
  | int n => rw [same_iff_of_number? (.int n) rfl, equal_iff_of_number? rfl]
  | float hx => rw [same_iff_of_number? (.float hx) rfl, equal_iff_of_number? rfl]
  | str s =>
    rw [equal_str_iff]
    cases w <;> simp [same, number?, eq_comm]
  | list _ ih =>
    have items (ys : List Value) := @sameItems_iff_of_mem _ _ ys fun v hv w => @ih v hv w
    rw [equal_list_iff]
    cases w <;> simp [same, number?, items]
  | field k _ ih =>
    rw [equal_field_iff]
    cases w <;> simp [same, number?, ih]

/-! ## An equivalence -/

/-- A plain value that counts as a number has a place. -/
theorem IsPlain.exists_rational? (hv : v.IsPlain) (ha : v.number? = some a) :
    ∃ q, a.rational? = some q := by
  cases hv with
  | bool b | int n =>
    obtain rfl := Option.some.inj ha
    exact ⟨_, rfl⟩
  | @float x hx =>
    obtain rfl := Option.some.inj ha
    cases x with
    | nan => exact absurd rfl hx
    | infinity negative => exact ⟨_, rfl⟩
    | finite negative mantissa exponent => exact ⟨_, rfl⟩
  | _ => cases ha

theorem IsPlain.equal_of_number? (hv : v.IsPlain) (ha : v.number? = some a) : v.Equal v := by
  obtain ⟨q, hq⟩ := hv.exists_rational? ha
  exact .number ha ha hq hq

theorem equal_refl (hv : v.IsPlain) : v.Equal v := by
  induction hv with
  | null => exact .null
  | bool b => exact (IsPlain.bool b).equal_of_number? rfl
  | int n => exact (IsPlain.int n).equal_of_number? rfl
  | float hx => exact (IsPlain.float hx).equal_of_number? rfl
  | str s => exact .str s
  | list _ ih => exact .list (List.forall₂_same.mpr ih)
  | field k _ ih => exact .field k.same_self ih

theorem equal_symm (hv : v.IsPlain) (h : v.Equal w) : w.Equal v := by
  induction hv generalizing w with
  | null => exact equal_null_iff.mp h ▸ .null
  | bool _ | int _ | float _ =>
    cases h with
    | number hv hw hp hq => exact .number hw hv hq hp
  | str s => exact equal_str_iff.mp h ▸ .str s
  | list _ ih =>
    obtain ⟨ys, rfl, items⟩ := equal_list_iff.mp h
    exact .list (forall₂_symm_of_mem (fun v hv w => @ih v hv w) items)
  | field k _ ih =>
    obtain ⟨l, u, rfl, kinds, wrapped⟩ := equal_field_iff.mp h
    exact .field (k.same_comm l ▸ kinds) (ih wrapped)

theorem equal_trans (hu : u.IsPlain) (huv : u.Equal v) (hvw : v.Equal w) : u.Equal w := by
  induction hu generalizing v w with
  | null => exact equal_null_iff.mp huv ▸ hvw
  | bool _ | int _ | float _ =>
    cases huv with
    | number hu hv hp hq =>
      obtain ⟨c, hc, same⟩ := (equal_iff_of_number? hv).mp hvw
      obtain ⟨q, hq', hr⟩ := (Number.same_iff_rational? _ _).mp same
      obtain rfl := Option.some.inj (hq.symm.trans hq')
      exact .number hu hc hp hr
  | str s => exact equal_str_iff.mp huv ▸ hvw
  | list _ ih =>
    obtain ⟨ys, rfl, left⟩ := equal_list_iff.mp huv
    obtain ⟨zs, rfl, right⟩ := equal_list_iff.mp hvw
    exact .list (forall₂_trans_of_mem (fun u hu v w => @ih u hu v w) left right)
  | field k _ ih =>
    obtain ⟨l, v, rfl, first, left⟩ := equal_field_iff.mp huv
    obtain ⟨m, w, rfl, second, right⟩ := equal_field_iff.mp hvw
    exact .field (Kind.same_trans first second) (ih left right)

end

end Value

/-! ## Hash keys -/

namespace HashKey

mutual

theorem same_self : ∀ key : HashKey, key.same key = true
  | .null | .nan => rfl
  | .number _ | .text _ => decide_eq_true rfl
  | .tuple keys => sameAll_self keys

theorem sameAll_self : ∀ keys : List HashKey, sameAll keys keys = true
  | [] => rfl
  | key :: keys => by rw [sameAll, same_self key, sameAll_self keys, Bool.and_self]

end

/-- One has the residue one, however finely it is counted. -/
theorem ofUnits_mul_unitsPerOne (n : Int) : ofUnits (n * Binary64.unitsPerOne) = ofInt n := by
  have one : ((Binary64.unitsPerOne : Int) * Nat.pow 2 24).tmod hashModulus = 1 := by
    decide +kernel
  have residue : (n * Binary64.unitsPerOne * Nat.pow 2 24).tmod hashModulus =
      n.tmod hashModulus := by
    rw [Int.mul_assoc, Int.mul_tmod, one, Int.mul_one, Int.tmod_tmod]
  rw [ofUnits, ofInt, residue, ofInt]

end HashKey

/-- What the hash of a number at a place depends on. -/
def Position.hashKey : Position → HashKey
  | .below => .ofInt (-HashKey.infinityResidue)
  | .at units => .ofUnits units
  | .above => .ofInt HashKey.infinityResidue

namespace Value

section

variable {v w : Value}

theorem hashKey_of_position {a : Number} {p : Position} (ha : v.number? = some a)
    (hp : a.position = some p) : v.hashKey = some p.hashKey := by
  cases v with
  | bool b | int n =>
    obtain rfl := Option.some.inj ha
    obtain rfl := Option.some.inj hp
    rw [Position.hashKey, HashKey.ofUnits_mul_unitsPerOne, hashKey]
  | float x =>
    obtain rfl := Option.some.inj ha
    cases x with
    | nan => cases hp
    | infinity negative =>
      obtain rfl := Option.some.inj hp
      cases negative <;> rfl
    | finite negative mantissa exponent =>
      obtain rfl := Option.some.inj hp
      rfl
  | _ => cases ha

/-- Equal values have the same key, or none of them has one. -/
theorem hashKey_eq_of_equal (hv : v.IsPlain) (h : v.Equal w) : v.hashKey = w.hashKey := by
  induction hv generalizing w with
  | null => rw [equal_null_iff.mp h]
  | bool _ | int _ | float _ =>
    cases h with
    | number hv hw hp hq =>
      have same := (Number.same_iff_rational? _ _).mpr ⟨_, hp, hq⟩
      obtain ⟨p, left, right⟩ := (Number.same_eq_true_iff _ _).mp same
      rw [hashKey_of_position hv left, hashKey_of_position hw right]
  | str s => rw [equal_str_iff.mp h]
  | list _ _ =>
    obtain ⟨ys, rfl, -⟩ := equal_list_iff.mp h
    rfl
  | field k _ ih =>
    obtain ⟨l, u, rfl, -, wrapped⟩ := equal_field_iff.mp h
    rw [hashKey, hashKey, ih wrapped]

/-- What keeps a plain value from having a hash is a list. -/
theorem unhashable?_of_isPlain (hv : v.IsPlain) (h : v.hashKey = none) :
    v.unhashable? = some "list" := by
  induction hv with
  | list _ _ => rfl
  | field k _ ih => exact ih (Option.map_eq_none_iff.mp h)
  | @float x hx => cases x <;> simp [hashKey] at h
  | _ => cases h

theorem requireHash_of_isPlain (hv : v.IsPlain) : Field.requireHash v =
    match v.hashKey with
    | some key => .ok key
    | none => .error (.type (.unhashable "list")) := by
  cases h : v.hashKey with
  | some key => rw [Field.requireHash, h]
  | none =>
    rw [Field.requireHash, h, unhashable?_of_isPlain hv h]
    rfl

theorem requireHash_eq_of_equal (hv : v.IsPlain) (hw : w.IsPlain) (h : v.Equal w) :
    Field.requireHash v = Field.requireHash w := by
  rw [requireHash_of_isPlain hv, requireHash_of_isPlain hw, hashKey_eq_of_equal hv h]

end

end Value

end CivilTime

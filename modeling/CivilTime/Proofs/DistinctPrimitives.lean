import CivilTime.Proofs.EqualValues
import CivilTime.Proofs.Reading
import CivilTime.Proofs.Traversals
import CivilTime.Session
import Mathlib.Data.Set.Card

/-!
# Fields and date-times in sets

A set made of a sequence keeps the first item of each class, so its size is the number of classes
wherever equality is an equivalence (`Represents.length_eq`). Neither the order of the sequence nor
a repetition in it matters.

Two primitives, that is fields or date-times, are equal if they are of the very same class and their
attributes are equal values (`Primitive.same_iff_attributes`). So equality of plain primitives is an
equivalence, equal ones have the same hash, and a set of them that looks at hashes first has one
member for each class (`Primitive.same_laws`). A field is asked for all this
(`Query.answer_equal_field`, `Field.sameHash_of_same`, `Field.distinctWith_list`), and so is a
session (`Question.outcome_distinct`).
-/

namespace CivilTime

/-! ## Classes of equal items -/

section Classes

variable {α : Type} {same : α → α → Bool} {items members : List α}

/-- Whether `same` is an equivalence on the items of a sequence. -/
structure IsEquivalenceOn (same : α → α → Bool) (items : List α) : Prop where
  refl : ∀ x ∈ items, same x x = true
  symm : ∀ x ∈ items, ∀ y ∈ items, same x y = true → same y x = true
  trans : ∀ x ∈ items, ∀ y ∈ items, ∀ z ∈ items, same x y = true → same y z = true →
    same x z = true

/-- The items of a sequence that are equal to one. -/
def classOf (same : α → α → Bool) (items : List α) (x : α) : Set α :=
  {y | y ∈ items ∧ same x y = true}

/-- The classes of equal items of a sequence. -/
def classesOf (same : α → α → Bool) (items : List α) : Set (Set α) :=
  {c | ∃ x ∈ items, c = classOf same items x}

/-- Whether members stand for the classes of a sequence. -/
structure Represents (same : α → α → Bool) (items members : List α) : Prop where
  mem : ∀ m ∈ members, m ∈ items
  apart : members.Pairwise fun m n => same n m = false
  met : ∀ x ∈ items, ∃ m ∈ members, same x m = true

/-! ## Members of sets -/

theorem distinctBy_concat (items : List α) (x : α) : distinctBy same (items ++ [x]) =
    if (distinctBy same items).any (same x) then distinctBy same items
    else distinctBy same items ++ [x] := by
  rw [distinctBy, List.foldl_append, List.foldl_cons, List.foldl_nil, ← distinctBy]

theorem distinctBy_map {β : Type} (f : β → α) (items : List β) : distinctBy same (items.map f) =
    (distinctBy (fun x y => same (f x) (f y)) items).map f := by
  induction items using List.reverseRecOn with
  | nil => rfl
  | append_singleton items x ih =>
    rw [List.map_append, List.map_singleton, distinctBy_concat, distinctBy_concat, ih, List.any_map]
    simp only [apply_ite (List.map f), List.map_append, List.map_singleton]
    rfl

/-- An item that no member equals becomes a member. -/
theorem Represents.concat (h : Represents same items members) {x : α} (self : same x x = true) :
    Represents same (items ++ [x])
      (if members.any (same x) then members else members ++ [x]) := by
  have old : ∀ m ∈ members, m ∈ items ++ [x] := fun m hm => List.mem_append_left _ (h.mem m hm)
  split_ifs with found
  · obtain ⟨m, hm, equal⟩ := List.any_eq_true.mp found
    refine ⟨old, h.apart, fun y hy => ?_⟩
    rcases List.mem_append.mp hy with hy | hy
    · exact h.met y hy
    · obtain rfl := List.mem_singleton.mp hy
      exact ⟨m, hm, equal⟩
  · have new : ∀ m ∈ members, same x m = false := by simpa using found
    refine ⟨?_, ?_, fun y hy => ?_⟩
    · exact List.forall_mem_append.mpr ⟨old, by simp⟩
    · rw [List.pairwise_append]
      exact ⟨h.apart, List.pairwise_singleton _ _, by simpa using new⟩
    · rcases List.mem_append.mp hy with hy | hy
      · obtain ⟨m, hm, equal⟩ := h.met y hy
        exact ⟨m, List.mem_append_left _ hm, equal⟩
      · obtain rfl := List.mem_singleton.mp hy
        exact ⟨y, by simp, self⟩

/-- The members of a set represent the items it is made from. The last item is looked up in the set
of those before it. -/
theorem represents_distinctBy (refl : ∀ x ∈ items, same x x = true) :
    Represents same items (distinctBy same items) := by
  induction items using List.reverseRecOn with
  | nil => exact ⟨nofun, .nil, nofun⟩
  | append_singleton items x ih =>
    rw [distinctBy_concat]
    exact (ih fun y hy => refl y (List.mem_append_left _ hy)).concat (refl x (by simp))

theorem IsEquivalenceOn.classOf_eq (h : IsEquivalenceOn same items) {x y : α} (hx : x ∈ items)
    (hy : y ∈ items) (equal : same x y = true) : classOf same items x = classOf same items y := by
  have back := h.symm x hx y hy equal
  ext z
  constructor
  · rintro ⟨hz, here⟩
    exact ⟨hz, h.trans y hy x hx z hz back here⟩
  · rintro ⟨hz, here⟩
    exact ⟨hz, h.trans x hx y hy z hz equal here⟩

/-- There is one member for each class : a member is in its own class, and in that of no other
member. -/
theorem Represents.length_eq (h : Represents same items members)
    (equivalence : IsEquivalenceOn same items) :
    members.length = (classesOf same items).ncard := by
  classical
  have distinct : (members.map (classOf same items)).Nodup := by
    rw [List.Nodup, List.pairwise_map]
    refine h.apart.imp_of_mem fun {m n} hm hn apart classes => ?_
    have inside : m ∈ classOf same items n :=
      classes ▸ ⟨h.mem m hm, equivalence.refl m (h.mem m hm)⟩
    rw [inside.2] at apart
    cases apart
  have onto : classesOf same items = ↑(members.map (classOf same items)).toFinset := by
    rw [List.coe_toFinset]
    ext c
    constructor
    · rintro ⟨x, hx, rfl⟩
      obtain ⟨m, hm, equal⟩ := h.met x hx
      exact List.mem_map.mpr ⟨m, hm, (equivalence.classOf_eq hx (h.mem m hm) equal).symm⟩
    · intro hc
      obtain ⟨m, hm, rfl⟩ := List.mem_map.mp hc
      exact ⟨m, h.mem m hm, rfl⟩
  rw [onto, Set.ncard_coe_finset, List.toFinset_card_of_nodup distinct, List.length_map]

/-- The size of a set is the number of classes. -/
theorem length_distinctBy (equivalence : IsEquivalenceOn same items) :
    (distinctBy same items).length = (classesOf same items).ncard :=
  (represents_distinctBy equivalence.refl).length_eq equivalence

/-- The classes depend on what the items are, and not on their order. -/
theorem classesOf_congr {others : List α} (h : ∀ x, x ∈ items ↔ x ∈ others) :
    classesOf same items = classesOf same others := by
  simp only [classesOf, classOf, h]

variable {other : α → α → Bool}

theorem IsEquivalenceOn.of_agree (h : IsEquivalenceOn same items)
    (agree : ∀ x ∈ items, ∀ y ∈ items, other x y = same x y) : IsEquivalenceOn other items where
  refl x hx := agree x hx x hx ▸ h.refl x hx
  symm x hx y hy equal := by
    rw [agree x hx y hy] at equal
    rw [agree y hy x hx]
    exact h.symm x hx y hy equal
  trans x hx y hy z hz left right := by
    rw [agree x hx y hy] at left
    rw [agree y hy z hz] at right
    rw [agree x hx z hz]
    exact h.trans x hx y hy z hz left right

theorem classesOf_of_agree (agree : ∀ x ∈ items, ∀ y ∈ items, other x y = same x y) :
    classesOf other items = classesOf same items := by
  have classes : ∀ x ∈ items, classOf other items x = classOf same items x := by
    intro x hx
    ext y
    exact and_congr_right fun hy => by rw [agree x hx y hy]
  ext c
  exact exists_congr fun x => and_congr_right fun hx => by rw [classes x hx]

end Classes

/-! ## Primitives -/

/-- A field or a date-time. -/
inductive Primitive where
  | field (f : Field)
  | dateTime (dt : DateTime)

namespace Primitive

/-- Whether two primitives are of the very same class. -/
def sameClass : Primitive → Primitive → Bool
  | .field f, .field g => f.kind.same g.kind
  | .dateTime _, .dateTime _ => true
  | _, _ => false

/-- The attributes in the order of their declaration. -/
def attributes : Primitive → List Value
  | .field f => [f.value]
  | .dateTime dt => Part.all.map dt.part

/-- Equality. -/
def same : Primitive → Primitive → Bool
  | .field f, .field g => f.toValue.same g.toValue
  | .dateTime a, .dateTime b => a.same b
  | _, _ => false

/-- What a class itself says of the equality of two primitives : nothing if the second one is not of
the very same class. -/
def compared? (x y : Primitive) : Option Bool :=
  if x.sameClass y then some (Value.sameItems x.attributes y.attributes) else none

/-- Inequality : the answer of one of the classes the other way round, and true if both of them say
nothing. -/
def different (x y : Primitive) : Bool :=
  (((x.compared? y).map (!·)).or ((y.compared? x).map (!·))).getD true

/-- What the hash of a primitive depends on. -/
def requireHash : Primitive → Attempt HashKey
  | .field f => Field.requireHash f.toValue
  | .dateTime dt => dt.requireHash

/-- Whether a primitive can be in a set. -/
def Hashable (x : Primitive) : Prop :=
  ∃ key, x.requireHash = .ok key

/-- Whether two primitives have the same hash, where `hash` makes it of what it depends on. -/
def sameHash (hash : HashKey → Int) (x y : Primitive) : Bool :=
  match x.requireHash, y.requireHash with
  | .ok k, .ok l => hash k = hash l
  | _, _ => false

/-- The members of the set of a sequence. A primitive is in a set already if a member with the same
hash equals it. -/
def setOf (hash : HashKey → Int) (items : List Primitive) : List Primitive :=
  distinctBy (fun x y => x.sameHash hash y && x.same y) items

/-- Whether there are neither mappings nor not-a-number in the attributes. -/
def IsPlain (x : Primitive) : Prop :=
  ∀ v ∈ x.attributes, v.IsPlain

theorem isPlain_field {f : Field} (h : f.value.IsPlain) : (field f).IsPlain := by
  intro v hv
  rw [List.mem_singleton.mp hv]
  exact h

theorem isPlain_dateTime {dt : DateTime} (h : ∀ p, (dt.part p).IsPlain) :
    (dateTime dt).IsPlain := by
  intro v hv
  obtain ⟨p, -, rfl⟩ := List.mem_map.mp hv
  exact h p

/-! ## Equal primitives -/

section

variable {x y z : Primitive}

theorem same_eq (x y : Primitive) :
    x.same y = (x.sameClass y && Value.sameItems x.attributes y.attributes) := by
  cases x <;> cases y <;>
    simp [same, sameClass, attributes, Value.same, Value.sameItems, Field.toValue, DateTime.same,
      Field.same, DateTime.part, Part.all, Bool.and_assoc]

theorem sameClass_self (x : Primitive) : x.sameClass x = true := by
  cases x <;> simp [sameClass]

theorem sameClass_comm (x y : Primitive) : x.sameClass y = y.sameClass x := by
  cases x <;> cases y <;> simp [sameClass, Kind.same_comm]

theorem sameClass_trans (hxy : x.sameClass y = true) (hyz : y.sameClass z = true) :
    x.sameClass z = true := by
  cases x <;> cases y <;> cases z <;> simp_all [sameClass]
  exact Kind.same_trans hxy hyz

/-- Equality of primitives is that of their classes and of their attributes. -/
theorem same_iff_attributes (hx : x.IsPlain) : x.same y = true ↔
    x.sameClass y = true ∧ List.Forall₂ Value.Equal x.attributes y.attributes := by
  have items : Value.sameItems x.attributes y.attributes = true ↔
      List.Forall₂ Value.Equal x.attributes y.attributes :=
    Value.sameItems_iff_of_mem fun v hv w => Value.same_iff_equal (hx v hv)
  rw [same_eq, Bool.and_eq_true, items]

theorem same_self (hx : x.IsPlain) : x.same x = true :=
  (same_iff_attributes hx).mpr
    ⟨x.sameClass_self, List.forall₂_same.mpr fun v hv => Value.equal_refl (hx v hv)⟩

theorem same_symm (hx : x.IsPlain) (hy : y.IsPlain) (h : x.same y = true) : y.same x = true := by
  obtain ⟨classes, values⟩ := (same_iff_attributes hx).mp h
  refine (same_iff_attributes hy).mpr ⟨x.sameClass_comm y ▸ classes, ?_⟩
  exact forall₂_symm_of_mem (fun v hv w => Value.equal_symm (hx v hv)) values

theorem same_trans (hx : x.IsPlain) (hy : y.IsPlain) (hxy : x.same y = true)
    (hyz : y.same z = true) : x.same z = true := by
  obtain ⟨classes, values⟩ := (same_iff_attributes hx).mp hxy
  obtain ⟨classes', values'⟩ := (same_iff_attributes hy).mp hyz
  refine (same_iff_attributes hx).mpr ⟨sameClass_trans classes classes', ?_⟩
  exact forall₂_trans_of_mem (fun u hu v w => Value.equal_trans (hx u hu)) values values'

/-- A class that is asked answers as equality does, and one of another class does not answer. -/
theorem compared?_eq (x y : Primitive) :
    x.compared? y = if x.sameClass y then some (x.same y) else none := by
  rw [compared?, same_eq]
  cases x.sameClass y <;> rfl

theorem different_eq (x y : Primitive) : x.different y = !x.same y := by
  rw [different, compared?_eq, compared?_eq, sameClass_comm y x, same_eq x y]
  cases x.sameClass y <;> rfl

/-! ## Hashes -/

theorem requireHash_dateTime_congr {a b : DateTime}
    (h : ∀ p ∈ Part.all, Field.requireHash (a.part p) = Field.requireHash (b.part p)) :
    a.requireHash = b.requireHash := by
  have parts : (fun p => Field.requireHash (a.part p)) = fun p => Field.requireHash (b.part p) :=
    funext fun p => h p (by cases p <;> decide)
  rw [DateTime.requireHash, DateTime.requireHash, parts]

/-- Equal primitives have the same hash, or none of them has one. -/
theorem requireHash_eq_of_same (hx : x.IsPlain) (hy : y.IsPlain) (h : x.same y = true) :
    x.requireHash = y.requireHash := by
  obtain ⟨classes, values⟩ := (same_iff_attributes hx).mp h
  match x, y with
  | .field f, .field g =>
    have left : f.value.IsPlain := hx _ (by simp [attributes])
    have right : g.value.IsPlain := hy _ (by simp [attributes])
    have wrapped : f.value.Equal g.value := by simpa [attributes] using values
    exact Value.requireHash_eq_of_equal (.field f.kind left) (.field g.kind right)
      (.field classes wrapped)
  | .dateTime a, .dateTime b =>
    rw [attributes, attributes, List.forall₂_map_left_iff, List.forall₂_map_right_iff,
      List.forall₂_same] at values
    refine requireHash_dateTime_congr fun p hp => ?_
    exact Value.requireHash_eq_of_equal (hx _ (List.mem_map_of_mem hp))
      (hy _ (List.mem_map_of_mem hp)) (values p hp)
  | .field _, .dateTime _ | .dateTime _, .field _ => cases classes

theorem sameHash_of_same {hash : HashKey → Int} (hx : x.IsPlain) (hy : y.IsPlain)
    (hashable : x.Hashable) (h : x.same y = true) : x.sameHash hash y = true := by
  obtain ⟨key, hkey⟩ := hashable
  rw [sameHash, ← requireHash_eq_of_same hx hy h, hkey]
  exact decide_eq_true rfl

/-! ## Sets of primitives -/

variable {items : List Primitive} {hash : HashKey → Int}

theorem isEquivalenceOn_same (h : ∀ x ∈ items, x.IsPlain) :
    IsEquivalenceOn Primitive.same items where
  refl x hx := same_self (h x hx)
  symm x hx y hy := same_symm (h x hx) (h y hy)
  trans x hx y hy _ _ := same_trans (h x hx) (h y hy)

/-- Looking at the hashes first makes no difference. -/
theorem sameHash_and_same (h : ∀ x ∈ items, x.IsPlain ∧ x.Hashable) :
    ∀ x ∈ items, ∀ y ∈ items, (x.sameHash hash y && x.same y) = x.same y := by
  intro x hx y hy
  cases equal : x.same y with
  | false => rw [Bool.and_false]
  | true => rw [sameHash_of_same (h x hx).1 (h y hy).1 (h x hx).2 equal, Bool.and_true]

theorem length_setOf (h : ∀ x ∈ items, x.IsPlain ∧ x.Hashable) :
    (setOf hash items).length = (classesOf Primitive.same items).ncard := by
  have equivalence := isEquivalenceOn_same fun x hx => (h x hx).1
  rw [setOf, length_distinctBy (equivalence.of_agree (sameHash_and_same h)),
    classesOf_of_agree (sameHash_and_same h)]

end

/-- Equality of plain primitives is that of their classes and of their attributes, and an
equivalence; inequality is its negation; equal primitives have the same hash; and a set has one
member for each class of equal ones, in whatever order and how often they come. -/
theorem same_laws :
    (∀ x y : Primitive, x.IsPlain → y.IsPlain → (x.same y = true ↔
      x.sameClass y = true ∧ List.Forall₂ Value.Equal x.attributes y.attributes)) ∧
    (Equivalence fun x y : {x : Primitive // x.IsPlain} => x.1.same y.1 = true) ∧
    (∀ x y : Primitive, x.different y = !x.same y) ∧
    (∀ x y : Primitive, x.IsPlain → y.IsPlain → x.same y = true →
      x.requireHash = y.requireHash) ∧
    (∀ (hash : HashKey → Int) (items : List Primitive), (∀ x ∈ items, x.IsPlain ∧ x.Hashable) →
      (setOf hash items).length = (classesOf Primitive.same items).ncard ∧
      ∀ others, (∀ x, x ∈ others ↔ x ∈ items) →
        (setOf hash others).length = (setOf hash items).length) := by
  refine ⟨fun x y hx _ => same_iff_attributes hx, ⟨?_, ?_, ?_⟩, different_eq,
    fun x y => requireHash_eq_of_same, fun hash items h => ⟨length_setOf h, ?_⟩⟩
  · exact fun x => same_self x.2
  · exact fun {x y} => same_symm x.2 y.2
  · exact fun {x y z} => same_trans x.2 y.2
  · intro others members
    rw [length_setOf h, length_setOf fun x hx => h x ((members x).mp hx), classesOf_congr members]

/-- A kind, one of the same name and bound, and one derived from the first. -/
def counts : Kind × Kind × Kind :=
  let first := .declared 0 "Count" (.int 5) .root
  (first, .declared 1 "Count" (.int 5) .root, .declared 2 "Count" (.int 5) first)

/-- Fields and date-times that wrap one, true and 1.0. -/
def lookalikes : List Primitive :=
  [.field ⟨counts.1, .int 1⟩, .field ⟨counts.1, .bool true⟩,
    .field ⟨counts.1, .float (.finite false (Nat.pow 2 52) 1022)⟩,
    .field ⟨counts.2.1, .int 1⟩, .field ⟨counts.2.2, .int 1⟩,
    .dateTime (DateTime.ofCounts fun _ => 1),
    .dateTime { DateTime.ofCounts fun _ => 1 with year := .bool true }]

theorem isPlain_of_mem_lookalikes : ∀ x ∈ lookalikes, x.IsPlain := by
  have fields (k : Kind) : (Value.field k (.int 1)).IsPlain := .field k (.int 1)
  simp only [lookalikes, List.forall_mem_cons]
  refine ⟨isPlain_field (.int 1), isPlain_field (.bool true), isPlain_field (.float nofun),
    isPlain_field (.int 1), isPlain_field (.int 1), isPlain_dateTime fun p => ?_,
    isPlain_dateTime fun p => ?_, nofun⟩
  · cases p with
    | year => exact .int 1
    | _ => exact fields _
  · cases p with
    | year => exact .bool true
    | _ => exact fields _

theorem hashable_of_mem_lookalikes : ∀ x ∈ lookalikes, x.Hashable := by
  simp only [lookalikes, List.forall_mem_cons]
  exact ⟨⟨_, rfl⟩, ⟨_, rfl⟩, ⟨_, rfl⟩, ⟨_, rfl⟩, ⟨_, rfl⟩, ⟨_, rfl⟩, ⟨_, rfl⟩, nofun⟩

/-- What wraps one, true and 1.0 under one class is one member. -/
theorem length_setOf_lookalikes : (∀ x ∈ lookalikes, x.IsPlain ∧ x.Hashable) ∧
    (classesOf Primitive.same lookalikes).ncard = 4 := by
  have plain : ∀ x ∈ lookalikes, x.IsPlain ∧ x.Hashable :=
    fun x hx => ⟨isPlain_of_mem_lookalikes x hx, hashable_of_mem_lookalikes x hx⟩
  refine ⟨plain, ?_⟩
  rw [← (same_laws.2.2.2.2 (fun _ => 0) lookalikes plain).1]
  decide +kernel

end Primitive

/-! ## Answers of fields and of sessions -/

/-- What a field answers when it is asked whether it equals another one or differs from it. -/
theorem Query.answer_equal_field (f g : Field) :
    Query.answer f (.equal g.toValue) = .ok (.bool ((Primitive.field f).same (.field g))) ∧
      Query.answer f (.different g.toValue) =
        .ok (.bool ((Primitive.field f).different (.field g))) := by
  rw [Primitive.different_eq]
  exact ⟨rfl, rfl⟩

/-- Equal fields have the same hash, if they have one at all. -/
theorem Field.sameHash_of_same {f g : Field} (hf : (Primitive.field f).IsPlain)
    (hg : (Primitive.field g).IsPlain) (hashable : (Primitive.field f).Hashable)
    (h : f.toValue.same g.toValue = true) : f.sameHash g.toValue = .ok (.bool true) := by
  obtain ⟨key, left⟩ : ∃ key, requireHash f.toValue = .ok key := hashable
  have right : requireHash g.toValue = .ok key :=
    (Primitive.requireHash_eq_of_same hf hg h).symm.trans left
  rw [sameHash, left, Attempt.ok_bind, right, Attempt.ok_bind, HashKey.same_self]
  rfl

theorem Value.isEquivalenceOn_same {items : List Value} (h : ∀ v ∈ items, v.IsPlain) :
    IsEquivalenceOn Value.same items where
  refl v hv := (same_iff_equal (h v hv)).mpr (equal_refl (h v hv))
  symm v hv w hw equal :=
    (same_iff_equal (h w hw)).mpr (equal_symm (h v hv) ((same_iff_equal (h v hv)).mp equal))
  trans u hu v hv _ _ left right :=
    (same_iff_equal (h u hu)).mpr (equal_trans (h u hu) ((same_iff_equal (h u hu)).mp left)
      ((same_iff_equal (h v hv)).mp right))

/-- The set of a field and further values has one member for each class of equal values. -/
theorem Field.distinctWith_list {f : Field} {others : List Value}
    (plain : ∀ v ∈ f.toValue :: others, v.IsPlain)
    (hashable : ∀ v ∈ f.toValue :: others, ∃ key, requireHash v = .ok key) :
    f.distinctWith (.list others) =
      .ok (.int (classesOf Value.same (f.toValue :: others)).ncard) := by
  obtain ⟨⟨key, hkey⟩, rest⟩ := List.forall_mem_cons.mp hashable
  obtain ⟨keys, hkeys⟩ := Attempt.exists_mapM_eq_ok rest
  have items : (Value.list others).items = .ok others := rfl
  rw [distinctWith, hkey, Attempt.ok_bind, items, Attempt.ok_bind, hkeys, Attempt.ok_bind,
    length_distinctBy (Value.isEquivalenceOn_same plain)]
  rfl

theorem DateTime.isEquivalenceOn_same {items : List DateTime}
    (h : ∀ dt ∈ items, (Primitive.dateTime dt).IsPlain) : IsEquivalenceOn DateTime.same items where
  refl a ha := Primitive.same_self (h a ha)
  symm a ha b hb := Primitive.same_symm (h a ha) (h b hb)
  trans a ha b hb c _ := Primitive.same_trans (z := .dateTime c) (h a ha) (h b hb)

/-- A session finds as many distinct date-times as there are classes of equal ones. -/
theorem Question.outcome_distinct {slots : Slots} {names : List String} {dateTimes : List DateTime}
    (found : List.Forall₂ (fun name dt => slots.get name = .ok (.dateTime dt)) names dateTimes)
    (h : ∀ dt ∈ dateTimes, (Primitive.dateTime dt).IsPlain ∧ (Primitive.dateTime dt).Hashable) :
    ((Question.distinct names).result slots).outcome =
      .ok (.count (classesOf DateTime.same dateTimes).ncard) := by
  have members : (names.mapM fun name => do
      let a ← slots.get name
      let _ ← a.requireHash
      return a : Attempt (List Answer)) = .ok (dateTimes.map .dateTime) := by
    rw [Attempt.mapM_eq_ok_iff, List.forall₂_map_right_iff]
    induction found with
    | nil => exact .nil
    | @cons name dt _ _ first _ ih =>
      obtain ⟨⟨-, key, hkey⟩, others⟩ := List.forall_mem_cons.mp h
      have hash : (Answer.dateTime dt).requireHash = .ok key := hkey
      refine .cons ?_ (ih others)
      rw [first, Attempt.ok_bind, hash]
      rfl
  have equivalence := DateTime.isEquivalenceOn_same fun dt hdt => (h dt hdt).1
  rw [result, members, Traced.lift_eq, Traced.bind_ok, distinctBy_map, List.length_map,
    ← length_distinctBy equivalence]
  rfl

end CivilTime

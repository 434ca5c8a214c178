import CivilTime.Batch.File
import CivilTime.Proofs.Traversals
import CivilTime.Value.Sequence

/-!
# Values of documents

A mapping that is made of a sequence of entries has each key once (`nodup_mappingOf`), however often
it was given, and none but the given entries (`mem_of_mem_mappingOf`). So no mapping in the value of
a JSON document has two entries under one key, at any depth (`File.isDocument_of_document`). An
integer in it was read from digits that are not too many, so the value can be written again
(`Value.IsDocument.oversized_eq_false`).
-/

namespace CivilTime

/-! ## Mappings -/

section

variable {α : Type}

theorem mem_of_lookup {entries : List (String × α)} {key : String} {value : α}
    (h : lookup key entries = some value) : (key, value) ∈ entries := by
  obtain ⟨e, he, rfl⟩ := Option.map_eq_some_iff.mp h
  have hkey : e.1 = key := by simpa using List.find?_some he
  rw [← hkey]
  exact List.mem_of_find?_eq_some he

/-- Something is found under the keys of the entries, and under no other key. -/
theorem lookup_eq_none_iff_not_mem {entries : List (String × α)} {key : String} :
    lookup key entries = none ↔ key ∉ entries.map Prod.fst := by
  rw [lookup_eq_none_iff, List.mem_map]
  constructor
  · rintro absent ⟨e, he, same⟩
    exact absent e he same
  · intro absent e he same
    exact absent ⟨e, he, same⟩

theorem map_fst_insertEntry (entries : List (String × α)) (key : String) (value : α) :
    (insertEntry entries key value).map Prod.fst =
      if key ∈ entries.map Prod.fst then entries.map Prod.fst
      else entries.map Prod.fst ++ [key] := by
  have present : (entries.any fun e => e.1 = key) = true ↔ key ∈ entries.map Prod.fst := by
    simp
  unfold insertEntry
  by_cases h : key ∈ entries.map Prod.fst
  · rw [if_pos (present.mpr h), if_pos h, List.map_map]
    refine List.map_congr_left fun e _ => ?_
    by_cases here : e.1 = key <;> simp [here]
  · rw [if_neg (mt present.mp h), if_neg h, List.map_append]
    rfl

theorem nodup_insertEntry {entries : List (String × α)} (h : (entries.map Prod.fst).Nodup)
    (key : String) (value : α) : ((insertEntry entries key value).map Prod.fst).Nodup := by
  rw [map_fst_insertEntry]
  split_ifs with present
  · exact h
  · refine List.nodup_append.mpr ⟨h, by simp, fun a ha b hb same => present ?_⟩
    rwa [← List.mem_singleton.mp hb, ← same]

theorem mem_of_mem_insertEntry {entries : List (String × α)} {key : String} {value : α}
    {e : String × α} (h : e ∈ insertEntry entries key value) : e = (key, value) ∨ e ∈ entries := by
  unfold insertEntry at h
  split_ifs at h
  · obtain ⟨d, hd, rfl⟩ := List.mem_map.mp h
    split_ifs
    · exact .inl rfl
    · exact .inr hd
  · simpa [or_comm] using h

/-- A mapping that is made of entries has each key once. -/
theorem nodup_mappingOf (entries : List (String × α)) :
    ((mappingOf entries).map Prod.fst).Nodup :=
  List.foldlRecOn (motive := fun acc : List (String × α) => (acc.map Prod.fst).Nodup) entries _
    List.nodup_nil fun _ h e _ => nodup_insertEntry h e.1 e.2

/-- A mapping that is made of entries has no other entries. -/
theorem mem_of_mem_mappingOf {entries : List (String × α)} {e : String × α}
    (h : e ∈ mappingOf entries) : e ∈ entries := by
  revert h
  refine List.foldlRecOn (motive := fun acc : List (String × α) => e ∈ acc → e ∈ entries)
    entries _ (fun h => absurd h List.not_mem_nil) fun acc ih d hd h => ?_
  rcases mem_of_mem_insertEntry h with rfl | old
  · exact hd
  · exact ih old

/-- Assignments to keys that are not there yet add their entries in order. -/
theorem foldl_insertEntry {acc entries : List (String × α)}
    (h : ((acc ++ entries).map Prod.fst).Nodup) :
    entries.foldl (fun acc e => insertEntry acc e.1 e.2) acc = acc ++ entries := by
  induction entries generalizing acc with
  | nil => simp
  | cons e rest ih =>
    have absent : e.1 ∉ acc.map Prod.fst := by
      rw [List.map_append, List.nodup_append] at h
      exact fun here => h.2.2 _ here _ List.mem_cons_self rfl
    have appended : insertEntry acc e.1 e.2 = acc ++ [e] := by
      rw [insertEntry, if_neg]
      simpa using absent
    rw [List.append_cons] at h
    rw [List.foldl_cons, appended, ih h, ← List.append_cons]

/-- Entries under distinct keys are the mapping they make. -/
theorem mappingOf_of_nodup {entries : List (String × α)} (h : (entries.map Prod.fst).Nodup) :
    mappingOf entries = entries :=
  foldl_insertEntry h

end

/-! ## Values of documents -/

/-- Whether a value can be that of a document : no field is in it, no integer of too many digits,
and no mapping that has two entries under one key. -/
inductive Value.IsDocument : Value → Prop
  | null : IsDocument .null
  | bool (b : Bool) : IsDocument (.bool b)
  | int {n : Int} : Text.tooLong n = false → IsDocument (.int n)
  | float (x : Binary64) : IsDocument (.float x)
  | str (s : String) : IsDocument (.str s)
  | list {items : List Value} : (∀ v ∈ items, IsDocument v) → IsDocument (.list items)
  | dict {entries : List (String × Value)} : (entries.map Prod.fst).Nodup →
    (∀ e ∈ entries, IsDocument e.2) → IsDocument (.dict entries)

theorem Value.IsDocument.nodup {entries : List (String × Value)}
    (h : (Value.dict entries).IsDocument) : (entries.map Prod.fst).Nodup := by
  cases h
  assumption

theorem Value.IsDocument.of_mem {entries : List (String × Value)}
    (h : (Value.dict entries).IsDocument) {e : String × Value} (he : e ∈ entries) :
    e.2.IsDocument := by
  cases h with
  | dict _ each => exact each e he

theorem Value.IsDocument.of_mem_list {items : List Value} (h : (Value.list items).IsDocument)
    {v : Value} (hv : v ∈ items) : v.IsDocument := by
  cases h with
  | list each => exact each v hv

theorem Value.IsDocument.of_entry {v w : Value} {key : String} (h : v.IsDocument)
    (hentry : v.entry key = .ok w) : w.IsDocument := by
  cases v with
  | dict entries =>
    rw [entry] at hentry
    split at hentry
    · next found =>
      obtain rfl := Except.ok.inj hentry
      exact h.of_mem (mem_of_lookup found)
    · cases hentry
  | _ => cases hentry

theorem Value.anyOversized_eq_false_iff {items : List Value} :
    anyOversized items = false ↔ ∀ v ∈ items, v.oversized = false := by
  induction items with
  | nil => simp [anyOversized]
  | cons v rest ih => rw [anyOversized, Bool.or_eq_false_iff, ih, List.forall_mem_cons]

theorem Value.anyEntryOversized_eq_false_iff {entries : List (String × Value)} :
    anyEntryOversized entries = false ↔ ∀ e ∈ entries, e.2.oversized = false := by
  induction entries with
  | nil => simp [anyEntryOversized]
  | cons e rest ih => rw [anyEntryOversized, Bool.or_eq_false_iff, ih, List.forall_mem_cons]

/-- The value of a document can be written. -/
theorem Value.IsDocument.oversized_eq_false {v : Value} (h : v.IsDocument) :
    v.oversized = false := by
  induction h with
  | null => rfl
  | bool b => rfl
  | int short => exact short
  | float x => rfl
  | str s => rfl
  | list _ each => exact anyOversized_eq_false_iff.mpr each
  | dict _ _ each => exact anyEntryOversized_eq_false_iff.mpr each

namespace Json

theorem bind_eq_ok_iff {α β : Type} {x : Except Halt α} {f : α → Except Halt β} {b : β} :
    (x >>= f) = .ok b ↔ ∃ a, x = .ok a ∧ f a = .ok b := by
  cases x <;> simp [bind, Except.bind]

/-- A list is the value of a document if the values of its items are. -/
theorem isDocument_of_listOf? {items : List (Option Value)} {v : Value}
    (each : ∀ item ∈ items, ∀ w ∈ item, w.IsDocument) (h : listOf? items = some v) :
    v.IsDocument := by
  obtain ⟨values, hvalues, h⟩ := Option.bind_eq_some_iff.mp h
  obtain rfl := Option.some.inj h
  have related := (List.forall₂_and_left _ _).mpr ⟨each, mapM_eq_some_iff.mp hvalues⟩
  exact .list (forall_mem_of_forall₂ (fun item w h => h.1 w h.2) related)

/-- A mapping is the value of a document if the values of its entries are. -/
theorem isDocument_of_dictOf? {entries : List (Option String × Option Value)} {v : Value}
    (each : ∀ e ∈ entries, ∀ w ∈ e.2, w.IsDocument) (h : dictOf? entries = some v) :
    v.IsDocument := by
  obtain ⟨named, hnamed, h⟩ := Option.bind_eq_some_iff.mp h
  obtain ⟨kept, hkept, h⟩ := Option.bind_eq_some_iff.mp h
  obtain rfl := Option.some.inj h
  have eachNamed : ∀ e ∈ named, ∀ w ∈ e.2, w.IsDocument := by
    have related := (List.forall₂_and_left _ _).mpr ⟨each, mapM_eq_some_iff.mp hnamed⟩
    refine forall_mem_of_forall₂ (fun e d h => ?_) related
    obtain ⟨documents, same⟩ := h
    obtain ⟨name, -, rfl⟩ := Option.map_eq_some_iff.mp same
    exact documents
  have eachKept : ∀ e ∈ mappingOf named, ∀ w ∈ e.2, w.IsDocument := fun e he =>
    eachNamed e (mem_of_mem_mappingOf he)
  have related := mapM_eq_some_iff.mp hkept
  have keys : kept.map Prod.fst = (mappingOf named).map Prod.fst := by
    refine map_eq_of_forall₂ (fun e d same => ?_) related
    obtain ⟨w, -, rfl⟩ := Option.map_eq_some_iff.mp same
    rfl
  refine .dict (keys ▸ nodup_mappingOf named) ?_
  refine forall_mem_of_forall₂ (fun e d h => ?_)
    ((List.forall₂_and_left _ _).mpr ⟨eachKept, related⟩)
  obtain ⟨documents, same⟩ := h
  obtain ⟨w, hw, rfl⟩ := Option.map_eq_some_iff.mp same
  exact documents w hw

theorem isDocument_of_word? {text rest : List Char} {v : Value} (h : word? text = some (v, rest)) :
    v.IsDocument := by
  obtain ⟨w, hw, hv⟩ := Option.map_eq_some_iff.mp h
  obtain ⟨rfl, -⟩ := Prod.mk.inj hv
  have known : ∀ w ∈ words, w.2.IsDocument := by
    simp [words, Value.IsDocument.null, Value.IsDocument.bool, Value.IsDocument.float]
  exact known w (List.mem_of_find?_eq_some hw)

theorem areDigits_wholeDigits (text : List Char) : Text.AreDigits (wholeDigits text) := by
  unfold wholeDigits
  split
  · exact Text.areDigits_replicate_zero 1
  · exact fun c hc => List.all_eq_true.mp List.all_takeWhile c hc

/-- A number of no more digits than can be read has no more than can be written. -/
theorem tooLong_of_natAbs_eq {text : List Char} {n : Int} (hne : wholeDigits text ≠ [])
    (short : (wholeDigits text).length ≤ Text.digitLimit)
    (h : n.natAbs = Text.decimalValue (wholeDigits text)) : Text.tooLong n = false := by
  have size : n.natAbs < 10 ^ (wholeDigits text).length :=
    h ▸ Text.decimalValue_lt (areDigits_wholeDigits text)
  have digits : (Text.naturalDigits n.natAbs).length ≤ (wholeDigits text).length :=
    (Text.length_naturalDigits_le_iff (List.length_pos_iff.mpr hne)).mpr size
  exact (Text.tooLong_eq_false_iff n).mpr (Nat.le_trans digits short)

theorem isDocument_of_number {text rest : List Char} {v : Value}
    (h : number text = .ok (v, rest)) : v.IsDocument := by
  unfold number at h
  dsimp only at h
  split_ifs at h with empty float long negative
  · cases h
    exact .float _
  · cases h
    exact .int (tooLong_of_natAbs_eq empty (Nat.not_lt.mp long) (by omega))
  · cases h
    exact .int (tooLong_of_natAbs_eq empty (Nat.not_lt.mp long) (by omega))

/-! ## Reading values -/

section

variable {fuel : Nat}

/-- A value is that of a document if the entries and items inside it are. -/
theorem isDocument_of_value_succ
    (hmembers : ∀ {depth text entries rest}, members fuel depth text = .ok (entries, rest) →
      ∀ e ∈ entries, ∀ v ∈ e.2, v.IsDocument)
    (helements : ∀ {depth text items rest}, elements fuel depth text = .ok (items, rest) →
      ∀ item ∈ items, ∀ v ∈ item, v.IsDocument)
    {depth : Nat} {text rest : List Char} {read : Option Value}
    (h : value (fuel + 1) depth text = .ok (read, rest)) : ∀ v ∈ read, v.IsDocument := by
  cases text with
  | nil => cases h
  | cons c behind =>
    unfold value at h
    dsimp only at h
    split_ifs at h with quote brace bracket
    · obtain ⟨_, -, h⟩ := bind_eq_ok_iff.mp h
      cases h
      rintro v hv
      obtain ⟨s, -, rfl⟩ := Option.map_eq_some_iff.mp hv
      exact .str s
    · split at h
      · cases h
      · split at h
        · cases h
          rintro v ⟨⟩
          exact .dict List.nodup_nil (by simp)
        · obtain ⟨⟨entries, _⟩, hentries, h⟩ := bind_eq_ok_iff.mp h
          cases h
          exact fun v hv => isDocument_of_dictOf? (hmembers hentries) hv
    · split at h
      · cases h
      · split at h
        · cases h
          rintro v ⟨⟩
          exact .list (by simp)
        · obtain ⟨⟨items, _⟩, hitems, h⟩ := bind_eq_ok_iff.mp h
          cases h
          exact fun v hv => isDocument_of_listOf? (helements hitems) hv
    · split at h
      · next hword =>
        cases h
        rintro v ⟨⟩
        exact isDocument_of_word? hword
      · obtain ⟨⟨w, _⟩, hnumber, h⟩ := bind_eq_ok_iff.mp h
        cases h
        rintro v ⟨⟩
        exact isDocument_of_number hnumber

theorem isDocument_of_members_succ
    (hvalue : ∀ {depth text read rest}, value fuel depth text = .ok (read, rest) →
      ∀ v ∈ read, v.IsDocument)
    (hmembers : ∀ {depth text entries rest}, members fuel depth text = .ok (entries, rest) →
      ∀ e ∈ entries, ∀ v ∈ e.2, v.IsDocument)
    {depth : Nat} {text rest : List Char} {entries : List (Option String × Option Value)}
    (h : members (fuel + 1) depth text = .ok (entries, rest)) :
    ∀ e ∈ entries, ∀ v ∈ e.2, v.IsDocument := by
  unfold members at h
  dsimp only at h
  split at h
  · obtain ⟨⟨name, afterName⟩, -, h⟩ := bind_eq_ok_iff.mp h
    dsimp only at h
    split at h
    · obtain ⟨⟨v, afterValue⟩, hv, h⟩ := bind_eq_ok_iff.mp h
      dsimp only at h
      split at h
      · cases h
        exact List.forall_mem_singleton.mpr (hvalue hv)
      · obtain ⟨⟨others, _⟩, hothers, h⟩ := bind_eq_ok_iff.mp h
        cases h
        exact List.forall_mem_cons.mpr ⟨hvalue hv, hmembers hothers⟩
      · cases h
    · cases h
  · cases h

theorem isDocument_of_elements_succ
    (hvalue : ∀ {depth text read rest}, value fuel depth text = .ok (read, rest) →
      ∀ v ∈ read, v.IsDocument)
    (helements : ∀ {depth text items rest}, elements fuel depth text = .ok (items, rest) →
      ∀ item ∈ items, ∀ v ∈ item, v.IsDocument)
    {depth : Nat} {text rest : List Char} {items : List (Option Value)}
    (h : elements (fuel + 1) depth text = .ok (items, rest)) :
    ∀ item ∈ items, ∀ v ∈ item, v.IsDocument := by
  unfold elements at h
  obtain ⟨⟨v, afterValue⟩, hv, h⟩ := bind_eq_ok_iff.mp h
  dsimp only at h
  split at h
  · cases h
    exact List.forall_mem_singleton.mpr (hvalue hv)
  · obtain ⟨⟨others, _⟩, hothers, h⟩ := bind_eq_ok_iff.mp h
    cases h
    exact List.forall_mem_cons.mpr ⟨hvalue hv, helements hothers⟩
  · cases h

end

/-- Everything that is read, be it a value, an entry or an item, is that of a document. -/
theorem isDocument_of_readers (fuel : Nat) :
    (∀ {depth text read rest}, value fuel depth text = .ok (read, rest) →
        ∀ v ∈ read, v.IsDocument) ∧
      (∀ {depth text entries rest}, members fuel depth text = .ok (entries, rest) →
        ∀ e ∈ entries, ∀ v ∈ e.2, v.IsDocument) ∧
      ∀ {depth text items rest}, elements fuel depth text = .ok (items, rest) →
        ∀ item ∈ items, ∀ v ∈ item, v.IsDocument := by
  induction fuel with
  | zero => exact ⟨nofun, nofun, nofun⟩
  | succ fuel ih =>
    obtain ⟨hvalue, hmembers, helements⟩ := ih
    exact ⟨isDocument_of_value_succ hmembers helements, isDocument_of_members_succ hvalue hmembers,
      isDocument_of_elements_succ hvalue helements⟩

theorem isDocument_of_scanDocument {nesting : Nat} {text : List Char} {v : Value}
    (h : scanDocument nesting text = .ok (some v)) : v.IsDocument := by
  unfold scanDocument at h
  split at h
  · cases h
  · obtain ⟨⟨w, rest⟩, hw, h⟩ := bind_eq_ok_iff.mp h
    dsimp only at h
    split_ifs at h
    obtain rfl := Except.ok.inj h
    exact (isDocument_of_readers _).1 hw v rfl

theorem isDocument_of_decode {text : List Char} {nesting : Nat} {v : Value}
    (h : decode text nesting = .ok v) : v.IsDocument := by
  unfold decode at h
  split at h
  · next hv =>
    obtain rfl := Except.ok.inj h
    exact isDocument_of_scanDocument hv
  · cases h
  · cases h
  · cases h

end Json

/-- No mapping in the document of a file has two entries under one key. -/
theorem File.isDocument_of_document {f : File} {limits : Limits} {v : Value}
    (h : f.document limits = .ok v) : v.IsDocument := by
  obtain ⟨bytes, -, h⟩ := Attempt.bind_eq_ok_iff.mp h
  unfold Json.decodeBytes at h
  split at h
  · cases h
  · exact Json.isDocument_of_decode h

end CivilTime

import Mathlib
import Paintbox.Registry

/-!
# One change of a registry

A change of one entry leaves the books of the registry alone, and changes of different entries do
not get in each other's way.  A change that is refused leaves everything as it was.

* `Registry.next_modify` and its companions — the books are the same after a change.
* `Registry.modify_id`, `Registry.modify_modify`, `Registry.modify_comm` — changes of one entry
  compose, **changes of two entries commute**.
* `Registry.insert_of_error`, `Registry.release_of_error` — refused changes.
* `Registry.get?_of_insert` — and one that is not refused.
-/

namespace Paintbox.Registry

variable {α : Type}

/-- Two registries are the same if they have the same slots and go on from the same handle. -/
lemma eq_of_slots {r r' : Registry α} (htable : r.table = r'.table) (hslots : r.slots = r'.slots)
    (hnext : r.next = r'.next) : r = r' := by
  cases r
  cases r'
  simp_all

section Books

variable (r : Registry α) (h : UInt16) (f : α → α)

@[simp] lemma table_modify : (r.modify h f).table = r.table := by
  rw [modify]
  split <;> rfl

@[simp] lemma next_modify : (r.modify h f).next = r.next := by
  rw [modify]
  split <;> rfl

@[simp] lemma capacity_modify : (r.modify h f).capacity = r.capacity := by
  rw [modify]
  split
  · rfl
  · exact Array.size_modify

/-- The handles stay in their slots. -/
lemma handleAt_slots_modify (i : ℕ) :
    handleAt (r.modify h f).slots i = handleAt r.slots i := by
  rw [modify]
  split
  · rfl
  · exact handleAt_modify r.slots _ f i

/-- The live entries are counted by their handles. -/
lemma live_eq_countP : r.live
    = (List.range r.capacity).countP fun i => (handleAt r.slots i).isSome := by
  have hslots : r.slots.toList = (List.range r.slots.size).map fun i => r.slots[i]?.join := by
    refine List.ext_getElem (by simp) fun i hi _ => ?_
    have hlt : i < r.slots.size := by simpa using hi
    simp [Array.getElem?_eq_getElem hlt]
  rw [live, ← Array.countP_toList, hslots, List.countP_map, capacity]
  simp only [handleAt, Option.isSome_map, Function.comp_def]

@[simp] lemma live_modify : (r.modify h f).live = r.live := by
  simp only [live_eq_countP, capacity_modify, handleAt_slots_modify]

end Books

/-! ## Changes compose -/

lemma get?_modify_self (r : Registry α) (h : UInt16) (f : α → α) :
    (r.modify h f).get? h = (r.get? h).map f := by
  rw [get?_modify, if_pos rfl]

lemma get?_modify_of_ne (r : Registry α) {h g : UInt16} (hg : g ≠ h) (f : α → α) :
    (r.modify h f).get? g = r.get? g := by
  rw [get?_modify, if_neg hg]

lemma modify_id (r : Registry α) (h : UInt16) : r.modify h id = r := by
  cases hpos : r.position h with
  | none => exact modify_of_dead hpos id
  | some i =>
      refine eq_of_slots (table_modify r h id) ?_ (next_modify r h id)
      have hid : (fun s : Option (Slot α) => s.map (Slot.map id)) = id := by
        funext s
        cases s <;> rfl
      rw [slots_modify hpos, hid]
      refine Array.ext_getElem? fun j => ?_
      simp [Array.getElem?_modify]

lemma modify_modify (r : Registry α) (h : UInt16) (f g : α → α) :
    (r.modify h f).modify h g = r.modify h (g ∘ f) := by
  cases hpos : r.position h with
  | none => rw [modify_of_dead hpos, modify_of_dead hpos, modify_of_dead hpos]
  | some i =>
      have hpos' : (r.modify h f).position h = some i := by rw [position_modify, hpos]
      refine eq_of_slots (by simp) ?_ (by simp)
      rw [slots_modify hpos', slots_modify hpos, slots_modify hpos]
      refine Array.ext_getElem? fun j => ?_
      simp only [Array.getElem?_modify]
      split_ifs
      · simp only [Option.map_map]
        congr 1
        funext s
        cases s <;> rfl
      · rfl

lemma modify_comm (r : Registry α) {h g : UInt16} (hne : h ≠ g) (f f' : α → α) :
    (r.modify h f).modify g f' = (r.modify g f').modify h f := by
  cases hpos : r.position h with
  | none =>
      have hpos' : (r.modify g f').position h = none := by rw [position_modify, hpos]
      rw [modify_of_dead hpos, modify_of_dead hpos']
  | some i =>
      cases hposg : r.position g with
      | none =>
          have hposg' : (r.modify h f).position g = none := by rw [position_modify, hposg]
          rw [modify_of_dead hposg, modify_of_dead hposg']
      | some j =>
          have hpos' : (r.modify g f').position h = some i := by rw [position_modify, hpos]
          have hposg' : (r.modify h f).position g = some j := by rw [position_modify, hposg]
          -- different handles are in different slots
          have hij : i ≠ j := by
            rintro rfl
            rw [position_eq_some_iff] at hpos hposg
            exact hne (Option.some.inj (hpos.symm.trans hposg))
          refine eq_of_slots (by simp) ?_ (by simp)
          rw [slots_modify hposg', slots_modify hpos, slots_modify hpos', slots_modify hposg]
          refine Array.ext_getElem? fun k => ?_
          simp only [Array.getElem?_modify]
          split_ifs with hj hi
          · omega
          · rfl
          · rfl
          · rfl

/-- What is found under a handle is in the slot of that handle. -/
lemma exists_slot_of_get? {r : Registry α} {h : UInt16} {a : α} (hfound : r.get? h = some a) :
    ∃ i s, r.position h = some i ∧ r.slots[i]? = some (some s) ∧ s.value = a := by
  obtain ⟨i, s, hs, hsh, hsa⟩ := (r.get?_eq_some_iff h a).mp hfound
  refine ⟨i, s, ?_, Option.join_eq_some_iff.mp hs, hsa⟩
  rw [position_eq_some_iff, handleAt, hs, Option.map_some, hsh]

/-- Functions that agree on the entry that is there change it in the same way. -/
lemma modify_congr (r : Registry α) {h : UInt16} {a : α} (hfound : r.get? h = some a)
    {f g : α → α} (hfg : f a = g a) : r.modify h f = r.modify h g := by
  obtain ⟨i, s, hpos, hs, rfl⟩ := exists_slot_of_get? hfound
  refine eq_of_slots (by simp) ?_ (by simp)
  rw [slots_modify hpos, slots_modify hpos]
  refine Array.ext_getElem? fun j => ?_
  simp only [Array.getElem?_modify]
  split_ifs with hij
  · rw [← hij, hs]
    simp [Slot.map, hfg]
  · rfl

/-! ## Changes that are refused -/

/-- A refused insertion leaves the registry as it was. -/
lemma insert_of_error {r r' : Registry α} {a : α} {e : Error} (h : r.insert a = (.error e, r')) :
    r' = r := by
  rw [insert] at h
  cases hv : r.vacancy with
  | none =>
      rw [hv] at h
      exact (congrArg Prod.snd h).symm
  | some v =>
      rw [hv] at h
      cases h

/-- A new entry is found under its handle. -/
lemma get?_of_insert {r r' : Registry α} {a : α} {h : UInt16} (hins : r.insert a = (.ok h, r')) :
    r'.get? h = some a := by
  rw [insert] at hins
  cases hv : r.vacancy with
  | none =>
      rw [hv] at hins
      cases hins
  | some v =>
      rw [hv] at hins
      cases hins
      rw [get?_add, if_pos rfl]

/-- Taking out what is not there leaves the registry as it was. -/
lemma remove_of_none {r : Registry α} {h : UInt16} (hnone : (r.remove h).1 = none) :
    (r.remove h).2 = r := by
  cases hpos : r.position h with
  | none => rw [remove_of_dead hpos]
  | some i =>
      rw [fst_remove] at hnone
      rw [position_eq_some_iff, handleAt] at hpos
      obtain ⟨s, hs, hsh⟩ := Option.map_eq_some_iff.mp hpos
      have hfound := (r.get?_eq_some_iff h s.value).mpr ⟨i, s, hs, hsh, rfl⟩
      rw [hnone] at hfound
      cases hfound

lemma release_of_error {r r' : Registry α} {h : UInt16} {e : Error}
    (hrel : r.release h = (.error e, r')) : r' = r := by
  rw [release] at hrel
  split_ifs at hrel with hz
  · exact (congrArg Prod.snd hrel).symm
  · rcases hrem : r.remove h with ⟨found, rest⟩
    rw [hrem] at hrel
    cases found with
    | some a => cases hrel
    | none =>
        have hrest := remove_of_none (congrArg Prod.fst hrem)
        rw [hrem] at hrest
        have hr' : rest = r' := congrArg Prod.snd hrel
        rw [← hr']
        exact hrest

end Paintbox.Registry

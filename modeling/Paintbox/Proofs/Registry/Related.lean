import Paintbox.Proofs.Registry.Entries

/-!
# Registries that differ in their entries only

Where an entry goes and which handle it gets does not depend on what the other entries are.  So two
registries with the same handles in the same slots stay so when the same is done to both, and if the
entries were related by some relation they still are.

* `Registry.Related` — the same handles in the same slots, with related entries under them.
* `Registry.Related.resolve`, `Registry.Related.vacancy` — what is found in them, and where the next
  entry goes.
* `Registry.Related.insert`, `Registry.Related.modify`, `Registry.Related.release` — **what is done
  to both of them is answered alike and keeps them related**.
* `Registry.related_modify`, `Registry.map` and `Registry.related_map` — two ways to come by a
  related registry.
-/

namespace Paintbox.Registry

variable {α : Type} {E : α → α → Prop}

lemma rel_map {F : α → α → Prop} {f f' : α → α} (hf : ∀ a b, E a b → F (f a) (f' b))
    {o o' : Option α} (ho : Option.Rel E o o') : Option.Rel F (o.map f) (o'.map f') := by
  cases ho with
  | some hab => exact .some (hf _ _ hab)
  | none => exact .none

/-- Two registries with the same handles in the same slots, and related entries under them. -/
structure Related (E : α → α → Prop) (r r' : Registry α) : Prop where
  table : r'.table = r.table
  next : r'.next = r.next
  capacity : r'.capacity = r.capacity
  handleAt : ∀ i, handleAt r'.slots i = handleAt r.slots i
  get? : ∀ g, Option.Rel E (r.get? g) (r'.get? g)

lemma Related.refl (hE : ∀ a, E a a) (r : Registry α) : r.Related E r where
  table := rfl
  next := rfl
  capacity := rfl
  handleAt := fun _ => rfl
  get? := by
    intro g
    cases r.get? g with
    | none => exact .none
    | some a => exact .some (hE a)

namespace Related

variable {r r' : Registry α} (h : r.Related E r')

include h

/-! ## What is found -/

lemma position (g : UInt16) : r'.position g = r.position g := by
  apply Option.ext
  intro i
  rw [position_eq_some_iff, position_eq_some_iff, h.handleAt]

lemma contains (g : UInt16) : r'.contains g = r.contains g := by
  rw [Registry.contains, Registry.contains, h.position]

lemma live : r'.live = r.live := by
  simp only [live_eq_countP, h.capacity, h.handleAt]

/-- Both find related entries under a handle, or fail for the same reason. -/
lemma resolve (g : UInt16) :
    (∃ a b, r.resolve g = .ok a ∧ r'.resolve g = .ok b ∧ E a b) ∨
      ∃ e, r.resolve g = .error e ∧ r'.resolve g = .error e := by
  rw [Registry.resolve, Registry.resolve]
  split_ifs with hz
  · exact Or.inr ⟨_, rfl, rfl⟩
  · have hget := h.get? g
    cases hr : r.get? g <;> cases hr' : r'.get? g <;> rw [hr, hr'] at hget <;> cases hget
    · exact Or.inr ⟨_, rfl, rfl⟩
    · rename_i hab
      exact Or.inl ⟨_, _, rfl, rfl, hab⟩

/-! ## Where the next entry goes -/

lemma emptySlot : r'.emptySlot = r.emptySlot := by
  have hsize : r'.slots.size = r.slots.size := h.capacity
  have hempty : ∀ i : ℕ, (r'.slots[i]?.join).isNone = (r.slots[i]?.join).isNone := by
    intro i
    have hi := congrArg Option.isNone (h.handleAt i)
    rwa [Paintbox.handleAt, Paintbox.handleAt, Option.isNone_map, Option.isNone_map] at hi
  rw [Registry.emptySlot, Registry.emptySlot, hsize]
  simp only [hempty]

lemma firstFree (tries : ℕ) (g : UInt16) :
    (r'.firstFree tries g).map (·.1) = (r.firstFree tries g).map (·.1) := by
  induction tries generalizing g with
  | zero => rfl
  | succ tries ih =>
      have hfree : r'.Free g ↔ r.Free g := by rw [Free, Free, h.contains]
      rw [Registry.firstFree, Registry.firstFree]
      by_cases hg : r.Free g
      · rw [dif_pos hg, dif_pos (hfree.mpr hg)]
        rfl
      · rw [dif_neg hg, dif_neg (mt hfree.mp hg)]
        exact ih (successor g)

/-- There is room at the same place and for the same handle, or none in both. -/
lemma vacancy : (r.vacancy = none ∧ r'.vacancy = none) ∨
    ∃ v v', r.vacancy = some v ∧ r'.vacancy = some v' ∧ v'.place = v.place ∧
      v'.handle = v.handle := by
  have hempty := h.emptySlot
  have hfree := h.firstFree r.slots.size r.next
  have hsize : r'.slots.size = r.slots.size := h.capacity
  rw [Registry.vacancy, Registry.vacancy]
  split
  · rename_i hnone
    split
    · exact Or.inl ⟨rfl, rfl⟩
    · rename_i j hsome
      rw [hempty, hnone] at hsome
      cases hsome
  · rename_i i hsome
    split
    · rename_i hnone
      rw [hempty, hsome] at hnone
      cases hnone
    · rename_i j hsome'
      rw [hempty, hsome] at hsome'
      cases hsome'
      rw [hsize, h.next]
      cases hv : r.firstFree r.slots.size r.next <;>
        cases hv' : r'.firstFree r.slots.size r.next <;> rw [hv, hv'] at hfree
      · exact Or.inl ⟨rfl, rfl⟩
      · cases hfree
      · cases hfree
      · exact Or.inr ⟨_, _, rfl, rfl, rfl, Option.some.inj hfree⟩

/-! ## What is done to both -/

/-- What comes in to both of them gets the same handle, if there is room. -/
lemma insert {a b : α} (hab : E a b) :
    (r'.insert b).1 = (r.insert a).1 ∧ (r.insert a).2.Related E (r'.insert b).2 := by
  rw [Registry.insert, Registry.insert]
  rcases h.vacancy with ⟨hv, hv'⟩ | ⟨v, v', hv, hv', hplace, hhandle⟩
  · rw [hv, hv']
    refine ⟨?_, h⟩
    show (Except.error (Error.capacityExceeded r'.table) : Except Error UInt16) = _
    rw [h.table]
  · rw [hv, hv']
    refine ⟨congrArg Except.ok hhandle, ?_⟩
    exact {
      table := h.table
      next := congrArg successor hhandle
      capacity := by rw [capacity_add, capacity_add, h.capacity]
      handleAt := by
        intro i
        show Paintbox.handleAt (r'.slots.set v'.place _ v'.place_lt) i
          = Paintbox.handleAt (r.slots.set v.place _ v.place_lt) i
        rw [handleAt_add, handleAt_add, hplace, hhandle, h.handleAt]
      get? := by
        intro g
        rw [get?_add, get?_add, hhandle]
        split_ifs
        · exact .some hab
        · exact h.get? g }

lemma modify {f f' : α → α} (hf : ∀ a b, E a b → E (f a) (f' b)) (g : UInt16) :
    (r.modify g f).Related E (r'.modify g f') where
  table := by rw [table_modify, table_modify, h.table]
  next := by rw [next_modify, next_modify, h.next]
  capacity := by rw [capacity_modify, capacity_modify, h.capacity]
  handleAt := by
    intro i
    rw [handleAt_slots_modify, handleAt_slots_modify, h.handleAt]
  get? := by
    intro k
    rw [get?_modify, get?_modify]
    split_ifs
    · exact rel_map hf (h.get? k)
    · exact h.get? k

lemma remove (g : UInt16) : (r.remove g).2.Related E (r'.remove g).2 := by
  have hget : ∀ k, Option.Rel E ((r.remove g).2.get? k) ((r'.remove g).2.get? k) := by
    intro k
    rw [get?_remove, get?_remove]
    split_ifs
    · exact .none
    · exact h.get? k
  cases hpos : r.position g with
  | none =>
      have hpos' : r'.position g = none := by rw [h.position, hpos]
      rw [remove_of_dead hpos, remove_of_dead hpos']
      exact h
  | some i =>
      have hpos' : r'.position g = some i := by rw [h.position, hpos]
      exact {
        table := by rw [table_remove, table_remove, h.table]
        next := by simp only [Registry.remove, hpos, hpos', h.next]
        capacity := by rw [capacity_remove, capacity_remove, h.capacity]
        handleAt := by
          intro j
          rw [slots_remove hpos, slots_remove hpos', handleAt_clear, handleAt_clear, h.handleAt]
        get? := hget }

/-- What is released is released in both of them, or in none for the same reason. -/
lemma release (g : UInt16) :
    ((r'.release g).1.map fun _ => ()) = ((r.release g).1.map fun _ => ()) ∧
      (r.release g).2.Related E (r'.release g).2 := by
  refine ⟨?_, ?_⟩
  · by_cases hz : g = 0
    · rw [hz]
      rfl
    · have hget := h.get? g
      cases hr : r.get? g <;> cases hr' : r'.get? g <;> rw [hr, hr'] at hget <;> cases hget
      · rw [release_of_dead hz hr, release_of_dead hz hr']
      · rw [release_of_live hr, release_of_live hr']
        rfl
  · rw [snd_release, snd_release]
    exact h.remove g

end Related

/-! ## Ways to come by a related registry -/

/-- One entry has been changed to a related one. -/
lemma related_modify (hE : ∀ a, E a a) {r : Registry α} {g : UInt16} {f : α → α}
    (hf : ∀ a, r.get? g = some a → E a (f a)) : r.Related E (r.modify g f) where
  table := table_modify r g f
  next := next_modify r g f
  capacity := capacity_modify r g f
  handleAt := handleAt_slots_modify r g f
  get? := by
    intro k
    rw [get?_modify]
    split_ifs with heq
    · rw [heq]
      cases hg : r.get? g with
      | none => exact .none
      | some a => exact .some (hf a hg)
    · exact (Related.refl hE r).get? k

lemma handleAt_map (slots : Array (Option (Slot α))) (f : α → α) (i : ℕ) :
    handleAt (slots.map (·.map (Slot.map f))) i = handleAt slots i := by
  rw [handleAt, handleAt, Array.getElem?_map]
  rcases slots[i]? with _ | _ | s <;> rfl

/-- The registry with all its entries changed. -/
def map (f : α → α) (r : Registry α) : Registry α :=
  { r with
    slots := r.slots.map (·.map (Slot.map f))
    distinct := by
      intro i j h hi hj
      rw [handleAt_map] at hi hj
      exact r.distinct i j h hi hj }

lemma get?_map (f : α → α) (r : Registry α) (g : UInt16) : (r.map f).get? g = (r.get? g).map f := by
  have hpos : (r.map f).position g = r.position g := by
    apply Option.ext
    intro i
    rw [position_eq_some_iff, position_eq_some_iff, map, handleAt_map]
  rw [get?, get?, hpos]
  cases r.position g with
  | none => rfl
  | some i =>
      show (r.slots.map (·.map (Slot.map f)))[i]?.join.map Slot.value
        = (r.slots[i]?.join.map Slot.value).map f
      rw [Array.getElem?_map]
      rcases r.slots[i]? with _ | _ | s <;> rfl

/-- All entries have been changed to related ones. -/
lemma related_map {f : α → α} (hf : ∀ a, E a (f a)) (r : Registry α) : r.Related E (r.map f) where
  table := rfl
  next := rfl
  capacity := Array.size_map
  handleAt := handleAt_map r.slots f
  get? := by
    intro g
    rw [get?_map]
    cases r.get? g with
    | none => exact .none
    | some a => exact .some (hf a)

end Paintbox.Registry

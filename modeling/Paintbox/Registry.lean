import Paintbox.Error

/-!
# Registries

A registry keeps entries under 16-bit handles, in a fixed number of slots.  An entry goes into the
first empty slot, and is looked up by its handle, in whatever slot it is.  Handles are given out in
rising order and start over at 1 after the last one, passing over zero and over every handle that is
still live.

* `Slot`, `Registry` — the slots and the handle to try next; that no two slots have the same handle
  is part of the type.
* `Registry.position` — the slot of a handle.
* `Registry.get?` — **the view**: the entry under a handle, `none` for a dead handle and for zero.
* `Registry.vacancy` — the slot and the handle that the next entry will get, unless the registry is
  full.
* `Registry.insert`, `Registry.remove`, `Registry.modify` — add, take out and change one entry
  (`get?_add`, `get?_remove`, `get?_modify`).
* `Registry.resolve`, `Registry.release` — look up and take out, where a missing entry is an error
  that tells a null handle from a dead one.
-/

namespace Paintbox

/-- An entry with the handle that it is known by. -/
structure Slot (α : Type) where
  handle : UInt16
  value : α
  handle_ne_zero : handle ≠ 0

def Slot.map {α : Type} (f : α → α) (s : Slot α) : Slot α := { s with value := f s.value }

/-- The handle in a slot, if there is an entry in it. -/
def handleAt {α : Type} (slots : Array (Option (Slot α))) (i : Nat) : Option UInt16 :=
  slots[i]?.join.map Slot.handle

/-- Entries of type `α` under 16-bit handles. -/
structure Registry (α : Type) where
  /-- Which table this is, for the error of a full one. -/
  table : Table
  /-- As many slots as entries may be live at a time; some of them are empty. -/
  slots : Array (Option (Slot α))
  /-- The handle to try first for the next entry. -/
  next : UInt16
  next_ne_zero : next ≠ 0
  distinct : ∀ i j h, handleAt slots i = some h → handleAt slots j = some h → i = j

namespace Registry

variable {α : Type}

/-- The registry without entries, which will give out handle 1 first. -/
def empty (table : Table) (capacity : Nat) : Registry α where
  table := table
  slots := Array.replicate capacity none
  next := 1
  next_ne_zero := by decide
  distinct := by
    intro i j h hi
    rw [handleAt, Array.getElem?_replicate] at hi
    split at hi
    · cases hi
    · cases hi

/-- How many entries may be live at a time. -/
def capacity (r : Registry α) : Nat := r.slots.size

/-- How many entries are live. -/
def live (r : Registry α) : Nat := r.slots.countP Option.isSome

/-! ## Looking up -/

/-- The first of the `n` places from `i` on where `p` holds. -/
def scan (p : Nat → Bool) : (n i : Nat) → Option Nat
  | 0, _ => none
  | n + 1, i => if p i then some i else scan p n (i + 1)

/-- A scan that succeeds has passed over places where `p` does not hold. -/
theorem scan_eq_some {p : Nat → Bool} {n i j : Nat} (h : scan p n i = some j) :
    i ≤ j ∧ j < i + n ∧ p j = true := by
  induction n generalizing i with
  | zero => cases h
  | succ n ih =>
      rw [scan] at h
      split at h
      · rename_i hp
        cases h
        exact ⟨Nat.le_refl _, by omega, hp⟩
      · have hrest := ih h
        exact ⟨by omega, by omega, hrest.2.2⟩

theorem scan_eq_none {p : Nat → Bool} {n i : Nat} (h : scan p n i = none) {j : Nat} (hi : i ≤ j)
    (hj : j < i + n) : p j = false := by
  induction n generalizing i with
  | zero => omega
  | succ n ih =>
      rw [scan] at h
      split at h
      · cases h
      · rename_i hp
        by_cases hij : i = j
        · rw [← hij]
          exact Bool.eq_false_iff.mpr hp
        · exact ih h (by omega) (by omega)

/-- The slot of a handle. -/
def position (r : Registry α) (handle : UInt16) : Option Nat :=
  if handle = 0 then none
  else scan (fun i => handleAt r.slots i == some handle) r.slots.size 0

/-- A handle is found in the slot that has it, since no other one has. -/
theorem position_eq_some_iff (r : Registry α) (h : UInt16) (i : Nat) :
    r.position h = some i ↔ handleAt r.slots i = some h := by
  constructor
  · intro hpos
    rw [position] at hpos
    split at hpos
    · cases hpos
    · exact eq_of_beq (scan_eq_some hpos).2.2
  · intro hat
    have hlt : i < r.slots.size := by
      apply Nat.lt_of_not_le
      intro hle
      rw [handleAt, Array.getElem?_eq_none hle] at hat
      cases hat
    have hz : h ≠ 0 := by
      rw [handleAt] at hat
      obtain ⟨s, -, hs⟩ := Option.map_eq_some_iff.mp hat
      rw [← hs]
      exact s.handle_ne_zero
    rw [position, if_neg hz]
    cases hscan : scan (fun i => handleAt r.slots i == some h) r.slots.size 0 with
    | none =>
        have hmiss := scan_eq_none hscan (Nat.zero_le i) (by omega)
        rw [hat] at hmiss
        simp at hmiss
    | some j =>
        have hj := eq_of_beq (scan_eq_some hscan).2.2
        rw [r.distinct j i h hj hat]

/-- The entry under a handle. -/
def get? (r : Registry α) (handle : UInt16) : Option α :=
  (r.position handle).bind fun i => r.slots[i]?.join.map Slot.value

/-- An entry is found under a handle if it is in a slot with that handle. -/
theorem get?_eq_some_iff (r : Registry α) (h : UInt16) (a : α) :
    r.get? h = some a ↔
      ∃ (i : Nat) (s : Slot α), r.slots[i]?.join = some s ∧ s.handle = h ∧ s.value = a := by
  constructor
  · intro hget
    obtain ⟨i, hpos, hval⟩ := Option.bind_eq_some_iff.mp hget
    obtain ⟨s, hs, hsa⟩ := Option.map_eq_some_iff.mp hval
    have hat := (r.position_eq_some_iff h i).mp hpos
    rw [handleAt, hs] at hat
    exact ⟨i, s, hs, Option.some.inj hat, hsa⟩
  · rintro ⟨i, s, hs, hsh, hsa⟩
    have hat : handleAt r.slots i = some h := by rw [handleAt, hs, Option.map_some, hsh]
    rw [get?, (r.position_eq_some_iff h i).mpr hat, Option.bind_some, hs, Option.map_some, hsa]

theorem get?_zero (r : Registry α) : r.get? 0 = none := rfl

/-- Is the handle live? -/
def contains (r : Registry α) (handle : UInt16) : Bool := (r.position handle).isSome

/-- The entry under a handle, or why there is none. -/
def resolve (r : Registry α) (handle : UInt16) : Except Error α :=
  if handle = 0 then
    .error .badHandle
  else
    match r.get? handle with
    | some a => .ok a
    | none => .error (.notFound handle)

/-! ## The next handle -/

/-- The handle after this one in the cycle 1, 2, …, 65535, 1, … -/
def successor (handle : UInt16) : UInt16 :=
  if handle + 1 = 0 then 1 else handle + 1

theorem successor_ne_zero (handle : UInt16) : successor handle ≠ 0 := by
  unfold successor
  split
  · decide
  · assumption

/-- A handle that the next entry may get: it is not zero and not live. -/
def Free (r : Registry α) (handle : UInt16) : Prop := handle ≠ 0 ∧ r.contains handle = false

instance (r : Registry α) (handle : UInt16) : Decidable (r.Free handle) :=
  inferInstanceAs (Decidable (handle ≠ 0 ∧ r.contains handle = false))

/-- The first free handle among `tries` handles of the cycle from `handle` on. -/
def firstFree (r : Registry α) : (tries : Nat) → (handle : UInt16) → Option { h // r.Free h }
  | 0, _ => none
  | tries + 1, handle =>
      if free : r.Free handle then some ⟨handle, free⟩ else firstFree r tries (successor handle)

/-- Where the next entry goes: an empty slot, and a handle that no slot has. -/
structure Vacancy (r : Registry α) where
  place : Nat
  place_lt : place < r.slots.size
  place_empty : r.slots[place]?.join = none
  handle : UInt16
  free : r.Free handle

/-- The first empty slot. -/
def emptySlot (r : Registry α) : Option Nat :=
  scan (fun i => (r.slots[i]?.join).isNone) r.slots.size 0

/-- The first empty slot and the first free handle from the next one on.  A full registry has none.
If there is an empty slot then one of as many handles in a row as there are slots is free. -/
def vacancy (r : Registry α) : Option r.Vacancy :=
  match h : r.emptySlot with
  | none => none
  | some i =>
      (r.firstFree r.slots.size r.next).map fun v =>
        { place := i
          place_lt := by
            have hlt := (scan_eq_some h).2.1
            omega
          place_empty := Option.isNone_iff_eq_none.mp (scan_eq_some h).2.2
          handle := v.1
          free := v.2 }

/-! ## Changing entries -/

theorem join_set {β : Type} (slots : Array (Option β)) (i : Nat) (hi : i < slots.size)
    (entry : Option β) (j : Nat) :
    (slots.set i entry hi)[j]?.join = if i = j then entry else slots[j]?.join := by
  rw [Array.getElem?_set]
  split
  · rfl
  · rfl

theorem join_modify {β : Type} (slots : Array (Option β)) (i : Nat) (f : β → β) (j : Nat) :
    (slots.modify i (·.map f))[j]?.join
      = if i = j then slots[j]?.join.map f else slots[j]?.join := by
  rw [Array.getElem?_modify]
  split
  · rcases slots[j]? with _ | _ | s
    · rfl
    · rfl
    · rfl
  · rfl

theorem handleAt_add {r : Registry α} (v : r.Vacancy) (a : α) (j : Nat) :
    handleAt (r.slots.set v.place (some ⟨v.handle, a, v.free.1⟩) v.place_lt) j
      = if v.place = j then some v.handle else handleAt r.slots j := by
  rw [handleAt, join_set]
  split
  · rfl
  · rfl

theorem Free.handleAt_ne {r : Registry α} {handle : UInt16} (free : r.Free handle) (i : Nat) :
    handleAt r.slots i ≠ some handle := by
  intro hat
  have hin := free.2
  rw [contains, (r.position_eq_some_iff handle i).mpr hat] at hin
  cases hin

/-- Store an entry where there is room for it, and go on after its handle for the next one. -/
def add (r : Registry α) (v : r.Vacancy) (a : α) : Registry α :=
  { r with
    slots := r.slots.set v.place (some ⟨v.handle, a, v.free.1⟩) v.place_lt
    next := successor v.handle
    next_ne_zero := successor_ne_zero v.handle
    distinct := by
      intro i j h hi hj
      rw [handleAt_add] at hi hj
      split at hi
      · split at hj
        · omega
        · cases hi
          exact absurd hj (v.free.handleAt_ne j)
      · split at hj
        · cases hj
          exact absurd hi (v.free.handleAt_ne i)
        · exact r.distinct i j h hi hj }

/-- An added entry is found under its handle, and all others as before. -/
theorem get?_add (r : Registry α) (v : r.Vacancy) (a : α) (h : UInt16) :
    (r.add v a).get? h = if h = v.handle then some a else r.get? h := by
  apply Option.ext
  intro b
  rw [get?_eq_some_iff]
  show (∃ (i : Nat) (s : Slot α),
    (r.slots.set v.place (some ⟨v.handle, a, v.free.1⟩) v.place_lt)[i]?.join = some s ∧
      s.handle = h ∧ s.value = b) ↔ _
  simp only [join_set]
  by_cases heq : h = v.handle
  · rw [if_pos heq]
    constructor
    · rintro ⟨i, s, hs, hsh, hsb⟩
      split at hs
      · cases hs
        rw [← hsb]
      · have hat : handleAt r.slots i = some v.handle := by
          rw [handleAt, hs, Option.map_some, hsh, heq]
        exact absurd hat (v.free.handleAt_ne i)
    · intro hb
      exact ⟨v.place, ⟨v.handle, a, v.free.1⟩, if_pos rfl, heq.symm, Option.some.inj hb⟩
  · rw [if_neg heq, get?_eq_some_iff]
    constructor
    · rintro ⟨i, s, hs, hsh, hsb⟩
      split at hs
      · cases hs
        exact absurd hsh.symm heq
      · exact ⟨i, s, hs, hsh, hsb⟩
    · rintro ⟨i, s, hs, hsh, hsb⟩
      refine ⟨i, s, ?_, hsh, hsb⟩
      rw [if_neg]
      · exact hs
      · intro hplace
        rw [← hplace, v.place_empty] at hs
        cases hs

/-- Store an entry in the first empty slot under the next free handle and answer the handle.  A full
registry refuses and stays as it is. -/
def insert (r : Registry α) (a : α) : Except Error UInt16 × Registry α :=
  match r.vacancy with
  | none => (.error (.capacityExceeded r.table), r)
  | some v => (.ok v.handle, r.add v a)

theorem handleAt_modify (slots : Array (Option (Slot α))) (i : Nat) (f : α → α) (j : Nat) :
    handleAt (slots.modify i (·.map (Slot.map f))) j = handleAt slots j := by
  rw [handleAt, join_modify, handleAt]
  split
  · cases slots[j]?.join with
    | none => rfl
    | some s => rfl
  · rfl

/-- Change the entry under a handle; a handle that is not live changes nothing. -/
def modify (r : Registry α) (handle : UInt16) (f : α → α) : Registry α :=
  match r.position handle with
  | none => r
  | some i =>
      { r with
        slots := r.slots.modify i (·.map (Slot.map f))
        distinct := by
          intro j k h hj hk
          rw [handleAt_modify] at hj hk
          exact r.distinct j k h hj hk }

theorem slots_modify {r : Registry α} {handle : UInt16} {i : Nat}
    (hpos : r.position handle = some i) (f : α → α) :
    (r.modify handle f).slots = r.slots.modify i (·.map (Slot.map f)) := by
  simp only [modify, hpos]

theorem modify_of_dead {r : Registry α} {handle : UInt16} (hpos : r.position handle = none)
    (f : α → α) : r.modify handle f = r := by
  simp only [modify, hpos]

theorem position_modify (r : Registry α) (handle : UInt16) (f : α → α) (h : UInt16) :
    (r.modify handle f).position h = r.position h := by
  cases hpos : r.position handle with
  | none => rw [modify_of_dead hpos]
  | some i => simp only [position, slots_modify hpos, handleAt_modify, Array.size_modify]

/-- A change is seen under its handle and nowhere else. -/
theorem get?_modify (r : Registry α) (handle : UInt16) (f : α → α) (h : UInt16) :
    (r.modify handle f).get? h = if h = handle then (r.get? h).map f else r.get? h := by
  rw [get?, position_modify, get?]
  cases hpos : r.position handle with
  | none =>
      rw [modify_of_dead hpos]
      split
      · rename_i heq
        rw [heq, hpos]
        rfl
      · rfl
  | some i =>
      rw [slots_modify hpos]
      simp only [join_modify]
      cases hpos' : r.position h with
      | none => simp
      | some j =>
          simp only [Option.bind_some]
          by_cases heq : h = handle
          · have hij : i = j := Option.some.inj (hpos.symm.trans (heq ▸ hpos'))
            rw [if_pos heq, if_pos hij]
            cases r.slots[j]?.join with
            | none => rfl
            | some s => rfl
          · have hij : i ≠ j := by
              rintro rfl
              rw [position_eq_some_iff] at hpos hpos'
              exact heq (Option.some.inj (hpos'.symm.trans hpos))
            rw [if_neg heq, if_neg hij]

theorem join_clear {β : Type} (slots : Array (Option β)) (i j : Nat) :
    (slots.setIfInBounds i none)[j]?.join = if i = j then none else slots[j]?.join := by
  rw [Array.getElem?_setIfInBounds]
  split
  · split
    · rfl
    · rfl
  · rfl

theorem handleAt_clear (slots : Array (Option (Slot α))) (i j : Nat) :
    handleAt (slots.setIfInBounds i none) j = if i = j then none else handleAt slots j := by
  rw [handleAt, join_clear]
  split
  · rfl
  · rfl

/-- Take out the entry under a handle and answer it. -/
def remove (r : Registry α) (handle : UInt16) : Option α × Registry α :=
  match r.position handle with
  | none => (none, r)
  | some i =>
      (r.slots[i]?.join.map Slot.value,
        { r with
          slots := r.slots.setIfInBounds i none
          distinct := by
            intro j k h hj hk
            rw [handleAt_clear] at hj hk
            split at hj
            · cases hj
            · split at hk
              · cases hk
              · exact r.distinct j k h hj hk })

theorem fst_remove (r : Registry α) (handle : UInt16) : (r.remove handle).1 = r.get? handle := by
  rw [remove, get?]
  cases r.position handle with
  | none => rfl
  | some i => rfl

theorem slots_remove {r : Registry α} {handle : UInt16} {i : Nat}
    (hpos : r.position handle = some i) :
    (r.remove handle).2.slots = r.slots.setIfInBounds i none := by
  simp only [remove, hpos]

theorem remove_of_dead {r : Registry α} {handle : UInt16} (hpos : r.position handle = none) :
    r.remove handle = (none, r) := by
  simp only [remove, hpos]

/-- An entry that was taken out is found no more, and all others are found as before. -/
theorem get?_remove (r : Registry α) (handle h : UInt16) :
    (r.remove handle).2.get? h = if h = handle then none else r.get? h := by
  cases hpos : r.position handle with
  | none =>
      rw [remove_of_dead hpos]
      split
      · rename_i heq
        rw [heq, get?, hpos]
        rfl
      · rfl
  | some i =>
      have hat := (r.position_eq_some_iff handle i).mp hpos
      apply Option.ext
      intro a
      rw [get?_eq_some_iff, slots_remove hpos]
      simp only [join_clear]
      by_cases heq : h = handle
      · rw [if_pos heq]
        refine iff_of_false ?_ (by simp)
        rintro ⟨j, s, hs, hsh, -⟩
        split at hs
        · cases hs
        · -- another slot with the same handle
          rename_i hij
          have hat' : handleAt r.slots j = some handle := by
            rw [handleAt, hs, Option.map_some, hsh, heq]
          exact hij (r.distinct i j handle hat hat')
      · rw [if_neg heq, get?_eq_some_iff]
        constructor
        · rintro ⟨j, s, hs, hsh, hsa⟩
          split at hs
          · cases hs
          · exact ⟨j, s, hs, hsh, hsa⟩
        · rintro ⟨j, s, hs, hsh, hsa⟩
          refine ⟨j, s, ?_, hsh, hsa⟩
          rw [if_neg]
          · exact hs
          · rintro rfl
            rw [handleAt, hs, Option.map_some, hsh] at hat
            exact heq (Option.some.inj hat)

/-- Take out the entry under a handle, or say why there is none. -/
def release (r : Registry α) (handle : UInt16) : Except Error α × Registry α :=
  if handle = 0 then
    (.error .badHandle, r)
  else
    match r.remove handle with
    | (some a, r) => (.ok a, r)
    | (none, r) => (.error (.notFound handle), r)

end Registry

end Paintbox

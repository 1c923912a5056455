import Paintbox.Proofs.Registry.Entries

/-!
# Guests of a registry

Whoever stores entries in a registry, works on these alone and takes them out again leaves the
registry as it was: every entry goes into a slot that was empty, and the slot is empty again when it
has gone.  Only the handle to try next is not what it was.  As long as they are there, such entries
are guests, and the registry without them is the one from before.

* `Registry.Hosts` — one registry is another one with guests in it.
* `Registry.Hosts.add`, `Registry.Hosts.modify`, `Registry.Hosts.remove` — a guest comes, changes,
  and goes.
* `Registry.Hosts.get?_of_notMem`, `Registry.Hosts.get?_of_mem` — guests have handles that were
  dead, and are not seen under any other.
* `Registry.Hosts.room`, `Registry.Hosts.insert_cases` — how many guests there is room for.
* `Registry.SameEntries` — two registries that differ in the handle to try next at most;
  `Registry.Hosts.sameEntries` — **so they do when the last guest has gone**.
-/

namespace Paintbox

/-- Is the entry in a slot none of the guests? -/
def Slot.isOwn {α : Type} (guests : List UInt16) (s : Slot α) : Bool := s.handle ∉ guests

namespace Registry

variable {α : Type}

/-! ## The same entries -/

/-- The entries of two registries are the same, slot by slot and with their handles. -/
structure SameEntries (r r' : Registry α) : Prop where
  table : r'.table = r.table
  slots : r'.slots = r.slots

namespace SameEntries

variable {r r' : Registry α}

/-- Every handle denotes what it denoted. -/
lemma get? (h : r.SameEntries r') (g : UInt16) : r'.get? g = r.get? g := by
  simp only [Registry.get?, Registry.position, h.slots]

/-- The same handles are live. -/
lemma handles (h : r.SameEntries r') : r'.handles = r.handles := by
  simp only [Registry.handles, h.slots]

end SameEntries

/-! ## Guests -/

/-- The registry `r'` is `r` with an entry more under each of the handles `guests`: a slot that
holds none of them holds what it held before. -/
structure Hosts (r : Registry α) (guests : List UInt16) (r' : Registry α) : Prop where
  table : r'.table = r.table
  capacity : r'.capacity = r.capacity
  slots : ∀ i : ℕ, r.slots[i]?.join = (r'.slots[i]?.join).filter (Slot.isOwn guests)
  lodged : ∀ g ∈ guests, ∃ a, r'.get? g = some a
  distinct : guests.Nodup
  count : r'.live = r.live + guests.length

variable {r r' : Registry α} {guests : List UInt16} {g : UInt16}

/-- Without guests every slot holds what it holds. -/
lemma filter_isOwn_nil (o : Option (Slot α)) : o.filter (Slot.isOwn []) = o := by
  cases o <;> rfl

/-- The slot of a guest counts as empty. -/
lemma filter_isOwn_guest {s : Slot α} (hs : s.handle ∈ guests) :
    (some s).filter (Slot.isOwn guests) = none := by
  simp [Option.filter_some, Slot.isOwn, hs]

/-- Whether a handle is among the guests is of no matter to the slots of other entries. -/
lemma filter_isOwn_cons {o : Option (Slot α)} (ho : ∀ s, o = some s → s.handle ≠ g) :
    o.filter (Slot.isOwn (g :: guests)) = o.filter (Slot.isOwn guests) := by
  cases o with
  | none => rfl
  | some s =>
      have hne := ho s rfl
      simp [Option.filter_some, Slot.isOwn, hne]

namespace Hosts

lemma refl (r : Registry α) : r.Hosts [] r where
  table := rfl
  capacity := rfl
  slots := fun _ => (filter_isOwn_nil _).symm
  lodged := fun _ hg => nomatch hg
  distinct := List.nodup_nil
  count := rfl

lemma perm (h : r.Hosts guests r') {guests' : List UInt16} (hperm : guests'.Perm guests) :
    r.Hosts guests' r' where
  table := h.table
  capacity := h.capacity
  slots := by
    have hown : Slot.isOwn (α := α) guests' = Slot.isOwn guests := by
      funext s
      simp only [Slot.isOwn, hperm.mem_iff]
    rw [hown]
    exact h.slots
  lodged := fun g hg => h.lodged g (hperm.mem_iff.mp hg)
  distinct := hperm.nodup_iff.mpr h.distinct
  count := by rw [h.count, hperm.length_eq]

/-- A guest comes, and gets a handle that no entry has. -/
lemma add (h : r.Hosts guests r') (v : r'.Vacancy) (a : α) :
    r.Hosts (v.handle :: guests) (r'.add v a) where
  table := h.table
  capacity := (capacity_add r' v a).trans h.capacity
  slots := by
    intro i
    show r.slots[i]?.join
      = ((r'.slots.set v.place (some ⟨v.handle, a, v.free.1⟩) v.place_lt)[i]?.join).filter _
    rw [join_set]
    split_ifs with hi
    · subst hi
      rw [h.slots, v.place_empty]
      exact (filter_isOwn_guest List.mem_cons_self).symm
    · rw [filter_isOwn_cons, ← h.slots]
      intro s hs hsame
      exact v.free.handleAt_ne i (by rw [handleAt, hs, Option.map_some, hsame])
  lodged := by
    intro g hg
    rw [get?_add]
    split_ifs with hnew
    · exact ⟨a, rfl⟩
    · exact h.lodged g ((List.mem_cons.mp hg).resolve_left hnew)
  distinct := by
    refine List.nodup_cons.mpr ⟨fun hin => ?_, h.distinct⟩
    obtain ⟨b, hb⟩ := h.lodged v.handle hin
    exact v.ne_of_live hb rfl
  count := by
    rw [live_add, h.count, List.length_cons]
    omega

/-- A guest changes. -/
lemma modify (h : r.Hosts guests r') (hg : g ∈ guests) (f : α → α) :
    r.Hosts guests (r'.modify g f) where
  table := (table_modify r' g f).trans h.table
  capacity := (capacity_modify r' g f).trans h.capacity
  slots := by
    intro i
    rw [h.slots]
    cases hpos : r'.position g with
    | none => rw [modify_of_dead hpos]
    | some j =>
        rw [slots_modify hpos, join_modify]
        split_ifs with hij
        · rw [hij, position_eq_some_iff, handleAt] at hpos
          obtain ⟨s, hs, rfl⟩ := Option.map_eq_some_iff.mp hpos
          have hg' : (Slot.map f s).handle ∈ guests := hg
          rw [hs, Option.map_some, filter_isOwn_guest hg, filter_isOwn_guest hg']
        · rfl
  lodged := by
    intro g' hg'
    obtain ⟨a, ha⟩ := h.lodged g' hg'
    rw [get?_modify, ha]
    split_ifs
    · exact ⟨f a, rfl⟩
    · exact ⟨a, rfl⟩
  distinct := h.distinct
  count := (live_modify r' g f).trans h.count

/-- The guest that came last goes. -/
lemma remove (h : r.Hosts (g :: guests) r') : r.Hosts guests (r'.remove g).2 := by
  obtain ⟨a, ha⟩ := h.lodged g List.mem_cons_self
  obtain ⟨hnew, hdistinct⟩ := List.nodup_cons.mp h.distinct
  obtain ⟨j, -, hpos, -⟩ := exists_slot_of_get? ha
  exact {
    table := (table_remove r' g).trans h.table
    capacity := (capacity_remove r' g).trans h.capacity
    slots := by
      intro i
      have hat := (position_eq_some_iff r' g j).mp hpos
      rw [slots_remove hpos, join_clear, h.slots]
      split_ifs with hji
      · rw [hji, handleAt] at hat
        obtain ⟨s, hs, rfl⟩ := Option.map_eq_some_iff.mp hat
        rw [hs, filter_isOwn_guest List.mem_cons_self]
        rfl
      · refine filter_isOwn_cons ?_
        -- no other slot has the handle
        intro s hs hsame
        exact hji (r'.distinct j i g hat (by rw [handleAt, hs, Option.map_some, hsame]))
    lodged := by
      intro g' hg'
      have hne : g' ≠ g := fun heq => hnew (heq ▸ hg')
      rw [get?_remove, if_neg hne]
      exact h.lodged g' (List.mem_cons_of_mem g hg')
    distinct := hdistinct
    count := by
      have hone := live_remove ha
      have hall := h.count
      rw [List.length_cons] at hall
      omega }

/-! ## What is found with guests in it -/

/-- Under every handle that is none of theirs, guests leave what was there. -/
lemma get?_of_notMem (h : r.Hosts guests r') (hg : g ∉ guests) : r'.get? g = r.get? g := by
  refine Option.ext fun a => ?_
  rw [get?_eq_some_iff, get?_eq_some_iff]
  constructor
  · rintro ⟨i, s, hs, rfl, rfl⟩
    have hown : Slot.isOwn guests s = true := decide_eq_true hg
    exact ⟨i, s, by rw [h.slots, hs, Option.filter_some_pos hown], rfl, rfl⟩
  · rintro ⟨i, s, hs, rfl, rfl⟩
    rw [h.slots] at hs
    exact ⟨i, s, (Option.filter_eq_some_iff.mp hs).1, rfl, rfl⟩

/-- The handles of guests were dead. -/
lemma get?_of_mem (h : r.Hosts guests r') (hg : g ∈ guests) : r.get? g = none := by
  refine Option.eq_none_iff_forall_ne_some.mpr fun a ha => ?_
  obtain ⟨i, s, hs, rfl, -⟩ := (get?_eq_some_iff r g a).mp ha
  rw [h.slots] at hs
  have hown := (Option.filter_eq_some_iff.mp hs).2
  exact of_decide_eq_true hown hg

/-- The live handles are those from before only if there are no guests. -/
lemma mem_handles_iff_iff (h : r.Hosts guests r') :
    (∀ g, g ∈ r'.handles ↔ g ∈ r.handles) ↔ guests = [] := by
  constructor
  · intro hsame
    refine List.eq_nil_iff_forall_not_mem.mpr fun g hg => ?_
    obtain ⟨a, ha⟩ := h.lodged g hg
    have hlive : g ∈ r'.handles := (mem_handles r' g).mpr (by rw [ha, Option.isSome_some])
    have hdead := (mem_handles r g).mp ((hsame g).mp hlive)
    rw [h.get?_of_mem hg] at hdead
    cases hdead
  · rintro rfl g
    rw [mem_handles, mem_handles, h.get?_of_notMem List.not_mem_nil]

/-- When the last guest has gone the entries are those from before. -/
lemma sameEntries (h : r.Hosts [] r') : r.SameEntries r' where
  table := h.table
  slots := by
    have hsize : r'.slots.size = r.slots.size := h.capacity
    refine Array.ext hsize fun i hi hi' => ?_
    have hslot := h.slots i
    rw [filter_isOwn_nil, Array.getElem?_eq_getElem hi, Array.getElem?_eq_getElem hi'] at hslot
    exact hslot.symm

/-! ## Room for guests -/

/-- The guests that are there have found room. -/
lemma room (h : r.Hosts guests r') : r.live + guests.length ≤ r.capacity := by
  rw [← h.count, ← h.capacity]
  exact live_le_capacity r'

/-- One more guest is refused if there is no room for one more, and gets room otherwise. -/
lemma insert_cases (h : r.Hosts guests r') (hcap : r.capacity ≤ 65535) (a : α) :
    (∃ v : r'.Vacancy, r'.insert a = (.ok v.handle, r'.add v a)) ∨
      r'.insert a = (.error (.capacityExceeded r.table), r') ∧
        r.capacity ≤ r.live + guests.length := by
  rcases (live_le_capacity r').lt_or_eq with hroom | hfull
  · exact Or.inl (insert_of_room (h.capacity ▸ hcap) hroom a)
  · refine Or.inr ⟨h.table ▸ insert_of_full hfull a, ?_⟩
    rw [← h.count, ← h.capacity, hfull]

end Hosts

end Registry

end Paintbox

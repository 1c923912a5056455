import Paintbox.Proofs.Registry.Cycle

/-!
# Room in a registry

A registry has room for one more entry as long as one of its slots is empty.  Then there is a handle
for the entry, too: there are more handles than slots, so the search along the cycle of handles
meets one that no slot has.

* `Registry.handles` — the live handles, slot by slot.
* `Registry.mem_handles`, `Registry.nodup_handles`, `Registry.length_handles` — **they are those
  under which something is found**, without repetition, and as many as the registry counts.
* `Registry.free_iff` — the free handles are those that are not live, without zero.
* `Registry.exists_emptySlot`, `Registry.live_lt_capacity` — a registry that is not full has an empty
  slot, and one with an empty slot is not full.
* `Registry.le_live_of_run` — the cycle has no more live handles in a row than there are.
* `Registry.exists_vacancy` — **a registry that is not full has a free handle, too**.
* `Registry.exists_steps_of_vacancy` — the handle of the next entry, and what was passed over.
-/

namespace Paintbox.Registry

variable {α : Type}

/-! ## The live handles -/

/-- The live handles in the order of their slots. -/
def handles (r : Registry α) : List UInt16 := r.slots.toList.filterMap (·.map Slot.handle)

lemma handleAt_of_lt {slots : Array (Option (Slot α))} {i : ℕ} (hi : i < slots.size) :
    handleAt slots i = slots[i].map Slot.handle := by
  rw [handleAt, Array.getElem?_eq_getElem hi, Option.join_some]

lemma lt_of_handleAt {slots : Array (Option (Slot α))} {i : ℕ} {h : UInt16}
    (hat : handleAt slots i = some h) : i < slots.size := by
  by_contra hout
  rw [handleAt, Array.getElem?_eq_none (by omega)] at hat
  simp at hat

lemma mem_handles_iff_handleAt (r : Registry α) (h : UInt16) :
    h ∈ r.handles ↔ ∃ i, handleAt r.slots i = some h := by
  rw [handles, List.mem_filterMap]
  constructor
  · rintro ⟨s, hs, hh⟩
    obtain ⟨i, hi, rfl⟩ := List.getElem_of_mem hs
    exact ⟨i, by rw [handleAt_of_lt (by simpa using hi), ← hh, Array.getElem_toList]⟩
  · rintro ⟨i, hat⟩
    have hi := lt_of_handleAt hat
    rw [handleAt_of_lt hi] at hat
    exact ⟨r.slots[i], Array.getElem_mem_toList hi, hat⟩

lemma contains_eq_isSome (r : Registry α) (h : UInt16) : r.contains h = (r.get? h).isSome := by
  rw [contains, get?]
  cases hpos : r.position h with
  | none => rfl
  | some i =>
      rw [position_eq_some_iff, handleAt] at hpos
      obtain ⟨s, hs, -⟩ := Option.map_eq_some_iff.mp hpos
      simp [hs]

lemma mem_handles (r : Registry α) (h : UInt16) : h ∈ r.handles ↔ (r.get? h).isSome := by
  rw [mem_handles_iff_handleAt, ← contains_eq_isSome, contains, Option.isSome_iff_exists]
  simp only [position_eq_some_iff]

lemma zero_notMem_handles (r : Registry α) : 0 ∉ r.handles := by
  simp [mem_handles, get?_zero]

/-- The next entry may get any handle that is not live, except zero. -/
lemma free_iff (r : Registry α) (h : UInt16) : r.Free h ↔ h ≠ 0 ∧ h ∉ r.handles := by
  rw [Free, mem_handles, ← contains_eq_isSome, Bool.not_eq_true]

/-- No handle comes twice, because no two slots have the same one. -/
lemma nodup_handles (r : Registry α) : r.handles.Nodup := by
  rw [handles, List.Nodup, List.pairwise_filterMap, List.pairwise_iff_getElem]
  intro i j hi hj hij h hh h' hh'
  rintro rfl
  simp only [Array.getElem_toList] at hh hh'
  have hati : handleAt r.slots i = some h := by
    rw [handleAt_of_lt (by simpa using hi), hh]
  have hatj : handleAt r.slots j = some h := by
    rw [handleAt_of_lt (by simpa using hj), hh']
  have hsame := r.distinct i j h hati hatj
  omega

/-- The count of a registry is the number of its live handles. -/
lemma length_handles (r : Registry α) : r.handles.length = r.live := by
  rw [handles, List.length_filterMap_eq_countP, live, ← Array.countP_toList]
  simp only [Option.isSome_map]

lemma live_le_capacity (r : Registry α) : r.live ≤ r.capacity := Array.countP_le_size

/-! ## There is room -/

/-- A registry that is not full has an empty slot. -/
lemma exists_emptySlot {r : Registry α} (hroom : r.live < r.capacity) :
    ∃ i, r.emptySlot = some i := by
  rw [← Option.ne_none_iff_exists']
  intro hnone
  have hfull : r.live = r.capacity := by
    rw [live, capacity, Array.countP_eq_size]
    intro s hs
    obtain ⟨i, hi, rfl⟩ := Array.getElem_of_mem hs
    have hmiss := scan_eq_none hnone (Nat.zero_le i) (by omega)
    simpa [Array.getElem?_eq_getElem hi] using hmiss
  omega

/-- Handles in a row that are all live are no more than are live at all, because no handle comes
twice before the cycle closes. -/
lemma le_live_of_run {r : Registry α} {h : UInt16} (hz : h ≠ 0) {n : ℕ} (hn : n ≤ 65535)
    (hlive : ∀ i < n, successor^[i] h ∈ r.handles) : n ≤ r.live := by
  set passed := (List.range n).map fun i => successor^[i] h with hpassed
  have hnodup : passed.Nodup := by
    refine List.Nodup.map_on ?_ List.nodup_range
    intro i hi j hj heq
    simp only [List.mem_range] at hi hj
    exact iterate_successor_injOn hz (by omega) (by omega) heq
  have hsub : passed ⊆ r.handles := by
    intro g hg
    simp only [hpassed, List.mem_map, List.mem_range] at hg
    obtain ⟨i, hi, rfl⟩ := hg
    exact hlive i hi
  have hlen := (hnodup.subperm hsub).length_le
  rwa [length_handles, hpassed, List.length_map, List.length_range] at hlen

/-- A handle of the cycle that is not free is live. -/
lemma mem_handles_of_not_free {r : Registry α} {n : ℕ} (h : ¬ r.Free (successor^[n] r.next)) :
    successor^[n] r.next ∈ r.handles := by
  rw [free_iff, not_and_not_right] at h
  exact h (iterate_successor_ne_zero r.next_ne_zero n)

/-- The search for a free handle succeeds.  Otherwise all handles that it has tried are live, and
these are more than are live at all. -/
lemma exists_firstFree {r : Registry α} (hcap : r.capacity ≤ 65535) (hroom : r.live < r.capacity) :
    ∃ v, r.firstFree r.slots.size r.next = some v := by
  rw [← Option.ne_none_iff_exists']
  intro hnone
  rw [firstFree_eq_none_iff] at hnone
  have hle := le_live_of_run r.next_ne_zero hcap fun i hi => mem_handles_of_not_free (hnone i hi)
  omega

/-- **A registry that is not full has room**: an empty slot and a free handle. -/
lemma exists_vacancy {r : Registry α} (hcap : r.capacity ≤ 65535) (hroom : r.live < r.capacity) :
    ∃ v, r.vacancy = some v := by
  obtain ⟨i, hi⟩ := exists_emptySlot hroom
  obtain ⟨v, hv⟩ := exists_firstFree hcap hroom
  rw [vacancy]
  split
  · rename_i hnone
    rw [hnone] at hi
    cases hi
  · rw [hv]
    exact ⟨_, rfl⟩

/-- A registry with an empty slot is not full. -/
lemma live_lt_capacity {r : Registry α} {i : ℕ} (hempty : r.emptySlot = some i) :
    r.live < r.capacity := by
  obtain ⟨-, hi, hnone⟩ := scan_eq_some hempty
  have hlt : i < r.slots.size := by omega
  refine lt_of_le_of_ne (live_le_capacity r) fun hfull => ?_
  rw [live, capacity, Array.countP_eq_size] at hfull
  have hsome := hfull r.slots[i] (Array.getElem_mem hlt)
  rw [Array.getElem?_eq_getElem hlt, Option.join_some, Option.isNone_iff_eq_none] at hnone
  rw [hnone] at hsome
  cases hsome

/-- In a full registry every slot is taken. -/
lemma vacancy_eq_none_of_full {r : Registry α} (hfull : r.live = r.capacity) :
    r.vacancy = none := by
  rw [vacancy]
  split
  · rfl
  · rename_i i hempty
    exact absurd hfull (live_lt_capacity hempty).ne

/-- The handle that the next entry gets is found along the cycle, past live handles only. -/
lemma exists_steps_of_vacancy {r : Registry α} {v : r.Vacancy} (hv : r.vacancy = some v) :
    ∃ n, v.handle = successor^[n] r.next ∧ ∀ i < n, successor^[i] r.next ∈ r.handles := by
  rw [vacancy] at hv
  split at hv
  · cases hv
  · obtain ⟨w, hw, rfl⟩ := Option.map_eq_some_iff.mp hv
    obtain ⟨n, -, hwn, hpassed⟩ := exists_of_firstFree hw
    exact ⟨n, hwn, fun i hi => mem_handles_of_not_free (hpassed i hi)⟩

end Paintbox.Registry

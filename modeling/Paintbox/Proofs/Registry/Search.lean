import Paintbox.Proofs.Loop
import Paintbox.Proofs.Registry.Ledger

/-!
# The search for a free handle ends

The search takes the handle that is up, moves on to the next one, and looks whether the one that it
has taken is free; if not it starts over, and nothing counts how often.  It ends because the cycle
of handles comes by every handle, so also by a free one, and it ends soon because what it has taken
until then are live handles, all different.  An insertion searches only if it has an empty slot.  A
registry has no more slots than there are handles, so then there is a free one.

* `Registry.Probe` — one round: the handle that is taken, and the one that is up after it.
* `Registry.exists_first_free` — **the first free handle on the cycle**, and how far off it is.
* `Registry.exists_search` — the rounds of the search.
* `Registry.firstFree_eq_some`, `Registry.insert_of_emptySlot` — the search within a bound, and the
  insertion that makes it.
* `Registry.search_ends` — all of it.
-/

namespace Paintbox.Registry

variable {α : Type} {r : Registry α}

/-! ## Rounds -/

/-- One round of the search. -/
structure Probe where
  /-- The handle that is taken. -/
  candidate : UInt16
  /-- The handle that is up after this round. -/
  next : UInt16

/-- The round that takes a given handle. -/
def Probe.of (h : UInt16) : Probe := ⟨h, successor h⟩

/-- The round after this one. -/
def Probe.again (s : Probe) : Probe := .of s.next

lemma iterate_again (h : UInt16) (n : ℕ) : Probe.again^[n] (.of h) = .of (successor^[n] h) := by
  induction n with
  | zero => rfl
  | succ n ih =>
      rw [Function.iterate_succ_apply', ih, Function.iterate_succ_apply']
      rfl

/-! ## The first free handle -/

/-- If there is a free handle at all, the search comes to one after live handles only, and after no
more of them than there are. -/
lemma exists_first_free (hfree : ∃ g, r.Free g) :
    ∃ n ≤ r.live, r.Free (successor^[n] r.next) ∧
      ∀ i < n, successor^[i] r.next ∈ r.handles := by
  obtain ⟨g, hg⟩ := hfree
  obtain ⟨k, hk, rfl⟩ := exists_iterate_successor_eq r.next_ne_zero hg.1
  have hsome : ∃ n, r.Free (successor^[n] r.next) := ⟨k, hg⟩
  have hlive : ∀ i < Nat.find hsome, successor^[i] r.next ∈ r.handles :=
    fun i hi => mem_handles_of_not_free (Nat.find_min hsome hi)
  have hle : Nat.find hsome ≤ k := Nat.find_min' hsome hg
  exact ⟨Nat.find hsome, le_live_of_run r.next_ne_zero (by omega) hlive, Nat.find_spec hsome, hlive⟩

/-- The search is left in the round that takes the first free handle. -/
lemma exists_search {n : ℕ} (hfree : r.Free (successor^[n] r.next))
    (hlive : ∀ i < n, successor^[i] r.next ∈ r.handles) :
    ∃ passed, passed.length = n ∧
      Loop (fun s => ¬ r.Free s.candidate) Probe.again (.of r.next) passed
        (.of (successor^[n] r.next)) := by
  have hloop : Loop (fun s => ¬ r.Free s.candidate) Probe.again (.of r.next)
      ((List.range n).map fun k => Probe.again^[k] (.of r.next)) (Probe.again^[n] (.of r.next)) :=
    .of_iterate
      (fun i hi => by
        rw [iterate_again]
        exact fun hfree => ((r.free_iff _).mp hfree).2 (hlive i hi))
      (by
        rw [iterate_again]
        exact not_not.mpr hfree)
  rw [iterate_again] at hloop
  exact ⟨_, by rw [List.length_map, List.length_range], hloop⟩

/-- Given more rounds than are needed, the search within a bound finds the same. -/
lemma firstFree_eq_some {n tries : ℕ} (hfree : r.Free (successor^[n] r.next))
    (hlive : ∀ i < n, successor^[i] r.next ∈ r.handles) (htries : n < tries) :
    r.firstFree tries r.next = some ⟨successor^[n] r.next, hfree⟩ := by
  have hne : r.firstFree tries r.next ≠ none := by
    rw [Ne, firstFree_eq_none_iff]
    exact fun hall => hall n htries hfree
  obtain ⟨v, hv⟩ := Option.ne_none_iff_exists'.mp hne
  obtain ⟨m, -, hvm, hpassed⟩ := exists_of_firstFree hv
  have hmn : m = n := by
    rcases Nat.lt_trichotomy m n with hlt | heq | hgt
    · have hfree' := v.2
      rw [hvm, free_iff] at hfree'
      exact absurd (hlive m hlt) hfree'.2
    · exact heq
    · exact absurd hfree (hpassed n hgt)
  rw [hv, Option.some.injEq, Subtype.ext_iff, hvm, hmn]

/-! ## Insertion -/

/-- A registry with an empty slot has a free handle. -/
lemma exists_free_of_emptySlot (hcap : r.capacity ≤ 65535) {i : ℕ} (hempty : r.emptySlot = some i) :
    ∃ g, r.Free g := by
  obtain ⟨v, -⟩ := exists_firstFree hcap (live_lt_capacity hempty)
  exact ⟨v.1, v.2⟩

/-- An insertion into an empty slot takes the first free handle, and leaves the next one up. -/
lemma insert_of_emptySlot {n i : ℕ} (hempty : r.emptySlot = some i) (hn : n ≤ r.live)
    (hfree : r.Free (successor^[n] r.next)) (hlive : ∀ i < n, successor^[i] r.next ∈ r.handles)
    (a : α) :
    ∃ r', r.insert a = (.ok (successor^[n] r.next), r') ∧
      r'.next = successor (successor^[n] r.next) := by
  have hroom : n < r.slots.size := hn.trans_lt (live_lt_capacity hempty)
  obtain ⟨v, hv, hvn⟩ : ∃ v, r.vacancy = some v ∧ v.handle = successor^[n] r.next := by
    rw [vacancy]
    split
    · rename_i hnone
      rw [hnone] at hempty
      cases hempty
    · rw [firstFree_eq_some hfree hlive hroom]
      exact ⟨_, rfl, rfl⟩
  rw [← hvn]
  refine ⟨r.add v a, ?_, rfl⟩
  rw [insert, hv]

/-- Without an empty slot nothing is searched for, and the counter stays where it is. -/
lemma insert_of_no_emptySlot (hfull : r.emptySlot = none) (a : α) :
    r.insert a = (.error (.capacityExceeded r.table), r) := by
  refine insert_of_full ((live_le_capacity r).antisymm (not_lt.mp fun hroom => ?_)) a
  obtain ⟨i, hempty⟩ := exists_emptySlot hroom
  rw [hfull] at hempty
  cases hempty

/-! ## The search -/

/-- **The search for a free handle ends with the first one.**  The cycle, from the handle that is up
in any registry, counts on from there, and after 65535 comes 1.

If some handle is free, the search ends.  The rounds that it takes are at most one more than there
are live handles.  Each of them but the last has taken a live handle, the last one takes the first
handle of the cycle that is not live, which is not zero, and the handle that is up then is the one
after it, which is not zero either.  A search within a bound finds the same handle if the bound
admits so many rounds.

An insertion begins to search only if it has found an empty slot.  If the registry has no more slots
than it may have, there is a free handle then, and the insertion takes the one that the search ends
with and leaves up what the search leaves up. -/
theorem search_ends (r : Registry α) :
    (∀ i, (successor^[i] r.next).toNat = (r.next.toNat - 1 + i) % 65535 + 1) ∧
    ((∃ g, r.Free g) →
      ∃ passed last, Loop (fun s => ¬ r.Free s.candidate) Probe.again (.of r.next) passed last ∧
        passed.length + 1 ≤ r.live + 1 ∧
        last.candidate = successor^[passed.length] r.next ∧
        (∀ i < passed.length, successor^[i] r.next ∈ r.handles) ∧
        last.candidate ≠ 0 ∧ last.candidate ∉ r.handles ∧
        last.next = successor last.candidate ∧ last.next ≠ 0 ∧
        (∀ tries > passed.length,
          (r.firstFree tries r.next).map Subtype.val = some last.candidate) ∧
        ∀ i, r.emptySlot = some i → ∀ a, ∃ r',
          r.insert a = (.ok last.candidate, r') ∧ r'.next = last.next) ∧
    (r.capacity ≤ Settings.maxSlots → ∀ i, r.emptySlot = some i → ∃ g, r.Free g) ∧
    (r.emptySlot = none → ∀ a, r.insert a = (.error (.capacityExceeded r.table), r)) := by
  refine ⟨toNat_iterate_successor r.next_ne_zero, fun hsome => ?_,
    fun hcap i hempty => exists_free_of_emptySlot hcap hempty, insert_of_no_emptySlot⟩
  obtain ⟨n, hn, hfree, hlive⟩ := exists_first_free hsome
  obtain ⟨passed, rfl, hloop⟩ := exists_search hfree hlive
  obtain ⟨hproper, hdead⟩ := (r.free_iff _).mp hfree
  refine ⟨passed, _, hloop, Nat.succ_le_succ hn, rfl, hlive, hproper, hdead, rfl,
    successor_ne_zero _, fun tries htries => ?_, fun i hempty a => ?_⟩
  · rw [firstFree_eq_some hfree hlive htries]
    rfl
  · exact insert_of_emptySlot hempty hn hfree hlive a

/-- A full registry at the end of the cycle: the last handle and the first are live, and the last
one is up. -/
def atEnd : Registry ℕ :=
  let start : Registry ℕ := { empty .contexts 2 with next := 65535, next_ne_zero := by decide }
  { ((start.insert 5).2.insert 6).2 with next := 65535, next_ne_zero := by decide }

/-- There the search passes both live handles, ends with 2, and leaves 3 up.  An insertion does not
begin it. -/
theorem search_ends_at_end :
    (∃ g, atEnd.Free g) ∧ atEnd.live = atEnd.capacity ∧
      (∃ passed last, Loop (fun s => ¬ atEnd.Free s.candidate) Probe.again (.of atEnd.next) passed
          last ∧ passed.length = 2 ∧ last.candidate = 2 ∧ last.next = 3) ∧
      atEnd.insert 7 = (.error (.capacityExceeded .contexts), atEnd) := by
  have hfree : ∃ g, atEnd.Free g := ⟨2, by decide⟩
  obtain ⟨-, hsearch, -, hfull⟩ := search_ends atEnd
  obtain ⟨passed, last, hloop, hlen, hlast, -, -, hdead, hnext, -⟩ := hsearch hfree
  have hlive : atEnd.live = 2 := by decide
  have htwo : passed.length = 2 := by
    have hzero : passed.length ≠ 0 := by
      intro heq
      rw [hlast, heq] at hdead
      exact hdead (by decide)
    have hone : passed.length ≠ 1 := by
      intro heq
      rw [hlast, heq] at hdead
      exact hdead (by decide)
    omega
  rw [htwo] at hlast
  refine ⟨hfree, by decide, ⟨passed, last, hloop, htwo, hlast, ?_⟩, hfull (by decide) 7⟩
  rw [hnext, hlast]
  decide

end Paintbox.Registry

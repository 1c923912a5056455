import Paintbox.Proofs.Registry.Ledger

/-!
# No handle is given out again early

A handle that was given out and then removed may be given out again, but only after the search for
free handles has gone all the way round the cycle.  On its way it passes every other handle, and
each of these is either given out or passed over because it is live.  Those that are live all the
time since the handle was given out are fewer than the registry has slots; all others are given out
in between.

* `Registry.issued` — the handles that a run gives out.
* `Registry.step_cases` — **what one operation can do to the handles**.
* `Registry.Swept` — how far along the cycle the search has come, and what it met; kept by every
  operation (`Swept.step`).
* `Registry.exists_swept_of_issued` — what the search has met when it gives out a handle.
* `Registry.le_of_issued_twice` — **between two times that a handle is given out**.
* `Registry.FirstLap`, `Registry.issued_first_lap` — the first time round no handle is left out.
* `Registry.handles_run_subset` — a handle that is live has been live before or has been given out.
* `Registry.reissue_gap` — all of it, for a registry since it was empty.
* `Registry.Idle`, `Registry.churn` — a run that takes every entry back at once, which gives out
  handle after handle and shows that the bound is sharp.
-/

namespace Paintbox.Registry

variable {α : Type}

/-! ## What a run gives out -/

/-- The handle that an operation gave out, if it did. -/
def Outcome.issued? : Outcome α → Option UInt16
  | .inserted h => some h
  | _ => none

/-- The handles that the insertions of a run gave out, one for each that succeeded. -/
def issued (outcomes : List (Outcome α)) : List UInt16 := outcomes.filterMap Outcome.issued?

lemma issued_run_append (r : Registry α) (ops ops' : List (Operation α)) :
    issued (r.run (ops ++ ops')).1
        = issued (r.run ops).1 ++ issued ((r.run ops).2.run ops').1 ∧
      (r.run (ops ++ ops')).2 = ((r.run ops).2.run ops').2 := by
  induction ops generalizing r with
  | nil => exact ⟨rfl, rfl⟩
  | cons op ops ih =>
      obtain ⟨hissued, hlast⟩ := ih (r.step op).2
      refine ⟨?_, hlast⟩
      simp only [List.cons_append, run, issued, List.filterMap_cons] at hissued ⊢
      cases (r.step op).1.issued? with
      | none => exact hissued
      | some h => rw [hissued, List.cons_append]

lemma mem_handles_add {r : Registry α} (v : r.Vacancy) (a : α) (h : UInt16) :
    h ∈ (r.add v a).handles ↔ h = v.handle ∨ h ∈ r.handles := by
  rw [mem_handles, get?_add, mem_handles]
  split_ifs with heq
  · simp [heq]
  · simp [heq]

/-- An operation gives out the handle that there was room for, or none.  If none, then no handle
has become live and the search goes on where it was. -/
lemma step_cases (r : Registry α) (op : Operation α) :
    (∃ v a, r.vacancy = some v ∧ r.step op = (.inserted v.handle, r.add v a)) ∨
      ((r.step op).1.issued? = none ∧ (r.step op).2.next = r.next ∧
        (r.step op).2.handles ⊆ r.handles) := by
  cases op with
  | insert a =>
      rw [step, insert]
      cases hv : r.vacancy with
      | none => exact Or.inr ⟨rfl, rfl, List.Subset.refl _⟩
      | some v => exact Or.inl ⟨v, a, rfl, rfl⟩
  | modify h f =>
      refine Or.inr ⟨rfl, next_modify r h f, fun g hg => ?_⟩
      rw [mem_handles] at hg ⊢
      rw [step, get?_modify] at hg
      split_ifs at hg
      · simpa using hg
      · exact hg
  | remove h =>
      refine Or.inr ⟨rfl, ?_, fun g hg => ?_⟩
      · rw [step, remove]
        split <;> rfl
      · rw [mem_handles] at hg ⊢
        rw [step, get?_remove] at hg
        split_ifs at hg
        · simp at hg
        · exact hg
  | get h => exact Or.inr ⟨rfl, rfl, List.Subset.refl _⟩
  | contains h => exact Or.inr ⟨rfl, rfl, List.Subset.refl _⟩
  | size => exact Or.inr ⟨rfl, rfl, List.Subset.refl _⟩

lemma capacity_step (r : Registry α) (op : Operation α) : (r.step op).2.capacity = r.capacity := by
  cases op with
  | insert a =>
      rw [← capacity_insert r a, step]
      rcases r.insert a with ⟨_ | h, rest⟩
      · rfl
      · rfl
  | modify h f => exact capacity_modify r h f
  | remove h => exact capacity_remove r h
  | _ => rfl

/-! ## The search goes round -/

/-- The search has come `p` steps along the cycle from `start`.  Every handle that it met, and every
handle that is live, is among the `known` ones. -/
structure Swept (start : UInt16) (known : List UInt16) (r : Registry α) (p : ℕ) : Prop where
  next : r.next = successor^[p] start
  met : ∀ q < p, successor^[q] start ∈ known
  live : r.handles ⊆ known

/-- Where there is room for the next entry, everything up to its handle is known. -/
lemma Swept.exists_vacant {start : UInt16} {known : List UInt16} {r : Registry α} {p : ℕ}
    (hs : Swept start known r p) {v : r.Vacancy} (hv : r.vacancy = some v) :
    ∃ t, v.handle = successor^[t] start ∧ ∀ q < t, successor^[q] start ∈ known := by
  obtain ⟨n, hvn, hpassed⟩ := exists_steps_of_vacancy hv
  refine ⟨n + p, ?_, fun q hq => ?_⟩
  · rw [hvn, hs.next, Function.iterate_add_apply]
  · by_cases hqp : q < p
    · exact hs.met q hqp
    · -- the handles from the `p`-th on were passed over just now
      have hlive := hs.live (hpassed (q - p) (by omega))
      rwa [hs.next, ← Function.iterate_add_apply, Nat.sub_add_cancel (by omega)] at hlive

/-- An operation keeps the books of the search, where a handle that it gives out becomes known. -/
lemma Swept.step {start : UInt16} {known : List UInt16} {r : Registry α} {p : ℕ}
    (hs : Swept start known r p) (op : Operation α) :
    ∃ p', Swept start (known ++ (r.step op).1.issued?.toList) (r.step op).2 p' := by
  rcases step_cases r op with ⟨v, a, hv, hstep⟩ | ⟨hnone, hnext, hsub⟩
  · obtain ⟨t, hvt, hmet⟩ := hs.exists_vacant hv
    rw [hstep]
    refine ⟨t + 1, ?_, fun q hq => ?_, fun g hg => ?_⟩
    · rw [Function.iterate_succ_apply', ← hvt]
      rfl
    · rcases Nat.lt_succ_iff_lt_or_eq.mp hq with hlt | rfl
      · exact List.mem_append_left _ (hmet q hlt)
      · rw [← hvt]
        exact List.mem_append_right _ (List.mem_singleton_self _)
    · rcases (mem_handles_add v a g).mp hg with rfl | hlive
      · exact List.mem_append_right _ (List.mem_singleton_self _)
      · exact List.mem_append_left _ (hs.live hlive)
  · rw [hnone, Option.toList_none, List.append_nil]
    exact ⟨p, hnext.trans hs.next, hs.met, fun g hg => hs.live (hsub hg)⟩

/-- When a run gives out a handle, every handle that the search met before is known from the start
or has been given out before in the run. -/
lemma exists_swept_of_issued (ops : List (Operation α)) :
    ∀ {start : UInt16} {known : List UInt16} {r : Registry α} {p : ℕ}, Swept start known r p →
      ∀ {j : ℕ} {h : UInt16}, (issued (r.run ops).1)[j]? = some h →
        ∃ t, h = successor^[t] start ∧
          ∀ q < t, successor^[q] start ∈ known ++ (issued (r.run ops).1).take j := by
  induction ops with
  | nil =>
      intro start known r p _ j h hj
      simp [run, issued] at hj
  | cons op ops ih =>
      intro start known r p hs j h hj
      obtain ⟨p', hs'⟩ := hs.step op
      rcases step_cases r op with ⟨v, a, hv, hstep⟩ | ⟨hnone, -⟩
      · rw [hstep] at hs'
        simp only [run, hstep, issued, List.filterMap_cons, Outcome.issued?] at hj ⊢
        cases j with
        | zero =>
            obtain ⟨t, hvt, hmet⟩ := hs.exists_vacant hv
            rw [List.getElem?_cons_zero, Option.some.injEq] at hj
            refine ⟨t, hj.symm.trans hvt, fun q hq => ?_⟩
            rw [List.take_zero, List.append_nil]
            exact hmet q hq
        | succ j =>
            obtain ⟨t, hht, hmet⟩ := ih hs' hj
            refine ⟨t, hht, fun q hq => ?_⟩
            have hq' := hmet q hq
            rw [List.append_assoc] at hq'
            exact hq'
      · rw [hnone, Option.toList_none, List.append_nil] at hs'
        simp only [run, issued, List.filterMap_cons, hnone] at hj ⊢
        exact ih hs' hj

/-! ## The same handle twice -/

/-- A handle comes again after 65534 steps from its successor, and not before. -/
lemma le_of_iterate_successor_eq {h : UInt16} (hz : h ≠ 0) {t : ℕ}
    (heq : h = successor^[t] (successor h)) : 65534 ≤ t := by
  by_contra hlt
  rw [← Function.iterate_succ_apply] at heq
  have hzero := iterate_successor_injOn (i := 0) hz (by omega) (by omega) heq
  omega

/-- Right after a handle was given out the search starts at its successor, and only the live handles
are known. -/
lemma swept_add (r : Registry α) (v : r.Vacancy) (a : α) :
    Swept (successor v.handle) (r.add v a).handles (r.add v a) 0 where
  next := rfl
  met := fun q hq => absurd hq (Nat.not_lt_zero q)
  live := List.Subset.refl _

/-- If all handles but one are live or listed, the list has one for each handle beyond those that
the other slots can hold. -/
lemma le_length_of_swept {r : Registry α} {h : UInt16} (hz : h ≠ 0) (hlive : h ∈ r.handles)
    {between : List UInt16}
    (hmet : ∀ q < 65534, successor^[q] (successor h) ∈ r.handles ++ between) :
    65535 - r.capacity ≤ between.length := by
  set others := (List.range 65534).map fun q => successor^[q] (successor h) with hothers
  have hnodup : others.Nodup := by
    refine List.Nodup.map_on ?_ List.nodup_range
    intro i hi j hj heq
    simp only [List.mem_range] at hi hj
    exact iterate_successor_injOn (successor_ne_zero h) (by omega) (by omega) heq
  have hsub : others ⊆ r.handles.erase h ++ between := by
    intro g hg
    simp only [hothers, List.mem_map, List.mem_range] at hg
    obtain ⟨q, hq, rfl⟩ := hg
    have hne : successor^[q] (successor h) ≠ h := by
      intro heq
      have := le_of_iterate_successor_eq hz heq.symm
      omega
    rcases List.mem_append.mp (hmet q hq) with hin | hin
    · exact List.mem_append_left _ ((List.mem_erase_of_ne hne).mpr hin)
    · exact List.mem_append_right _ hin
  have hlen := (hnodup.subperm hsub).length_le
  rw [hothers, List.length_map, List.length_range, List.length_append,
    List.length_erase_of_mem hlive, length_handles] at hlen
  have hpos : 0 < r.live := by
    rw [← length_handles]
    exact List.length_pos_of_mem hlive
  have hcap := live_le_capacity r
  omega

/-- **Between two times that a handle is given out, many others are.** -/
lemma le_of_issued_twice (ops : List (Operation α)) :
    ∀ (r : Registry α) {i j : ℕ} {h : UInt16}, i < j →
      (issued (r.run ops).1)[i]? = some h → (issued (r.run ops).1)[j]? = some h →
        65535 - r.capacity ≤ j - i - 1 := by
  induction ops with
  | nil =>
      intro r i j h _ hi
      simp [run, issued] at hi
  | cons op ops ih =>
      intro r i j h hij hi hj
      have hcap := capacity_step r op
      rcases step_cases r op with ⟨v, a, hv, hstep⟩ | ⟨hnone, -⟩
      · rw [hstep] at hcap
        simp only [run, hstep, issued, List.filterMap_cons, Outcome.issued?] at hi hj
        obtain ⟨j, rfl⟩ := Nat.exists_eq_succ_of_ne_zero (Nat.ne_zero_of_lt hij)
        rw [List.getElem?_cons_succ] at hj
        cases i with
        | zero =>
            rw [List.getElem?_cons_zero, Option.some.injEq] at hi
            subst hi
            obtain ⟨t, ht, hmet⟩ := exists_swept_of_issued ops (swept_add r v a) hj
            have hround := le_of_iterate_successor_eq v.free.1 ht
            have hlive : v.handle ∈ (r.add v a).handles := (mem_handles_add v a _).mpr (Or.inl rfl)
            have hle := le_length_of_swept v.free.1 hlive fun q hq => hmet q (by omega)
            rw [hcap, List.length_take] at hle
            omega
        | succ i =>
            have hrest := ih (r.add v a) (Nat.lt_of_succ_lt_succ hij) hi hj
            rw [hcap] at hrest
            omega
      · simp only [run, issued, List.filterMap_cons, hnone] at hi hj
        have hrest := ih (r.step op).2 hij hi hj
        rwa [hcap] at hrest

/-! ## The first time round -/

/-- The search has not gone round yet.  The first `k` handles of the cycle were given out, and only
such handles are live. -/
structure FirstLap (r : Registry α) (k : ℕ) : Prop where
  next : r.next = successor^[k] 1
  behind : ∀ g ∈ r.handles, ∃ q < k, g = successor^[q] 1

namespace FirstLap

variable {r r' : Registry α} {k : ℕ}

/-- The next handle is not live, and so it is the one that is given out. -/
lemma handle_eq (hr : r.FirstLap k) (hk : k < 65535) {v : r.Vacancy} (hv : r.vacancy = some v) :
    v.handle = successor^[k] 1 := by
  obtain ⟨n, hvn, hpassed⟩ := exists_steps_of_vacancy hv
  rcases Nat.eq_zero_or_pos n with rfl | hpos
  · exact hvn.trans hr.next
  · -- otherwise the next handle would be live and not yet behind
    obtain ⟨q, hqk, hq⟩ := hr.behind _ (hpassed 0 hpos)
    rw [Function.iterate_zero, id_eq, hr.next] at hq
    have := iterate_successor_injOn (by decide) (by omega) (by omega) hq
    omega

lemma add (hr : r.FirstLap k) (hk : k < 65535) {v : r.Vacancy} (hv : r.vacancy = some v) (a : α) :
    (r.add v a).FirstLap (k + 1) where
  next := by
    rw [Function.iterate_succ_apply', ← hr.handle_eq hk hv]
    rfl
  behind := by
    intro g hg
    rcases (mem_handles_add v a g).mp hg with rfl | hlive
    · exact ⟨k, Nat.lt_succ_self k, hr.handle_eq hk hv⟩
    · obtain ⟨q, hq, hgq⟩ := hr.behind g hlive
      exact ⟨q, Nat.lt_succ_of_lt hq, hgq⟩

lemma of_subset (hr : r.FirstLap k) (hnext : r'.next = r.next) (hsub : r'.handles ⊆ r.handles) :
    r'.FirstLap k :=
  ⟨hnext.trans hr.next, fun g hg => hr.behind g (hsub hg)⟩

/-- An operation that gives nothing out does not take the search any further. -/
lemma step (hr : r.FirstLap k) (op : Operation α) (hnone : (r.step op).1.issued? = none) :
    (r.step op).2.FirstLap k := by
  rcases step_cases r op with ⟨v, a, -, hstep⟩ | ⟨-, hnext, hsub⟩
  · rw [hstep] at hnone
    cases hnone
  · exact hr.of_subset hnext hsub

/-- An insertion gives out the next number, if there is room. -/
lemma insert (hr : r.FirstLap k) (hk : k < 65535) (a : α) :
    (∃ e, r.insert a = (.error e, r)) ∨
      ∃ h r', r.insert a = (.ok h, r') ∧ h.toNat = k + 1 ∧ r'.FirstLap (k + 1) := by
  rw [Registry.insert]
  cases hv : r.vacancy with
  | none => exact Or.inl ⟨_, rfl⟩
  | some v =>
      refine Or.inr ⟨_, _, rfl, ?_, hr.add hk hv a⟩
      rw [hr.handle_eq hk hv, toNat_iterate_successor (by decide)]
      have hone : (1 : UInt16).toNat - 1 = 0 := rfl
      omega

end FirstLap

/-- As long as the search has not gone round, only handles that it has left behind are live, and it
gives out one after the other. -/
lemma issued_first_lap (ops : List (Operation α)) :
    ∀ {r : Registry α} {k i : ℕ} {h : UInt16}, r.next = successor^[k] 1 →
      (∀ g ∈ r.handles, ∃ q < k, g = successor^[q] 1) → k + i < 65535 →
        (issued (r.run ops).1)[i]? = some h → h = successor^[k + i] 1 := by
  induction ops with
  | nil =>
      intro r k i h _ _ _ hi
      simp [run, issued] at hi
  | cons op ops ih =>
      intro r k i h hnext hbehind hlap hi
      have hr : r.FirstLap k := ⟨hnext, hbehind⟩
      rcases step_cases r op with ⟨v, a, hv, hstep⟩ | ⟨hnone, hsame, hsub⟩
      · simp only [run, hstep, issued, List.filterMap_cons, Outcome.issued?] at hi
        cases i with
        | zero =>
            rw [List.getElem?_cons_zero, Option.some.injEq] at hi
            rw [← hi, hr.handle_eq (by omega) hv, Nat.add_zero]
        | succ i =>
            obtain ⟨hnext', hbehind'⟩ := hr.add (by omega) hv a
            have hrest := ih hnext' hbehind' (by omega) hi
            rwa [Nat.add_right_comm] at hrest
      · simp only [run, issued, List.filterMap_cons, hnone] at hi
        obtain ⟨hnext', hbehind'⟩ := hr.of_subset hsame hsub
        exact ih hnext' hbehind' hlap hi

/-! ## Handles that are kept -/

/-- A handle that is live after a run was live before, or the run has given it out. -/
lemma handles_run_subset (ops : List (Operation α)) :
    ∀ r : Registry α, (r.run ops).2.handles ⊆ r.handles ++ issued (r.run ops).1 := by
  induction ops with
  | nil =>
      intro r
      exact List.subset_append_left _ _
  | cons op ops ih =>
      intro r g hg
      have hrest := ih (r.step op).2 hg
      rcases step_cases r op with ⟨v, a, hv, hstep⟩ | ⟨hnone, -, hsub⟩
      · simp only [run, hstep, issued, List.filterMap_cons, Outcome.issued?] at hrest ⊢
        simp only [List.mem_append, mem_handles_add, List.mem_cons] at hrest ⊢
        tauto
      · simp only [run, issued, List.filterMap_cons, hnone] at hrest ⊢
        rcases List.mem_append.mp hrest with hlive | hgiven
        · exact List.mem_append_left _ (hsub hlive)
        · exact List.mem_append_right _ hgiven

lemma handles_empty (table : Table) (capacity : ℕ) :
    (empty table capacity : Registry α).handles = [] := by
  rw [List.eq_nil_iff_forall_not_mem]
  intro h hh
  rw [mem_handles, get?_empty] at hh
  cases hh

lemma firstLap_empty (table : Table) (capacity : ℕ) :
    (empty table capacity : Registry α).FirstLap 0 where
  next := rfl
  behind := by
    intro g hg
    rw [handles_empty] at hg
    cases hg

/-- **No handle is given out again early.**  Whatever is done to a registry from when it is empty:

* its first 65535 successful insertions give out 1, 2, …, 65535;
* between two successful insertions that give out the same handle there are at least 65535 others,
  less the capacity;
* so a handle that was given out and is not live any more can be found again only after it was
  given out once more, that many insertions later. -/
theorem reissue_gap (table : Table) (capacity : ℕ) (ops : List (Operation α)) :
    let start : Registry α := empty table capacity
    let given := issued (start.run ops).1
    (∀ i h, i < 65535 → given[i]? = some h → h.toNat = i + 1) ∧
      (∀ i j h, i < j → given[i]? = some h → given[j]? = some h → 65535 - capacity ≤ j - i - 1) ∧
      ∀ i h later, given[i]? = some h → (start.run ops).2.get? h = none →
        ((start.run (ops ++ later)).2.get? h).isSome →
          ∃ j, given.length ≤ j ∧ (issued (start.run (ops ++ later)).1)[j]? = some h ∧
            65535 - capacity ≤ j - i - 1 := by
  intro start given
  have hcap : start.capacity = capacity := capacity_empty table capacity
  refine ⟨?_, ?_, ?_⟩
  · intro i h hi hgiven
    have hnone : ∀ g ∈ start.handles, ∃ q < 0, g = successor^[q] 1 := by
      intro g hg
      rw [handles_empty] at hg
      cases hg
    have hlap := issued_first_lap (k := 0) ops rfl hnone (by omega) hgiven
    rw [hlap, toNat_iterate_successor (by decide), Nat.zero_add]
    have hone : (1 : UInt16).toNat - 1 = 0 := rfl
    omega
  · intro i j h hij hi hj
    have hgap := le_of_issued_twice ops start hij hi hj
    rwa [hcap] at hgap
  · intro i h later hi hdead hfound
    obtain ⟨hgiven, hlast⟩ := issued_run_append start ops later
    have hagain : h ∈ issued ((start.run ops).2.run later).1 := by
      rw [hlast, ← mem_handles] at hfound
      rcases List.mem_append.mp (handles_run_subset later _ hfound) with hlive | hin
      · rw [mem_handles, hdead] at hlive
        cases hlive
      · exact hin
    obtain ⟨n, hn⟩ := List.mem_iff_getElem?.mp hagain
    have hlt : i < given.length := (List.getElem?_eq_some_iff.mp hi).1
    have hi' : (issued (start.run (ops ++ later)).1)[i]? = some h := by
      rw [hgiven, List.getElem?_append_left hlt]
      exact hi
    have hj : (issued (start.run (ops ++ later)).1)[given.length + n]? = some h := by
      rw [hgiven, List.getElem?_append_right (Nat.le_add_right _ n), Nat.add_sub_cancel_left]
      exact hn
    have hgap := le_of_issued_twice (ops ++ later) start (by omega) hi' hj
    rw [hcap] at hgap
    exact ⟨given.length + n, Nat.le_add_right _ n, hj, hgap⟩

/-! ## Nothing kept -/

/-- A registry with slots but without entries, which goes on from `h`. -/
structure Idle (r : Registry α) (h : UInt16) : Prop where
  slots : 0 < r.capacity ∧ r.capacity ≤ 65535
  none_live : r.handles = []
  next : r.next = h

/-- Insertions of `a`, each of which is taken back at once, where the first one gives out `h`. -/
def churn (a : α) : ℕ → UInt16 → List (Operation α)
  | 0, _ => []
  | n + 1, h => .insert a :: .remove h :: churn a n (successor h)

/-- Where no handle is live, the next entry gets the next handle. -/
lemma Idle.step_insert {r : Registry α} {h : UInt16} (hr : Idle r h) (a : α) :
    ∃ v : r.Vacancy, v.handle = h ∧ r.step (.insert a) = (.inserted h, r.add v a) := by
  have hlive : r.live = 0 := by rw [← length_handles, hr.none_live, List.length_nil]
  obtain ⟨v, hv⟩ := exists_vacancy hr.slots.2 (by have := hr.slots.1; omega)
  obtain ⟨n, hvn, hpassed⟩ := exists_steps_of_vacancy hv
  rcases Nat.eq_zero_or_pos n with rfl | hpos
  · have hvh : v.handle = h := hvn.trans hr.next
    refine ⟨v, hvh, ?_⟩
    simp only [step, insert, hv, hvh]
  · have hin := hpassed 0 hpos
    rw [hr.none_live] at hin
    cases hin

/-- What is given out and taken back at once leaves nothing but the step along the cycle. -/
lemma Idle.remove_add {r : Registry α} {h : UInt16} (hr : Idle r h) {v : r.Vacancy}
    (hvh : v.handle = h) (a : α) : Idle ((r.add v a).step (.remove h)).2 (successor h) where
  slots := by rw [capacity_step, capacity_add]; exact hr.slots
  none_live := by
    rw [List.eq_nil_iff_forall_not_mem]
    intro g hg
    rw [mem_handles, step, get?_remove] at hg
    split_ifs at hg with hgh
    · cases hg
    · rw [← mem_handles, mem_handles_add, hr.none_live, hvh] at hg
      simp [hgh] at hg
  next := by
    rcases step_cases (r.add v a) (.remove h) with ⟨w, b, -, hstep⟩ | ⟨-, hnext, -⟩
    · cases hstep
    · rw [hnext, ← hvh]
      rfl

lemma Idle.run_churn (a : α) (n : ℕ) : ∀ {r : Registry α} {h : UInt16}, Idle r h →
    issued (r.run (churn a n h)).1 = List.iterate successor h n ∧
      Idle (r.run (churn a n h)).2 (successor^[n] h) := by
  induction n with
  | zero => exact fun hr => ⟨rfl, hr⟩
  | succ n ih =>
      intro r h hr
      obtain ⟨v, hvh, hins⟩ := hr.step_insert a
      obtain ⟨hissued, hlast⟩ := ih (hr.remove_add hvh a)
      simp only [issued] at hissued
      refine ⟨?_, ?_⟩
      · simp only [churn, run, hins, issued, List.filterMap_cons, Outcome.issued?]
        rw [hissued]
        rfl
      · simp only [churn, run, hins]
        exact hlast

/-- After `n` entries that were taken back at once, one more is left in the registry. -/
lemma run_churn_insert (table : Table) (capacity : ℕ) (hpos : 0 < capacity)
    (hcap : capacity ≤ 65535) (a b : α) (n : ℕ) :
    let start : Registry α := empty table capacity
    let ops := churn a n 1
    issued (start.run ops).1 = List.iterate successor 1 n ∧
      issued (start.run (ops ++ [.insert b])).1 = List.iterate successor 1 (n + 1) ∧
      (start.run ops).2.get? (successor^[n] 1) = none ∧
      (start.run (ops ++ [.insert b])).2.get? (successor^[n] 1) = some b := by
  intro start ops
  have hstart : Idle start 1 := ⟨by rw [capacity_empty]; omega, handles_empty _ _, rfl⟩
  obtain ⟨hgiven, hidle⟩ := hstart.run_churn a n
  obtain ⟨v, hv, hins⟩ := hidle.step_insert b
  obtain ⟨hall, hend⟩ := issued_run_append start ops [.insert b]
  have hrun : (start.run ops).2.run [.insert b]
      = ([.inserted (successor^[n] 1)], (start.run ops).2.add v b) := by
    simp only [run, hins, ops]
  rw [hrun] at hall hend
  refine ⟨hgiven, ?_, ?_, ?_⟩
  · rw [hall, hgiven, List.iterate_add]
    rfl
  · rw [← Option.not_isSome_iff_eq_none, ← mem_handles, hidle.none_live]
    simp
  · rw [hend, get?_add, if_pos hv.symm]

lemma iterate_successor_one {n : ℕ} {h : UInt16} (hn : n % 65535 + 1 = h.toNat) :
    successor^[n] 1 = h := by
  rw [← UInt16.toNat_inj, toNat_iterate_successor (by decide), ← hn]
  simp

/-- In a registry for one entry, where every entry but the last is taken back at once, handle 1
comes again after all 65534 others, which is as early as it may. -/
theorem reissue_gap_of_churn :
    let start : Registry ℕ := empty .contexts 1
    let ops := churn 5 65535 1
    (65534 < 65535 ∧ (issued (start.run ops).1)[65534]? = some 65535 ∧
        (65535 : UInt16).toNat = 65534 + 1) ∧
      ((issued (start.run (ops ++ [.insert 6])).1)[0]? = some 1 ∧
        (issued (start.run (ops ++ [.insert 6])).1)[65535]? = some 1 ∧
        65535 - 1 ≤ 65535 - 0 - 1) ∧
      (start.run ops).2.get? 1 = none ∧ ((start.run (ops ++ [.insert 6])).2.get? 1).isSome ∧
        ∃ j, (issued (start.run ops).1).length ≤ j ∧
          (issued (start.run (ops ++ [.insert 6])).1)[j]? = some 1 ∧ 65535 - 1 ≤ j - 0 - 1 := by
  obtain ⟨hgiven, hall, hdead, hfound⟩ :=
    run_churn_insert .contexts 1 (by omega) (by omega) (5 : ℕ) 6 65535
  rw [iterate_successor_one (h := 1) rfl] at hdead hfound
  intro start ops
  have hzero : (issued (start.run ops).1)[0]? = some 1 := by
    rw [hgiven, List.getElem?_iterate _ _ _ _ (by omega), Function.iterate_zero, id_eq]
  have hlast : (issued (start.run ops).1)[65534]? = some 65535 := by
    rw [hgiven, List.getElem?_iterate _ _ _ _ (by omega), iterate_successor_one (h := 65535) rfl]
  have hfirst : (issued (start.run (ops ++ [.insert 6])).1)[0]? = some 1 := by
    rw [hall, List.getElem?_iterate _ _ _ _ (by omega), Function.iterate_zero, id_eq]
  have hagain : (issued (start.run (ops ++ [.insert 6])).1)[65535]? = some 1 := by
    rw [hall, List.getElem?_iterate _ _ _ _ (by omega), iterate_successor_one (h := 1) rfl]
  have hlive : ((start.run (ops ++ [.insert 6])).2.get? 1).isSome := by
    rw [hfound, Option.isSome_some]
  obtain ⟨hlap, -, hstale⟩ := reissue_gap .contexts 1 ops
  obtain ⟨-, hgap, -⟩ := reissue_gap .contexts 1 (ops ++ [.insert 6])
  refine ⟨⟨by omega, hlast, ?_⟩, ⟨hfirst, hagain, ?_⟩, hdead, hlive, ?_⟩
  · exact hlap 65534 65535 (by omega) hlast
  · exact hgap 0 65535 1 (by omega) hfirst hagain
  · exact hstale 0 1 [.insert 6] hzero hdead hlive

end Paintbox.Registry

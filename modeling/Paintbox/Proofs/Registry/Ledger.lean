import Paintbox.Proofs.Registry.Modify
import Paintbox.Proofs.Registry.Room

/-!
# A registry is a finite map with fresh keys

Seen from outside, a registry is a finite map from handles to entries.  It is its own choice under
which handle a new entry goes, but the handle is never zero and never one that is live.

* `Registry.Operation`, `Registry.step`, `Registry.run` — what can be done to a registry, one
  operation and a whole run of them.
* `Ledger`, `Ledger.Step`, `Ledger.Run` — the same operations on a finite map, with what each of
  them may answer.
* `Registry.Represents` — a registry finds what a ledger lists.
* `Registry.exists_step` — one operation on a registry is one step of the ledger that it represents.
* **`Registry.run_refines_ledger`** — so every run of a registry is a run of a ledger.

That an insertion fails exactly if the registry is full is part of what a step of the ledger may
answer; that a failed one leaves the registry as it was, the next handle included, cannot be seen
in the ledger and is said beside it.
-/

namespace Paintbox

namespace Registry

/-- What can be done to a registry with entries of type `α`. -/
inductive Operation (α : Type) where
  | insert (a : α)
  | get (h : UInt16)
  /-- Look an entry up for writing, and replace it by a function of its value. -/
  | modify (h : UInt16) (f : α → α)
  | remove (h : UInt16)
  | contains (h : UInt16)
  | size

/-- What an operation is answered by. -/
inductive Outcome (α : Type) where
  | inserted (h : UInt16)
  | refused (e : Error)
  | entry (found : Option α)
  | flag (b : Bool)
  | size (n : ℕ)

variable {α : Type}

/-- One operation: what it answers, and the registry afterwards. -/
def step (r : Registry α) : Operation α → Outcome α × Registry α
  | .insert a =>
      match r.insert a with
      | (.ok h, r) => (.inserted h, r)
      | (.error e, r) => (.refused e, r)
  | .get h => (.entry (r.get? h), r)
  | .modify h f => (.entry (r.get? h), r.modify h f)
  | .remove h => (.entry (r.remove h).1, (r.remove h).2)
  | .contains h => (.flag (r.contains h), r)
  | .size => (.size r.live, r)

/-- Operations one after the other: their answers, and the registry after the last. -/
def run (r : Registry α) : List (Operation α) → List (Outcome α) × Registry α
  | [] => ([], r)
  | op :: ops => ((r.step op).1 :: ((r.step op).2.run ops).1, ((r.step op).2.run ops).2)

end Registry

/-- The live handles of a registry with their entries. -/
abbrev Ledger (α : Type) := Finmap fun _ : UInt16 => α

namespace Ledger

open Registry

variable {α : Type}

/-- What one operation may answer on a ledger with room for `capacity` bindings, and the ledger
afterwards. -/
inductive Step (table : Table) (capacity : ℕ) :
    Ledger α → Operation α → Outcome α → Ledger α → Prop where
  | insert {m : Ledger α} {a : α} {h : UInt16} (room : m.keys.card < capacity) (proper : h ≠ 0)
      (fresh : h ∉ m) : Step table capacity m (.insert a) (.inserted h) (m.insert h a)
  | refuse {m : Ledger α} {a : α} (full : m.keys.card = capacity) :
      Step table capacity m (.insert a) (.refused (.capacityExceeded table)) m
  | get {m : Ledger α} {h : UInt16} : Step table capacity m (.get h) (.entry (m.lookup h)) m
  | modify {m : Ledger α} {h : UInt16} {f : α → α} {a : α} (found : m.lookup h = some a) :
      Step table capacity m (.modify h f) (.entry (some a)) (m.insert h (f a))
  | miss {m : Ledger α} {h : UInt16} {f : α → α} (dead : h ∉ m) :
      Step table capacity m (.modify h f) (.entry none) m
  | remove {m : Ledger α} {h : UInt16} :
      Step table capacity m (.remove h) (.entry (m.lookup h)) (m.erase h)
  | contains {m : Ledger α} {h : UInt16} :
      Step table capacity m (.contains h) (.flag (decide (h ∈ m))) m
  | size {m : Ledger α} : Step table capacity m .size (.size m.keys.card) m

/-- What a run of operations may answer, and the ledger after the last. -/
inductive Run (table : Table) (capacity : ℕ) :
    Ledger α → List (Operation α) → List (Outcome α) → Ledger α → Prop where
  | nil {m : Ledger α} : Run table capacity m [] [] m
  | cons {m m' m'' : Ledger α} {op : Operation α} {ops : List (Operation α)} {out : Outcome α}
      {outs : List (Outcome α)} (head : Step table capacity m op out m')
      (tail : Run table capacity m' ops outs m'') : Run table capacity m (op :: ops) (out :: outs) m''

end Ledger

namespace Registry

variable {α : Type}

/-- Under every handle the registry finds what the ledger lists. -/
def Represents (r : Registry α) (m : Ledger α) : Prop := ∀ h, r.get? h = m.lookup h

lemma get?_empty (table : Table) (capacity : ℕ) (h : UInt16) :
    (empty table capacity : Registry α).get? h = none := by
  rw [Option.eq_none_iff_forall_ne_some]
  intro a hfound
  obtain ⟨i, s, hs, -⟩ := ((empty table capacity).get?_eq_some_iff h a).mp hfound
  simp only [empty, Array.getElem?_replicate] at hs
  split_ifs at hs
  · cases hs
  · cases hs

lemma represents_empty (table : Table) (capacity : ℕ) :
    (empty table capacity : Registry α).Represents ∅ := by
  intro h
  rw [get?_empty, Finmap.lookup_empty]

lemma Represents.mem_iff {r : Registry α} {m : Ledger α} (hm : r.Represents m) (h : UInt16) :
    h ∈ m ↔ (r.get? h).isSome := by
  rw [hm h, Finmap.lookup_isSome]

lemma Represents.contains_eq {r : Registry α} {m : Ledger α} (hm : r.Represents m) (h : UInt16) :
    r.contains h = decide (h ∈ m) := by
  rw [contains_eq_isSome, Bool.eq_iff_iff, decide_eq_true_iff, hm.mem_iff]

/-- The registry counts the bindings of the ledger that it represents. -/
lemma Represents.card_keys {r : Registry α} {m : Ledger α} (hm : r.Represents m) :
    m.keys.card = r.live := by
  have hkeys : m.keys = r.handles.toFinset := by
    ext h
    rw [Finmap.mem_keys, List.mem_toFinset, mem_handles, hm.mem_iff]
  rw [hkeys, List.toFinset_card_of_nodup (nodup_handles r), length_handles]

/-! ## Insertion -/

lemma insert_of_full {r : Registry α} (hfull : r.live = r.capacity) (a : α) :
    r.insert a = (.error (.capacityExceeded r.table), r) := by
  rw [insert, vacancy_eq_none_of_full hfull]

lemma insert_of_room {r : Registry α} (hcap : r.capacity ≤ 65535) (hroom : r.live < r.capacity)
    (a : α) : ∃ v : r.Vacancy, r.insert a = (.ok v.handle, r.add v a) := by
  obtain ⟨v, hv⟩ := exists_vacancy hcap hroom
  exact ⟨v, by rw [insert, hv]⟩

/-- An insertion is refused exactly by a full registry, which stays as it was. -/
lemma insert_eq_error_iff {r : Registry α} (hcap : r.capacity ≤ 65535) (a : α) (e : Error)
    (r' : Registry α) : r.insert a = (.error e, r') ↔
      r.live = r.capacity ∧ e = .capacityExceeded r.table ∧ r' = r := by
  rcases (live_le_capacity r).lt_or_eq with hroom | hfull
  · obtain ⟨v, hins⟩ := insert_of_room hcap hroom a
    rw [hins]
    simp
    omega
  · rw [insert_of_full hfull a]
    simp [hfull, eq_comm]

/-! ## One operation -/

lemma Represents.add {r : Registry α} {m : Ledger α} (hm : r.Represents m) (v : r.Vacancy)
    (a : α) : (r.add v a).Represents (m.insert v.handle a) := by
  intro g
  rw [get?_add]
  split_ifs with hg
  · rw [hg, Finmap.lookup_insert]
  · rw [Finmap.lookup_insert_of_ne _ hg, hm g]

lemma Represents.modify {r : Registry α} {m : Ledger α} (hm : r.Represents m) {h : UInt16}
    {a : α} (hfound : m.lookup h = some a) (f : α → α) :
    (r.modify h f).Represents (m.insert h (f a)) := by
  intro g
  rw [get?_modify]
  split_ifs with hg
  · rw [hg, Finmap.lookup_insert, hm h, hfound]
    rfl
  · rw [Finmap.lookup_insert_of_ne _ hg, hm g]

lemma Represents.modify_dead {r : Registry α} {m : Ledger α} (hm : r.Represents m) {h : UInt16}
    (hdead : h ∉ m) (f : α → α) : (r.modify h f).Represents m := by
  intro g
  rw [get?_modify]
  split_ifs with hg
  · rw [hg, hm h, Finmap.lookup_eq_none.mpr hdead]
    rfl
  · exact hm g

lemma Represents.remove {r : Registry α} {m : Ledger α} (hm : r.Represents m) (h : UInt16) :
    (r.remove h).2.Represents (m.erase h) := by
  intro g
  rw [get?_remove]
  split_ifs with hg
  · rw [hg, Finmap.lookup_erase]
  · rw [Finmap.lookup_erase_ne hg, hm g]

lemma table_remove (r : Registry α) (h : UInt16) : (r.remove h).2.table = r.table := by
  rw [remove]
  split <;> rfl

lemma capacity_remove (r : Registry α) (h : UInt16) : (r.remove h).2.capacity = r.capacity := by
  rw [remove]
  split
  · rfl
  · exact Array.size_setIfInBounds

lemma capacity_add (r : Registry α) (v : r.Vacancy) (a : α) : (r.add v a).capacity = r.capacity :=
  Array.size_set v.place_lt

lemma capacity_insert (r : Registry α) (a : α) : (r.insert a).2.capacity = r.capacity := by
  rw [insert]
  cases r.vacancy with
  | none => rfl
  | some v => exact capacity_add r v a

lemma capacity_empty (table : Table) (capacity : ℕ) :
    (Registry.empty table capacity : Registry α).capacity = capacity := Array.size_replicate

/-- What ties a registry to the ledger it represents through a run: the same entries, and the same
bounds as at the start. -/
structure Follows (table : Table) (capacity : ℕ) (r : Registry α) (m : Ledger α) : Prop where
  represents : r.Represents m
  table_eq : r.table = table
  capacity_eq : r.capacity = capacity

/-- **One operation on a registry is one step of its ledger.** -/
lemma exists_step {table : Table} {capacity : ℕ} (hcap : capacity ≤ 65535) {r : Registry α}
    {m : Ledger α} (hf : Follows table capacity r m) (op : Operation α) :
    ∃ m', Ledger.Step table capacity m op (r.step op).1 m' ∧
      Follows table capacity (r.step op).2 m' := by
  obtain ⟨hm, rfl, rfl⟩ := hf
  have hcard := hm.card_keys
  cases op with
  | insert a =>
      rcases (live_le_capacity r).lt_or_eq with hroom | hfull
      · obtain ⟨v, hins⟩ := insert_of_room hcap hroom a
        have hfresh : v.handle ∉ m := by
          rw [hm.mem_iff, ← contains_eq_isSome, v.free.2]
          simp
        simp only [step, hins]
        exact ⟨m.insert v.handle a, .insert (by omega) v.free.1 hfresh, hm.add v a, rfl,
          capacity_add r v a⟩
      · simp only [step, insert_of_full hfull]
        exact ⟨m, .refuse (by omega), hm, rfl, rfl⟩
  | get h =>
      simp only [step, hm h]
      exact ⟨m, .get, hm, rfl, rfl⟩
  | modify h f =>
      simp only [step, hm h]
      cases hfound : m.lookup h with
      | some a =>
          exact ⟨m.insert h (f a), .modify hfound, hm.modify hfound f,
            table_modify r h f, capacity_modify r h f⟩
      | none =>
          have hdead := Finmap.lookup_eq_none.mp hfound
          exact ⟨m, .miss hdead, hm.modify_dead hdead f,
            table_modify r h f, capacity_modify r h f⟩
  | remove h =>
      simp only [step, fst_remove, hm h]
      exact ⟨m.erase h, .remove, hm.remove h, table_remove r h, capacity_remove r h⟩
  | contains h =>
      simp only [step, hm.contains_eq]
      exact ⟨m, .contains, hm, rfl, rfl⟩
  | size =>
      simp only [step, ← hcard]
      exact ⟨m, .size, hm, rfl, rfl⟩

/-! ## Whole runs -/

lemma exists_run {table : Table} {capacity : ℕ} (hcap : capacity ≤ 65535)
    (ops : List (Operation α)) :
    ∀ {r : Registry α} {m : Ledger α}, Follows table capacity r m →
      ∃ m', Ledger.Run table capacity m ops (r.run ops).1 m' ∧
        Follows table capacity (r.run ops).2 m' := by
  induction ops with
  | nil =>
      intro r m hf
      exact ⟨m, .nil, hf⟩
  | cons op ops ih =>
      intro r m hf
      obtain ⟨m', hstep, hf'⟩ := exists_step hcap hf op
      obtain ⟨m'', hrun, hf''⟩ := ih hf'
      exact ⟨m'', .cons hstep hrun, hf''⟩

/-- **Every run of a registry is a run of a finite map with fresh keys.**  Whatever has been done to
a registry since it was empty, its answers were those of a ledger, and it finds what the ledger
lists.  Its live handles are different, none of them is zero, and there are as many as it counts,
never more than its capacity.  It goes on from a handle that is not zero.  The next insertion is
refused exactly if the registry is full, and then nothing about the registry changes. -/
theorem run_refines_ledger (table : Table) (capacity : ℕ) (hcap : capacity ≤ Settings.maxSlots)
    (ops : List (Operation α)) :
    let (outcomes, r) := (empty table capacity : Registry α).run ops
    ∃ m : Ledger α,
      Ledger.Run table capacity ∅ ops outcomes m ∧
      (∀ h, r.get? h = m.lookup h) ∧
      (∀ h, r.contains h = decide (h ∈ m)) ∧
      r.live = m.keys.card ∧
      r.handles.Nodup ∧
      0 ∉ r.handles ∧
      (∀ h, h ∈ r.handles ↔ h ∈ m) ∧
      r.live ≤ capacity ∧
      r.next ≠ 0 ∧
      ∀ a e r', r.insert a = (.error e, r') ↔
        r.live = capacity ∧ e = .capacityExceeded table ∧ r' = r := by
  have hstart : Follows table capacity (empty table capacity : Registry α) ∅ :=
    ⟨represents_empty table capacity, rfl, Array.size_replicate⟩
  obtain ⟨m, hrun, hf⟩ := exists_run hcap ops hstart
  generalize (empty table capacity : Registry α).run ops = result at hrun hf ⊢
  obtain ⟨outcomes, r⟩ := result
  obtain ⟨hm, htable, hcapacity⟩ := hf
  refine ⟨m, hrun, hm, hm.contains_eq, hm.card_keys.symm, nodup_handles r, zero_notMem_handles r,
    ?_, ?_, r.next_ne_zero, ?_⟩
  · intro h
    rw [mem_handles, hm.mem_iff]
  · rw [← hcapacity]
    exact live_le_capacity r
  · intro a e r'
    rw [insert_eq_error_iff (by rw [hcapacity]; exact hcap), htable, hcapacity]

/-- A registry for one entry refuses a second one, forgets the first when it is removed, and gives
the next one another handle. -/
theorem run_refines_ledger_of_one :
    1 ≤ Settings.maxSlots ∧
      ∃ m : Ledger ℕ,
        Ledger.Run .objects 1 ∅ [.insert 5, .insert 6, .remove 1, .insert 7, .get 1, .size]
          [.inserted 1, .refused (.capacityExceeded .objects), .entry (some 5), .inserted 2,
            .entry none, .size 1] m ∧
        m.lookup 2 = some 7 := by
  refine ⟨by decide, ?_⟩
  have h := run_refines_ledger (α := ℕ) .objects 1 (by decide)
    [.insert 5, .insert 6, .remove 1, .insert 7, .get 1, .size]
  obtain ⟨m, hrun, hget, -⟩ := h
  exact ⟨m, hrun, (hget 2).symm⟩

end Registry

end Paintbox

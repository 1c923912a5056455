import Paintbox.Proofs.Registry.Ledger
import Paintbox.Proofs.Registry.Modify

/-!
# What all entries of a registry have in common

A property of all live entries is kept by whatever happens to a registry, as long as entries that
come in have it and changes keep it.  No room is gained or lost on the way, and what is counted are
the handles that something is found under.

* `Registry.Every` — every live entry has a property; `Every.insert`, `Every.modify`,
  `Every.release`.
* `Registry.Bounded` — so many live entries at most, each under a handle of its own;
  `Registry.bounded` — **which is so in every registry**.
* `Registry.insert_of_live`, `Registry.release_of_live`, `Registry.release_of_dead`, … — what is done
  to a registry, told by whether a handle is live.
* `Registry.live_add`, `Registry.live_remove` — an entry that comes in is one more, and one that
  goes is one less.
-/

namespace Paintbox.Registry

variable {α : Type}

/-- Every live entry has the property. -/
def Every (P : α → Prop) (r : Registry α) : Prop := ∀ h a, r.get? h = some a → P a

variable {P : α → Prop}

lemma every_empty (P : α → Prop) (table : Table) (capacity : ℕ) :
    (Registry.empty table capacity).Every P := by
  intro h a hget
  rw [get?_empty] at hget
  cases hget

lemma Every.insert {r : Registry α} (hr : r.Every P) {a : α} (ha : P a) :
    (r.insert a).2.Every P := by
  rw [Registry.insert]
  cases r.vacancy with
  | none => exact hr
  | some v =>
      intro h b hget
      rw [get?_add] at hget
      split_ifs at hget with hnew
      · cases hget
        exact ha
      · exact hr h b hget

/-- A change of one entry has to keep the property of that entry only. -/
lemma Every.modify {r : Registry α} (hr : r.Every P) {h : UInt16} {f : α → α}
    (hf : ∀ a, r.get? h = some a → P (f a)) : (r.modify h f).Every P := by
  intro g b hget
  rw [get?_modify] at hget
  split_ifs at hget with hgh
  · obtain ⟨a, ha, rfl⟩ := Option.map_eq_some_iff.mp hget
    exact hf a (hgh ▸ ha)
  · exact hr g b hget

/-- Whatever it answers, a release leaves what taking out leaves: under zero there is nothing. -/
lemma snd_release (r : Registry α) (h : UInt16) : (r.release h).2 = (r.remove h).2 := by
  rw [release]
  split_ifs with hz
  · rw [hz]
    rfl
  · rcases r.remove h with ⟨_ | a, rest⟩
    · rfl
    · rfl

lemma Every.release {r : Registry α} (hr : r.Every P) (h : UInt16) : (r.release h).2.Every P := by
  intro g a hget
  rw [snd_release, get?_remove] at hget
  split_ifs at hget with hgh
  exact hr g a hget

/-! ## Bounds -/

lemma capacity_release (r : Registry α) (h : UInt16) : (r.release h).2.capacity = r.capacity := by
  rw [snd_release, capacity_remove]

/-- At most `n` entries are live.  Slot by slot their handles are all different and not zero, and
they are the handles that something is found under. -/
structure Bounded (r : Registry α) (n : ℕ) : Prop where
  live : r.live ≤ n
  count : r.handles.length = r.live
  distinct : r.handles.Nodup
  ne_zero : 0 ∉ r.handles
  found : ∀ h, h ∈ r.handles ↔ (r.get? h).isSome

/-- A registry is bounded by the room that it has. -/
lemma bounded (r : Registry α) : r.Bounded r.capacity where
  live := live_le_capacity r
  count := length_handles r
  distinct := nodup_handles r
  ne_zero := zero_notMem_handles r
  found := mem_handles r

/-! ## Live and dead handles -/

lemma ne_zero_of_live {r : Registry α} {h : UInt16} {a : α} (hlive : r.get? h = some a) :
    h ≠ 0 := by
  rintro rfl
  rw [get?_zero] at hlive
  cases hlive

/-- A new entry does not get the handle of a live one. -/
lemma Vacancy.ne_of_live {r : Registry α} (v : r.Vacancy) {h : UInt16} {a : α}
    (hlive : r.get? h = some a) : h ≠ v.handle := by
  rintro rfl
  have hfree := v.free.2
  rw [contains_eq_isSome, hlive] at hfree
  cases hfree

/-- A live entry stays when another one comes in, which gets a handle of its own. -/
lemma insert_of_live {r : Registry α} {h : UInt16} {a : α} (hlive : r.get? h = some a) (b : α) :
    (r.insert b).2.get? h = some a ∧ ∀ g, (r.insert b).1 = .ok g → g ≠ h := by
  rw [insert]
  cases r.vacancy with
  | none =>
      refine ⟨hlive, fun g hg => ?_⟩
      cases hg
  | some v =>
      have hne : h ≠ v.handle := v.ne_of_live hlive
      refine ⟨?_, ?_⟩
      · rw [get?_add, if_neg hne, hlive]
      · rintro g ⟨⟩
        exact hne.symm

lemma get?_release (r : Registry α) (g h : UInt16) :
    (r.release g).2.get? h = if h = g then none else r.get? h := by
  rw [snd_release, get?_remove]

lemma release_of_live {r : Registry α} {h : UInt16} {a : α} (hlive : r.get? h = some a) :
    r.release h = (.ok a, (r.remove h).2) := by
  have hz : h ≠ 0 := ne_zero_of_live hlive
  have hfst : (r.remove h).1 = some a := by rw [fst_remove, hlive]
  rw [release, if_neg hz]
  split
  · rename_i b r' hrem
    rw [hrem] at hfst ⊢
    cases hfst
    rfl
  · rename_i r' hrem
    rw [hrem] at hfst
    cases hfst

lemma release_of_dead {r : Registry α} {h : UInt16} (hz : h ≠ 0) (hdead : r.get? h = none) :
    r.release h = (.error (.notFound h), r) := by
  have hfst : (r.remove h).1 = none := by rw [fst_remove, hdead]
  have hsnd := remove_of_none hfst
  rw [release, if_neg hz]
  split
  · rename_i b r' hrem
    rw [hrem] at hfst
    cases hfst
  · rename_i r' hrem
    rw [hrem] at hsnd
    rw [← hsnd]

lemma resolve_of_dead {r : Registry α} {h : UInt16} (hz : h ≠ 0) (hdead : r.get? h = none) :
    r.resolve h = .error (.notFound h) := by
  rw [resolve, if_neg hz, hdead]

/-- A change that would change nothing makes none. -/
lemma modify_eq_self {r : Registry α} {h : UInt16} {f : α → α}
    (hf : ∀ a, r.get? h = some a → f a = a) : r.modify h f = r := by
  cases hfound : r.get? h with
  | none =>
      have hdead : r.contains h = false := by rw [contains_eq_isSome, hfound, Option.isSome_none]
      exact modify_of_dead (Option.isSome_eq_false_iff.mp hdead |> Option.isNone_iff_eq_none.mp) f
  | some a => rw [modify_congr r hfound (g := id) (hf a hfound), modify_id]

/-! ## Counting -/

lemma live_empty (table : Table) (capacity : ℕ) :
    (Registry.empty table capacity : Registry α).live = 0 := by
  rw [← (represents_empty table capacity).card_keys]
  rfl

lemma live_add {r : Registry α} (v : r.Vacancy) (a : α) : (r.add v a).live = r.live + 1 := by
  have hnew : v.handle ∉ r.handles := by
    rw [mem_handles, ← contains_eq_isSome, v.free.2]
    exact Bool.false_ne_true
  have hperm : (r.add v a).handles.Perm (v.handle :: r.handles) := by
    refine (List.perm_ext_iff_of_nodup (nodup_handles _)
      (List.nodup_cons.mpr ⟨hnew, nodup_handles r⟩)).mpr fun h => ?_
    rw [mem_handles, get?_add, List.mem_cons, mem_handles]
    split_ifs with heq <;> simp [heq]
  rw [← length_handles, hperm.length_eq, List.length_cons, length_handles]

lemma live_remove {r : Registry α} {h : UInt16} {a : α} (hlive : r.get? h = some a) :
    (r.remove h).2.live + 1 = r.live := by
  have hgone : h ∉ (r.remove h).2.handles := by
    rw [mem_handles, get?_remove, if_pos rfl]
    exact Bool.false_ne_true
  have hperm : (h :: (r.remove h).2.handles).Perm r.handles := by
    refine (List.perm_ext_iff_of_nodup (List.nodup_cons.mpr ⟨hgone, nodup_handles _⟩)
      (nodup_handles r)).mpr fun g => ?_
    rw [List.mem_cons, mem_handles, get?_remove, mem_handles]
    split_ifs with heq
    · simp [heq, hlive]
    · simp [heq]
  rw [← length_handles, ← length_handles r, ← hperm.length_eq, List.length_cons]

end Paintbox.Registry

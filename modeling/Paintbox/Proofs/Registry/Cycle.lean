import Mathlib
import Paintbox.Registry

/-!
# The cycle of handles

The handles other than zero lie on a cycle `1, 2, …, 65535, 1, …`, along which a registry looks for
the next free one.

* `Registry.toNat_iterate_successor` — **the cycle in numbers**: where `n` steps lead from a handle.
* `Registry.iterate_successor_injOn` — 65535 steps in a row lead to as many different handles.
* `Registry.exists_iterate_successor_eq` — and so to every handle.
* `Registry.firstFree_eq_none_iff` — the search along the cycle fails only if it has met nothing but
  handles that are taken.
* `Registry.exists_of_firstFree` — a search that succeeds has met nothing else before.
-/

namespace Paintbox.Registry

variable {α : Type}

/-! ## Steps along the cycle -/

lemma toNat_pos {h : UInt16} (hz : h ≠ 0) : 0 < h.toNat := by
  rcases Nat.eq_zero_or_pos h.toNat with h0 | hpos
  · exact absurd (UInt16.toNat_inj.mp h0) hz
  · exact hpos

/-- The successor is one more, except that the last handle is followed by the first. -/
lemma toNat_successor (h : UInt16) :
    (successor h).toNat = if h.toNat = 65535 then 1 else h.toNat + 1 := by
  have hlt := h.toNat_lt
  have hadd : (h + 1).toNat = (h.toNat + 1) % 65536 := by simp [UInt16.toNat_add]
  unfold successor
  by_cases hlast : h.toNat = 65535
  · have hwrap : h + 1 = 0 := by
      rw [← UInt16.toNat_inj, hadd, hlast]
      rfl
    simp [hwrap, hlast]
  · have hnz : h + 1 ≠ 0 := by
      intro h0
      rw [h0] at hadd
      simp at hadd
      omega
    rw [if_neg hnz, if_neg hlast, hadd]
    exact Nat.mod_eq_of_lt (by omega)

/-- Counted from zero, a step along the cycle adds one modulo its length. -/
lemma toNat_iterate_successor {h : UInt16} (hz : h ≠ 0) (n : ℕ) :
    (successor^[n] h).toNat = (h.toNat - 1 + n) % 65535 + 1 := by
  have hpos := toNat_pos hz
  have hlt := h.toNat_lt
  induction n with
  | zero =>
      simp only [Function.iterate_zero, id_eq, Nat.add_zero]
      rw [Nat.mod_eq_of_lt (by omega)]
      omega
  | succ n ih =>
      rw [Function.iterate_succ_apply', toNat_successor, ih]
      split_ifs with hlast
      · omega
      · omega

lemma iterate_successor_ne_zero {h : UInt16} (hz : h ≠ 0) (n : ℕ) : successor^[n] h ≠ 0 := by
  intro h0
  have hn := toNat_iterate_successor hz n
  rw [h0] at hn
  simp at hn

/-- Before the cycle closes no handle comes twice. -/
lemma iterate_successor_injOn {h : UInt16} (hz : h ≠ 0) {i j : ℕ} (hi : i < 65535) (hj : j < 65535)
    (heq : successor^[i] h = successor^[j] h) : i = j := by
  have hnum : (h.toNat - 1 + i) % 65535 = (h.toNat - 1 + j) % 65535 := by
    have := congrArg UInt16.toNat heq
    rw [toNat_iterate_successor hz, toNat_iterate_successor hz] at this
    omega
  have hmod : i % 65535 = j % 65535 := Nat.ModEq.add_left_cancel' _ hnum
  rwa [Nat.mod_eq_of_lt hi, Nat.mod_eq_of_lt hj] at hmod

/-- The cycle comes by every handle. -/
lemma exists_iterate_successor_eq {h g : UInt16} (hz : h ≠ 0) (hg : g ≠ 0) :
    ∃ n < 65535, successor^[n] h = g := by
  have hh := toNat_pos hz
  have hg := toNat_pos hg
  have hlt := g.toNat_lt
  have hlt' := h.toNat_lt
  refine ⟨(g.toNat + 65535 - h.toNat) % 65535, by omega, ?_⟩
  rw [← UInt16.toNat_inj, toNat_iterate_successor hz]
  omega

/-! ## The search along the cycle -/

/-- A search for a free handle fails exactly if every handle it tries is taken. -/
lemma firstFree_eq_none_iff (r : Registry α) (tries : ℕ) (h : UInt16) :
    r.firstFree tries h = none ↔ ∀ i < tries, ¬ r.Free (successor^[i] h) := by
  induction tries generalizing h with
  | zero => simp [firstFree]
  | succ tries ih =>
      rw [firstFree]
      split_ifs with hfree
      · refine iff_of_false (by simp) fun hall => ?_
        exact hall 0 (Nat.succ_pos tries) hfree
      · rw [ih]
        constructor
        · intro hall i hi
          cases i with
          | zero => exact hfree
          | succ i => exact hall i (Nat.lt_of_succ_lt_succ hi)
        · intro hall i hi
          exact hall (i + 1) (Nat.succ_lt_succ hi)

/-- A search that succeeds has gone along the cycle past handles that are taken. -/
lemma exists_of_firstFree {r : Registry α} {tries : ℕ} {h : UInt16} {v : { g // r.Free g }}
    (hv : r.firstFree tries h = some v) :
    ∃ n < tries, v.1 = successor^[n] h ∧ ∀ i < n, ¬ r.Free (successor^[i] h) := by
  induction tries generalizing h with
  | zero => cases hv
  | succ tries ih =>
      rw [firstFree] at hv
      split_ifs at hv with hfree
      · cases hv
        exact ⟨0, Nat.succ_pos tries, rfl, fun i hi => absurd hi (Nat.not_lt_zero i)⟩
      · obtain ⟨n, hn, hvn, hpassed⟩ := ih hv
        refine ⟨n + 1, Nat.succ_lt_succ hn, hvn, fun i hi => ?_⟩
        cases i with
        | zero => exact hfree
        | succ i => exact hpassed i (Nat.lt_of_succ_lt_succ hi)

end Paintbox.Registry

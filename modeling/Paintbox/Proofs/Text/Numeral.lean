import Mathlib
import Paintbox.Text.Numeral

/-!
# What numerals stand for

A numeral is read character by character, and the reading stops at the first thing that is wrong.
What is read in the end can be said without that: decimal digits stand for a number in base ten,
with or without a plus sign, and after a minus sign for its negative.

* `Numeral.Spells`, `Numeral.Denotes` — the integer that a text spells, and the one that it stands
  for.
* `Numeral.magnitude_eq_ok_iff` — a run of digits.
* **`Numeral.parse_eq_ok_iff`** — what is read is the integer that the text stands for.
* `Numeral.parse_repr`, `Numeral.parse_toString` — a number in range is read from its own digits.
-/

namespace Paintbox.Numeral

/-- Decimal digits, one at least. -/
def Digits (s : List Char) : Prop := s ≠ [] ∧ ∀ c ∈ s, c.isDigit = true

/-- The text spells the integer.  A minus sign is one only where negative integers are wanted. -/
inductive Spells (r : Range) : List Char → ℤ → Prop where
  | plain {ds : List Char} (hds : Digits ds) : Spells r ds (Nat.ofDigitChars 10 ds 0)
  | plus {ds : List Char} (hds : Digits ds) : Spells r ('+' :: ds) (Nat.ofDigitChars 10 ds 0)
  | minus {ds : List Char} (hds : Digits ds) (hlow : r.low < 0) :
      Spells r ('-' :: ds) (-(Nat.ofDigitChars 10 ds 0 : ℕ))

/-- The text stands for the integer, which is one of those that are wanted. -/
def Denotes (r : Range) (s : List Char) (i : ℤ) : Prop := Spells r s i ∧ r.low ≤ i ∧ i ≤ r.high

variable {r : Range} {s ds : List Char} {c : Char} {limit value n d : ℕ} {beyond : Fault}

/-! ## Digits -/

lemma digit?_of_isDigit (hc : c.isDigit = true) : digit? c = some (c.toNat - '0'.toNat) := by
  simp only [Char.isDigit, Bool.and_eq_true, decide_eq_true_eq] at hc
  exact if_pos hc

lemma toNat_of_isDigit (hc : c.isDigit = true) : 48 ≤ c.toNat ∧ c.toNat ≤ 57 := by
  simp only [Char.isDigit, Bool.and_eq_true, decide_eq_true_eq] at hc
  exact hc

lemma digit?_eq_none (hc : ¬ c.isDigit = true) : digit? c = none := by
  simp only [Char.isDigit, Bool.and_eq_true, decide_eq_true_eq] at hc
  exact if_neg hc

/-- More digits make no number smaller. -/
lemma le_ofDigitChars (ds : List Char) (value : ℕ) : value ≤ Nat.ofDigitChars 10 ds value := by
  induction ds generalizing value with
  | nil => exact Nat.le_refl value
  | cons c ds ih =>
      rw [Nat.ofDigitChars_cons]
      have hmore := ih (10 * value + (c.toNat - '0'.toNat))
      omega

/-- A run is read if all of it is digits and its value does not pass the limit; it cannot pass the
limit and come back. -/
lemma magnitude_eq_ok_iff (hvalue : value ≤ limit) :
    magnitude limit beyond value ds = .ok n ↔
      (∀ c ∈ ds, c.isDigit = true) ∧ n = Nat.ofDigitChars 10 ds value ∧ n ≤ limit := by
  induction ds generalizing value with
  | nil =>
      simp only [magnitude, Except.ok.injEq, List.not_mem_nil, false_imp_iff, implies_true,
        Nat.ofDigitChars_nil, true_and]
      omega
  | cons c ds ih =>
      rw [Nat.ofDigitChars_cons, List.forall_mem_cons, Nat.mul_comm 10]
      by_cases hc : c.isDigit = true
      · rw [magnitude, digit?_of_isDigit hc]
        dsimp only
        split_ifs with hbeyond
        · have hmore := le_ofDigitChars ds (value * 10 + (c.toNat - '0'.toNat))
          rw [false_iff]
          omega
        · rw [ih (Nat.le_of_not_lt hbeyond)]
          simp only [hc, true_and]
      · rw [magnitude, digit?_eq_none hc]
        simp only [reduceCtorEq, hc, Bool.false_eq_true, false_and]

/-! ## Signs -/

variable {i : ℤ}

lemma map_magnitude_eq_ok_iff (f : ℕ → ℤ) :
    (magnitude limit beyond 0 ds).map f = .ok i ↔
      (∀ c ∈ ds, c.isDigit = true) ∧ i = f (Nat.ofDigitChars 10 ds 0) ∧
        Nat.ofDigitChars 10 ds 0 ≤ limit := by
  constructor
  · intro hread
    cases hrun : magnitude limit beyond 0 ds with
    | error fault =>
        rw [hrun] at hread
        cases hread
    | ok n =>
        rw [hrun] at hread
        cases hread
        obtain ⟨hdigits, rfl, hle⟩ := (magnitude_eq_ok_iff (Nat.zero_le limit)).mp hrun
        exact ⟨hdigits, rfl, hle⟩
  · rintro ⟨hdigits, rfl, hle⟩
    rw [(magnitude_eq_ok_iff (Nat.zero_le limit)).mpr ⟨hdigits, rfl, hle⟩]
    rfl

lemma unsigned_eq_map (r : Range) (ds : List Char) :
    unsigned r ds = (magnitude r.high.toNat .tooLarge 0 ds).map Int.ofNat := by
  rw [unsigned]
  cases magnitude r.high.toNat .tooLarge 0 ds <;> rfl

lemma negative_eq_map (hlow : r.low < 0) (ds : List Char) :
    negative r ds
      = (magnitude (-r.low).toNat .tooSmall 0 ds).map fun n => -Int.ofNat n := by
  rw [negative, if_pos hlow]
  cases magnitude (-r.low).toNat .tooSmall 0 ds <;> rfl

lemma unsigned_eq_ok_iff (hds : ds ≠ []) :
    unsigned r ds = .ok i ↔ Digits ds ∧ i = Nat.ofDigitChars 10 ds 0 ∧ i ≤ r.high := by
  have hhigh := r.le_high
  rw [unsigned_eq_map, map_magnitude_eq_ok_iff, Int.ofNat_eq_natCast]
  constructor
  · rintro ⟨hdigits, rfl, hle⟩
    exact ⟨⟨hds, hdigits⟩, rfl, by omega⟩
  · rintro ⟨hdigits, rfl, hle⟩
    exact ⟨hdigits.2, rfl, by omega⟩

lemma negative_eq_ok_iff (hds : ds ≠ []) :
    negative r ds = .ok i ↔
      r.low < 0 ∧ Digits ds ∧ i = -(Nat.ofDigitChars 10 ds 0 : ℕ) ∧ r.low ≤ i := by
  by_cases hlow : r.low < 0
  · rw [negative_eq_map hlow, map_magnitude_eq_ok_iff, Int.ofNat_eq_natCast]
    constructor
    · rintro ⟨hdigits, rfl, hle⟩
      exact ⟨hlow, ⟨hds, hdigits⟩, rfl, by omega⟩
    · rintro ⟨-, hdigits, rfl, hle⟩
      exact ⟨hdigits.2, rfl, by omega⟩
  · rw [negative, if_neg hlow]
    simp only [reduceCtorEq, hlow, false_and]

/-- No digit is a sign. -/
lemma not_digits_cons (hc : c.isDigit = false) : ¬ Digits (c :: ds) := by
  intro hdigits
  have hdigit := hdigits.2 c List.mem_cons_self
  rw [hc] at hdigit
  cases hdigit

/-- **What is read from a text is the integer that it stands for.** -/
theorem parse_eq_ok_iff : parse r s = .ok i ↔ Denotes r s i := by
  have hlow := r.low_le
  have hhigh := r.le_high
  constructor
  · intro hread
    unfold parse at hread
    split at hread
    · cases hread
    · obtain ⟨hdigits, rfl, hle⟩ := (unsigned_eq_ok_iff (List.cons_ne_nil _ _)).mp hread
      exact ⟨.plus hdigits, by omega, hle⟩
    · obtain ⟨hneg, hdigits, rfl, hge⟩ := (negative_eq_ok_iff (List.cons_ne_nil _ _)).mp hread
      exact ⟨.minus hdigits hneg, hge, by omega⟩
    · rename_i hne _ _
      obtain ⟨hdigits, rfl, hle⟩ := (unsigned_eq_ok_iff hne).mp hread
      exact ⟨.plain hdigits, by omega, hle⟩
  · rintro ⟨hspells, hge, hle⟩
    cases hspells with
    | plain hds =>
        have hread := (unsigned_eq_ok_iff hds.1).mpr ⟨hds, rfl, hle⟩
        unfold parse
        split
        · exact absurd rfl hds.1
        · exact absurd hds (not_digits_cons rfl)
        · exact absurd hds (not_digits_cons rfl)
        · exact hread
    | @plus ds hds =>
        obtain ⟨c, cs, rfl⟩ := List.exists_cons_of_ne_nil hds.1
        exact (unsigned_eq_ok_iff hds.1).mpr ⟨hds, rfl, hle⟩
    | @minus ds hds hneg =>
        obtain ⟨c, cs, rfl⟩ := List.exists_cons_of_ne_nil hds.1
        exact (negative_eq_ok_iff hds.1).mpr ⟨hneg, hds, rfl, hge⟩

/-! ## Numbers in their own digits -/

lemma digits_repr (n : ℕ) : Digits n.repr.toList := by
  rw [Nat.toList_repr]
  exact ⟨Nat.toDigits_ne_nil, fun _ => Nat.isDigit_of_mem_toDigits (by decide) (by decide)⟩

/-- A number in range is read from its own digits. -/
lemma parse_repr (hn : (n : ℤ) ≤ r.high) : parse r n.repr.toList = .ok n := by
  have hspells : Spells r n.repr.toList (Nat.ofDigitChars 10 n.repr.toList 0) :=
    .plain (digits_repr n)
  rw [Nat.toList_repr, Nat.ofDigitChars_toDigits (by decide) (by decide), ← Nat.toList_repr]
    at hspells
  exact parse_eq_ok_iff.mpr ⟨hspells, r.low_le.trans (Int.natCast_nonneg n), hn⟩

lemma digits_toString (hi : 0 ≤ i) : Digits (toString i).toList := by
  obtain ⟨n, rfl⟩ := Int.eq_ofNat_of_zero_le hi
  exact digits_repr n

lemma parse_toString (hi : 0 ≤ i) (hr : i ≤ r.high) : parse r (toString i).toList = .ok i := by
  obtain ⟨n, rfl⟩ := Int.eq_ofNat_of_zero_le hi
  exact parse_repr hr

end Paintbox.Numeral

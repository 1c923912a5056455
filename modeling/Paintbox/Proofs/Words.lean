import Mathlib.Algebra.Order.Ring.Int
import Mathlib.Tactic.SplitIfs

/-!
# Machine words

Integers here have any size.  A computation that has to do with machine words is told by the same
operations, each followed by the question whether its result fits into a word, and it stops at the
first one that does not.  To say that such a computation has a result is to say that no step of it
overflows.

* `word32?`, `word64?` — a number in a word, if it fits.
* `Short` — the numbers that a word of 16 bits holds; `short_toInt`.
* `mul_bounds` — the size of a product.
-/

namespace Paintbox

/-- A number in a signed word of 32 bits, if it fits. -/
def word32? (i : ℤ) : Option ℤ := if -0x80000000 ≤ i ∧ i ≤ 0x7FFFFFFF then some i else none

/-- A number in a signed word of 64 bits, if it fits. -/
def word64? (i : ℤ) : Option ℤ :=
  if -0x8000000000000000 ≤ i ∧ i ≤ 0x7FFFFFFFFFFFFFFF then some i else none

lemma word32?_eq {i : ℤ} (hlow : -0x80000000 ≤ i) (hhigh : i ≤ 0x7FFFFFFF) : word32? i = some i :=
  if_pos ⟨hlow, hhigh⟩

lemma word32?_eq_some {i j : ℤ} (h : word32? i = some j) : j = i := by
  rw [word32?] at h
  split_ifs at h
  exact (Option.some.inj h).symm

lemma word64?_eq {i : ℤ} (hlow : -0x8000000000000000 ≤ i) (hhigh : i ≤ 0x7FFFFFFFFFFFFFFF) :
    word64? i = some i :=
  if_pos ⟨hlow, hhigh⟩

/-- Does the number fit into a signed word of 16 bits? -/
def Short (i : ℤ) : Prop := -0x8000 ≤ i ∧ i ≤ 0x7FFF

lemma short_toInt (i : Int16) : Short i.toInt := ⟨i.le_toInt, Int.le_of_lt_add_one i.toInt_lt⟩

/-- A product of numbers that are not negative is at most the product of their bounds. -/
lemma mul_bounds {a b A B : ℤ} (ha : 0 ≤ a ∧ a ≤ A) (hb : 0 ≤ b ∧ b ≤ B) :
    0 ≤ a * b ∧ a * b ≤ A * B :=
  ⟨mul_nonneg ha.1 hb.1, mul_le_mul ha.2 hb.2 hb.1 (ha.1.trans ha.2)⟩

end Paintbox

import Mathlib
import Paintbox.Geometry
import Paintbox.Proofs.Oval.Outline

/-!
# Ovals of moved boxes

The walk along the arc knows the radii only, so an oval with another center is the same shape in
another place.  A box that is moved keeps its extents, and with them the radii of its oval.  Its
center is another matter.  That is half the sum of two opposite edges, rounded toward zero: where
the sum is odd, the center lies half a pixel left of the middle on one side of the axis and half a
pixel right of it on the other.  So an oval goes along with its box unless the middle of the box
comes past zero by a half; then it stays one pixel behind.

* `Oval.moved`, `Oval.points_moved` — **the same shape in another place**.
* `Oval.travel`, `Oval.half_add` — how far the center goes along.
* `Oval.inscribed_add` — the oval of a moved box.
* `eq_zero_of_shift` — no finite shape is found again one step further on.
* `Oval.points_of_movedBox` — where the points of the oval are; `Oval.points_stay_behind`.
-/

namespace Paintbox

namespace Oval

/-! ## Another center -/

/-- The oval with its center moved. -/
def moved (o : Oval) (u v : ℤ) : Oval := { o with cx := o.cx + u, cy := o.cy + v }

section Moved

variable (o : Oval) (u v : ℤ)

lemma degenerate_moved : (o.moved u v).Degenerate ↔ o.Degenerate := Iff.rfl

lemma flatStep_moved : (o.moved u v).flatStep = o.flatStep := rfl

lemma steepStep_moved : (o.moved u v).steepStep = o.steepStep := rfl

lemma foldFlat_moved {β : Type} (f : β → ℤ → ℤ → β) (fuel : ℕ) (w : Walker) (b : β) :
    (o.moved u v).foldFlat f fuel w b = o.foldFlat f fuel w b := by
  induction fuel generalizing w b with
  | zero => rfl
  | succ fuel ih => simp only [foldFlat, flatStep_moved, ih]

lemma foldSteep_moved {β : Type} (f : β → ℤ → ℤ → β) (count : ℕ) (w : Walker) (b : β) :
    (o.moved u v).foldSteep f count w b = o.foldSteep f count w b := by
  induction count generalizing w b with
  | zero => rfl
  | succ count ih => simp only [foldSteep, steepStep_moved, ih]

/-- The walk does not look at the center. -/
lemma arc_moved : (o.moved u v).arc = o.arc := by
  have htop : (o.moved u v).top = o.top := rfl
  have hturn : (o.moved u v).turn = o.turn := rfl
  simp only [arc, fold, htop, hturn, foldFlat_moved, foldSteep_moved]

lemma mirror_moved (x y : ℤ) :
    (o.moved u v).mirror x y = (o.mirror x y).map fun q => (q.1 + u, q.2 + v) := by
  simp only [mirror, moved, List.map_cons, List.map_nil, List.cons.injEq, Prod.mk.injEq, and_true]
  omega

/-- The points of an oval with another center are its points moved, in the same order. -/
lemma points_moved : (o.moved u v).points = o.points.map fun q => (q.1 + u, q.2 + v) := by
  simp only [points, degenerate_moved, arc_moved, mirror_moved]
  split_ifs with hdeg
  · rfl
  · rw [List.map_flatMap]

end Moved

lemma mem_points_moved {o : Oval} {u v x y : ℤ} :
    (x, y) ∈ (o.moved u v).points ↔ (x - u, y - v) ∈ o.points := by
  rw [points_moved, List.mem_map]
  constructor
  · rintro ⟨q, hq, heq⟩
    obtain ⟨rfl, rfl⟩ := Prod.mk.inj heq
    rwa [add_sub_cancel_right, add_sub_cancel_right]
  · intro hmem
    exact ⟨_, hmem, by rw [sub_add_cancel, sub_add_cancel]⟩

/-! ## The center of a moved box -/

/-- Two edges with the odd sum `s` are moved by `a`, and their middle comes past zero. -/
def Crosses (s a : ℤ) : Prop := s % 2 = 1 ∧ (s < 0 ∧ 0 < s + 2 * a ∨ 0 < s ∧ s + 2 * a < 0)

instance (s a : ℤ) : Decidable (Crosses s a) := inferInstanceAs (Decidable (_ ∧ (_ ∨ _)))

/-- How far the rounded middle goes when two edges with the sum `s` are moved by `a`: as far as
they do, or one pixel less. -/
def travel (s a : ℤ) : ℤ := if Crosses s a then a - a.sign else a

lemma half_add (s a : ℤ) : (s + 2 * a).tdiv 2 = s.tdiv 2 + travel s a := by
  have hsign : Int.sign 2 = 1 := rfl
  rw [travel, Int.tdiv_eq_ediv, Int.tdiv_eq_ediv, hsign]
  by_cases hcross : Crosses s a
  · rw [if_pos hcross]
    -- an odd sum is rounded up below zero and down above it
    obtain ⟨hodd, ⟨hneg, hpos⟩ | ⟨hpos, hneg⟩⟩ := hcross
    · rw [Int.sign_eq_one_of_pos (by omega), if_pos (Or.inl hpos.le), if_neg (by omega)]
      omega
    · rw [Int.sign_eq_neg_one_of_neg (by omega), if_neg (by omega), if_pos (Or.inl hpos.le)]
      omega
  · rw [if_neg hcross]
    rw [Crosses] at hcross
    split_ifs <;> omega

/-- The middle goes along with the edges exactly if it does not come past zero by a half. -/
lemma travel_eq_iff {s a : ℤ} : travel s a = a ↔ ¬ Crosses s a := by
  rw [travel]
  split_ifs with hcross
  · refine iff_of_false (fun hstays => ?_) (not_not_intro hcross)
    have hzero : a = 0 := Int.sign_eq_zero_iff_zero.mp (by omega)
    rw [Crosses] at hcross
    omega
  · exact iff_of_true rfl hcross

/-- The oval of a moved box has the same radii, and its center goes as far as the middle of the
box. -/
lemma inscribed_add (left top right bottom a b : ℤ) :
    inscribed (left + a) (top + b) (right + a) (bottom + b)
      = (inscribed left top right bottom).moved (travel (left + right) a)
          (travel (top + bottom) b) := by
  have hx : left + a + (right + a) = left + right + 2 * a := by ring
  have hy : top + b + (bottom + b) = top + bottom + 2 * b := by ring
  simp only [inscribed, moved, hx, hy, half_add, add_sub_add_right_eq_sub]

/-! ## Finite shapes -/

/-- A finite shape that is the same after a shift has not been shifted: the sum of its points would
have grown with each of them. -/
lemma eq_zero_of_shift {points : List (ℤ × ℤ)} {w : ℤ × ℤ} (hne : points ≠ [])
    (hshift : ∀ q, q + w ∈ points ↔ q ∈ points) : w = 0 := by
  have himage : points.toFinset.image (· + w) = points.toFinset := by
    ext q
    simp only [Finset.mem_image, List.mem_toFinset]
    constructor
    · rintro ⟨q, hq, rfl⟩
      exact (hshift q).mpr hq
    · intro hq
      exact ⟨q - w, (hshift _).mp (by rwa [sub_add_cancel]), sub_add_cancel q w⟩
  have hsum : ∑ q ∈ points.toFinset, (q + w) = ∑ q ∈ points.toFinset, q := by
    have hinj : Set.InjOn (· + w) (points.toFinset : Set (ℤ × ℤ)) :=
      (add_left_injective w).injOn
    rw [← Finset.sum_image (f := fun q => q) hinj, himage]
  rw [Finset.sum_add_distrib, Finset.sum_const, add_eq_left, smul_eq_zero] at hsum
  refine hsum.resolve_left ?_
  rwa [Finset.card_eq_zero, List.toFinset_eq_empty_iff]

lemma points_ne_nil (o : Oval) : o.points ≠ [] := by
  by_cases hdeg : o.Degenerate
  · rw [points, if_pos hdeg]
    exact List.cons_ne_nil _ _
  · rw [Degenerate] at hdeg
    have hrx : 1 ≤ o.rx := by omega
    have hry : 1 ≤ o.ry := by omega
    obtain ⟨x, hx⟩ := (outline hrx hry).exists_mem_row o.cy (by omega) (by omega)
    exact List.ne_nil_of_mem hx

/-! ## The oval of a moved box -/

/-- **An oval goes along with its box, or stays one pixel behind.**  Whatever box is moved by
whatever offset, its oval is drawn point by point as before, only in another place.  In each
direction it has gone as far as the box, except if the sum of the two edges is odd and has changed
its sign; then it has gone one pixel less.  So the points are those of the box shifted by the offset
exactly if this happens in neither direction. -/
theorem points_of_movedBox (left top right bottom a b : ℤ) :
    (inscribed (left + a) (top + b) (right + a) (bottom + b)).points
        = (inscribed left top right bottom).points.map
            (fun q => (q.1 + travel (left + right) a, q.2 + travel (top + bottom) b)) ∧
      ((∀ x y, (x + a, y + b)
            ∈ (inscribed (left + a) (top + b) (right + a) (bottom + b)).points
          ↔ (x, y) ∈ (inscribed left top right bottom).points)
        ↔ ¬ Crosses (left + right) a ∧ ¬ Crosses (top + bottom) b) ∧
      ∀ (p : Pixmap) (v : UInt8) (x y : ℤ),
        (p.oval (inscribed (left + a) (top + b) (right + a) (bottom + b)) v).get? x y
          = if (x - travel (left + right) a, y - travel (top + bottom) b)
                ∈ (inscribed left top right bottom).points then (p.get? x y).map fun _ => v
            else p.get? x y := by
  rw [inscribed_add]
  refine ⟨points_moved _ _ _, ?_, fun p v x y => ?_⟩
  · simp only [mem_points_moved, ← travel_eq_iff]
    constructor
    · intro hshift
      have hzero : (a - travel (left + right) a, b - travel (top + bottom) b) = (0 : ℤ × ℤ) :=
        eq_zero_of_shift (points_ne_nil _) fun q => by
          rw [← hshift q.1 q.2, Prod.mk_add_mk, add_sub_assoc, add_sub_assoc]
      obtain ⟨hx, hy⟩ := Prod.mk.inj hzero
      exact ⟨(sub_eq_zero.mp hx).symm, (sub_eq_zero.mp hy).symm⟩
    · rintro ⟨hx, hy⟩ x y
      rw [hx, hy, add_sub_cancel_right, add_sub_cancel_right]
  · rw [Pixmap.get?_oval]
    simp only [mem_points_moved]

/-- The boxes from `-2` to `1` and from `-1` to `2` have the same oval, so in device coordinates, too,
a box may be moved without its oval. -/
theorem points_stay_behind : ¬ ∀ (r r' : Rect) (a b : ℤ),
    r'.left.toInt = r.left.toInt + a → r'.top.toInt = r.top.toInt + b →
    r'.right.toInt = r.right.toInt + a → r'.bottom.toInt = r.bottom.toInt + b → ∀ x y,
      (x + a, y + b) ∈ (inscribed r'.left.toInt r'.top.toInt r'.right.toInt r'.bottom.toInt).points
        ↔ (x, y) ∈ (inscribed r.left.toInt r.top.toInt r.right.toInt r.bottom.toInt).points := by
  intro hmoves
  have hbox := hmoves ⟨-2, 0, 1, 2⟩ ⟨-1, 0, 2, 2⟩ 1 0 (by decide) (by decide) (by decide)
    (by decide) 0 0
  exact absurd hbox (by decide)

end Oval

end Paintbox

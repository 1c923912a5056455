import Mathlib
import Paintbox.Proofs.Oval.Walk

/-!
# The decision values of an oval

A step of the walk depends on the side of the ellipse on which a midpoint lies.  The midpoint has
halves in its coordinates, what the equation of the ellipse gives there has quarters, and the
decision value is an integer that is carried along by additions of integers.  So there is one
fraction to lose.  It is lost once in each part of the walk, when the decision value is made, and
from there on every addition is exact: the decision value is what the equation gives at the midpoint
of the very step, rounded down.  Rounding down keeps the sign, so the flat part asks exactly whether
its midpoint is inside.  The steep part asks whether its midpoint is outside by one whole unit.

* `Oval.curve`, `Oval.Inside` — the equation of the ellipse and its inside, over the rationals.
* `Oval.inside_iff_curve_neg`, `Oval.floor_curve` — the sign of the equation, and its integer part.
* `Oval.Decides` — **the books of a walker are right**: both gradients, and the decision value for a
  midpoint.
* `Oval.decides_midpoints` — they are right at every head of both loops.
-/

namespace Paintbox.Oval

variable {o : Oval} {w : Walker}

/-! ## The equation -/

/-- What the equation of the ellipse, freed of its denominators, gives at a point. -/
def curve (o : Oval) (u v : ℚ) : ℚ := o.ry ^ 2 * u ^ 2 + o.rx ^ 2 * v ^ 2 - o.rx ^ 2 * o.ry ^ 2

/-- Is the point strictly inside the ellipse around the origin? -/
def Inside (o : Oval) (u v : ℚ) : Prop := (u / o.rx) ^ 2 + (v / o.ry) ^ 2 < 1

lemma inside_iff_curve_neg (hrx : 1 ≤ o.rx) (hry : 1 ≤ o.ry) (u v : ℚ) :
    o.Inside u v ↔ o.curve u v < 0 := by
  have hrx' : (0 : ℚ) < o.rx := by exact_mod_cast hrx
  have hry' : (0 : ℚ) < o.ry := by exact_mod_cast hry
  have hpos : (0 : ℚ) < (o.rx * o.ry) ^ 2 := by positivity
  have hcurve : o.curve u v = (o.rx * o.ry) ^ 2 * ((u / o.rx) ^ 2 + (v / o.ry) ^ 2 - 1) := by
    rw [curve]
    field_simp
  rw [Inside, hcurve, ← sub_neg, mul_neg_iff]
  constructor
  · exact fun hneg => Or.inl ⟨hpos, hneg⟩
  · rintro (⟨-, hneg⟩ | ⟨hlt, -⟩)
    · exact hneg
    · exact absurd hlt hpos.not_gt

/-- The equation at a point with halves has quarters. -/
lemma curve_halves (o : Oval) (u v : ℤ) : o.curve (u / 2) (v / 2) = o.form u v / (4 : ℕ) := by
  simp only [curve, form, rx2, ry2]
  push_cast
  ring

lemma floor_curve (o : Oval) (u v : ℤ) : ⌊o.curve (u / 2) (v / 2)⌋ = o.form u v / 4 := by
  rw [curve_halves, Rat.floor_intCast_div_natCast]
  rfl

/-! ## The books of a walker -/

/-- The gradients belong to the offset, and the decision value is what the equation gives at the
midpoint, rounded down. -/
structure Decides (o : Oval) (w : Walker) (u v : ℚ) : Prop where
  px : w.px = 2 * o.ry ^ 2 * w.x
  py : w.py = 2 * o.rx ^ 2 * w.y
  p : w.p = ⌊o.curve u v⌋

variable {u v : ℚ}

/-- To be inside is to be inside by the rounded number. -/
lemma Decides.p_neg_iff (hw : o.Decides w u v) (hrx : 1 ≤ o.rx) (hry : 1 ≤ o.ry) :
    w.p < 0 ↔ o.Inside u v := by
  rw [hw.p, Int.floor_lt, Int.cast_zero, inside_iff_curve_neg hrx hry]

/-- To be outside by the rounded number is to be outside by one unit. -/
lemma Decides.p_pos_iff (hw : o.Decides w u v) : 0 < w.p ↔ 1 ≤ o.curve u v := by
  rw [hw.p, Int.floor_pos]

/-- A decision value that is a quarter of the form, rounded down, belongs to the midpoint at which
the form is taken. -/
lemma Placed.decides (hw : o.Placed w) {i j : ℤ} (hp : w.p = o.form i j / 4) (hu : (i / 2 : ℚ) = u)
    (hv : (j / 2 : ℚ) = v) : o.Decides w u v where
  px := by
    rw [hw.px, ry2]
    ring
  py := by
    rw [hw.py, rx2]
    ring
  p := by rw [hp, ← floor_curve, hu, hv]

/-- The next midpoint of the flat part lies one column on and half a row down. -/
lemma FlatHead.decides (hw : o.FlatHead w) : o.Decides w (w.x + 1) (w.y - 1 / 2) := by
  refine hw.toPlaced.decides hw.p ?_ ?_
  · push_cast
    ring
  · push_cast
    ring

/-- That of the steep part lies half a column on and one row down. -/
lemma SteepHead.decides (hw : o.SteepHead w) : o.Decides w (w.x + 1 / 2) (w.y - 1) := by
  refine hw.toPlaced.decides hw.p ?_ ?_
  · push_cast
    ring
  · push_cast
    ring

/-! ## The change over -/

/-- The change over rounds the share of the column alone.  That of the row is an integer, so this is
the same as to round the whole. -/
lemma p_turn (o : Oval) (w : Walker) :
    (o.turn w).p = ⌊(o.ry : ℚ) ^ 2 * (w.x + 1 / 2) ^ 2⌋ + o.rx ^ 2 * (w.y - 1) ^ 2
        - o.rx ^ 2 * o.ry ^ 2 ∧
      (o.turn w).p = ⌊o.curve (w.x + 1 / 2) (w.y - 1)⌋ := by
  have hshare : ⌊(o.ry : ℚ) ^ 2 * (w.x + 1 / 2) ^ 2⌋
      = o.ry * o.ry * (2 * w.x + 1) * (2 * w.x + 1) / 4 := by
    refine Eq.trans (congrArg _ ?_)
      (Rat.floor_intCast_div_natCast (o.ry * o.ry * (2 * w.x + 1) * (2 * w.x + 1)) 4)
    push_cast
    ring
  have hsplit : o.curve (w.x + 1 / 2) (w.y - 1)
      = (o.ry : ℚ) ^ 2 * (w.x + 1 / 2) ^ 2
        + (o.rx ^ 2 * (w.y - 1) ^ 2 - o.rx ^ 2 * o.ry ^ 2 : ℤ) := by
    rw [curve]
    push_cast
    ring
  rw [hsplit, Int.floor_add_intCast, hshare, turn, rx2, ry2]
  constructor <;> ring

/-! ## Every head -/

/-- **The decision values of an oval are exact.**  Both loops of the walk along an oval with
positive radii end.  At every head of either loop, and also where the loop is left, the gradients
are `2 * ry² * x` and `2 * rx² * y` for the offset there.  In the flat part the decision value is
what the equation gives at `x + 1`, `y - 1 / 2`, rounded down, and it is negative exactly if this
midpoint is strictly inside the ellipse.  In the steep part it is what the equation gives at
`x + 1 / 2`, `y - 1`, rounded down, and it is positive exactly if that is at least 1.  At the change
over it is made anew from a share that is rounded for itself, and this gives the same. -/
theorem decides_midpoints (hrx : 1 ≤ o.rx) (hry : 1 ≤ o.ry) :
    ∃ flat mid steep last, o.Run flat mid steep last ∧
      (∀ w ∈ flat ++ [mid], o.Decides w (w.x + 1) (w.y - 1 / 2) ∧
        (w.p < 0 ↔ o.Inside (w.x + 1) (w.y - 1 / 2))) ∧
      (∀ w ∈ steep ++ [last], o.Decides w (w.x + 1 / 2) (w.y - 1) ∧
        (0 < w.p ↔ 1 ≤ o.curve (w.x + 1 / 2) (w.y - 1))) ∧
      (o.turn mid).p = ⌊(o.ry : ℚ) ^ 2 * (mid.x + 1 / 2) ^ 2⌋ + o.rx ^ 2 * (mid.y - 1) ^ 2
        - o.rx ^ 2 * o.ry ^ 2 ∧
      (o.turn mid).p = ⌊o.curve (mid.x + 1 / 2) (mid.y - 1)⌋ := by
  obtain ⟨flat, mid, steep, last, h⟩ := exists_run hry
  obtain ⟨hflat, hmid, -⟩ := h.flatHead hrx hry
  obtain ⟨hsteep, hlast, -⟩ := h.steepHead hrx hry
  have hflatHeads : ∀ w ∈ flat ++ [mid], o.FlatHead w :=
    List.forall_mem_append.mpr ⟨fun w hw => (hflat w hw).1, List.forall_mem_singleton.mpr hmid⟩
  have hsteepHeads : ∀ w ∈ steep ++ [last], o.SteepHead w :=
    List.forall_mem_append.mpr ⟨fun w hw => (hsteep w hw).1, List.forall_mem_singleton.mpr hlast⟩
  refine ⟨flat, mid, steep, last, h, fun w hw => ?_, fun w hw => ?_, o.p_turn mid⟩
  · have hw := (hflatHeads w hw).decides
    exact ⟨hw, hw.p_neg_iff hrx hry⟩
  · have hw := (hsteepHeads w hw).decides
    exact ⟨hw, hw.p_pos_iff⟩

/-- With an odd horizontal radius a quarter is lost at the start: the equation gives `-47 / 4` at the
first midpoint, and the decision value is `-12`. -/
theorem decides_midpoints_odd :
    (1 : ℤ) ≤ 3 ∧ (1 : ℤ) ≤ 2 ∧ (⟨0, 0, 3, 2⟩ : Oval).curve 1 (3 / 2) = -47 / 4 ∧
      (⟨0, 0, 3, 2⟩ : Oval).top.p = -12 ∧
      ∃ flat mid steep last, (⟨0, 0, 3, 2⟩ : Oval).Run flat mid steep last ∧
        ∀ w ∈ flat ++ [mid], w.p < 0 ↔ (⟨0, 0, 3, 2⟩ : Oval).Inside (w.x + 1) (w.y - 1 / 2) := by
  obtain ⟨flat, mid, steep, last, h, hflat, -⟩ :=
    decides_midpoints (o := ⟨0, 0, 3, 2⟩) (by decide) (by decide)
  refine ⟨by decide, by decide, by norm_num [curve], by decide, flat, mid, steep, last, h, ?_⟩
  exact fun w hw => (hflat w hw).2

end Paintbox.Oval

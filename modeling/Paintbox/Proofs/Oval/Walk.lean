import Mathlib
import Paintbox.Proofs.Loop
import Paintbox.Proofs.Pixmap.Plot

/-!
# The walk along an oval

The walk never looks at the ellipse.  All that it has is a decision value, which it carries along
by additions, and two gradients that tell it when to change over.  Here is what these are at every
head of its two loops, and what follows for the offsets.

* `Oval.form` — the quadratic form of the ellipse on the grid of half pixels.
* `Oval.FlatHead`, `Oval.SteepHead` — **what is true at every head**: the gradients belong to the
  offset, the decision value is the form at the midpoint that is up next, rounded down, and the
  offset lies in the box.
* `Oval.flatHead_top`, `FlatHead.step`, `FlatHead.turn`, `SteepHead.step` — where it comes from and
  what keeps it.
* `Oval.Run` — the two loops one after the other, with no bound on either; `Oval.exists_run` — they
  end.
-/

namespace Paintbox.Oval

variable {o : Oval} {w : Walker}

/-! ## The ellipse -/

/-- Four times what the equation of the ellipse gives at `u / 2`, `v / 2`: negative inside, zero on
the curve, positive outside. -/
def form (o : Oval) (u v : ℤ) : ℤ := o.ry2 * (u * u) + o.rx2 * (v * v) - 4 * o.rx2 * o.ry2

lemma rx2_nonneg (o : Oval) : 0 ≤ o.rx2 := mul_self_nonneg o.rx

lemma ry2_nonneg (o : Oval) : 0 ≤ o.ry2 := mul_self_nonneg o.ry

lemma rx2_pos (hrx : 1 ≤ o.rx) : 1 ≤ o.rx2 := one_le_mul_of_one_le_of_one_le hrx hrx

lemma ry2_pos (hry : 1 ≤ o.ry) : 1 ≤ o.ry2 := one_le_mul_of_one_le_of_one_le hry hry

/-- Right of the box everything is outside. -/
lemma form_nonneg {x : ℤ} (hrx : 1 ≤ o.rx) (hx : o.rx ≤ x) (v : ℤ) : 0 ≤ o.form (2 * x) v := by
  have hsq : o.rx2 ≤ x * x := mul_self_le_mul_self (by omega) hx
  have hmul : o.ry2 * o.rx2 ≤ o.ry2 * (x * x) := mul_le_mul_of_nonneg_left hsq o.ry2_nonneg
  have hv : 0 ≤ o.rx2 * (v * v) := mul_nonneg o.rx2_nonneg (mul_self_nonneg v)
  rw [form]
  linarith

/-- Half a pixel right of the box it is so by one whole unit. -/
lemma four_le_form {x : ℤ} (hrx : 1 ≤ o.rx) (hry : 1 ≤ o.ry) (hx : o.rx ≤ x) (v : ℤ) :
    4 ≤ o.form (2 * x + 1) v := by
  have hform := form_nonneg hrx hx v
  have hstep : o.form (2 * x + 1) v = o.form (2 * x) v + o.ry2 * (4 * x + 1) := by
    simp only [form]
    ring
  have hmul : 1 * 5 ≤ o.ry2 * (4 * x + 1) :=
    mul_le_mul (ry2_pos hry) (by omega) (by omega) o.ry2_nonneg
  omega

/-! ## The heads of the loops -/

/-- The gradients belong to the offset, and the offset lies in the box. -/
structure Placed (o : Oval) (w : Walker) : Prop where
  px : w.px = 2 * o.ry2 * w.x
  py : w.py = 2 * o.rx2 * w.y
  x_nonneg : 0 ≤ w.x
  x_le : w.x ≤ o.rx
  y_le : w.y ≤ o.ry

/-- What is true at a head of the flat loop.  The column of the walker crosses the ellipse at most
half a pixel above it and, as long as the loop goes on, less than half a pixel below. -/
structure FlatHead (o : Oval) (w : Walker) : Prop extends o.Placed w where
  p : w.p = o.form (2 * w.x + 2) (2 * w.y - 1) / 4
  y_nonneg : 0 ≤ w.y
  outside : 0 ≤ o.form (2 * w.x) (2 * w.y + 1)
  inside : w.px < w.py → o.form (2 * w.x) (2 * w.y - 1) < 0

/-- What is true at a head of the steep loop. -/
structure SteepHead (o : Oval) (w : Walker) : Prop extends o.Placed w where
  p : w.p = o.form (2 * w.x + 1) (2 * w.y - 2) / 4
  steep : w.py ≤ w.px

/-- The decision in the flat loop: is the midpoint inside? -/
lemma FlatHead.p_neg_iff (hw : o.FlatHead w) :
    w.p < 0 ↔ o.form (2 * w.x + 2) (2 * w.y - 1) < 0 := by
  have hp := hw.p
  omega

/-- The decision in the steep loop: is the midpoint outside by one whole unit? -/
lemma SteepHead.p_pos_iff (hw : o.SteepHead w) :
    0 < w.p ↔ 4 ≤ o.form (2 * w.x + 1) (2 * w.y - 2) := by
  have hp := hw.p
  omega

lemma flatHead_top (hrx : 1 ≤ o.rx) (hry : 1 ≤ o.ry) : o.FlatHead o.top where
  px := (mul_zero _).symm
  py := rfl
  x_nonneg := le_refl 0
  x_le := by
    show 0 ≤ o.rx
    omega
  y_le := le_refl o.ry
  p := by
    have hform : o.form (2 * 0 + 2) (2 * o.ry - 1) = 4 * (o.ry2 - o.rx2 * o.ry) + o.rx2 := by
      simp only [form, ry2]
      ring
    simp only [top, hform]
    omega
  y_nonneg := by
    show 0 ≤ o.ry
    omega
  outside := by
    have hform : o.form (2 * 0) (2 * o.ry + 1) = o.rx2 * (4 * o.ry + 1) := by
      simp only [form, ry2]
      ring
    simp only [top, hform]
    exact mul_nonneg o.rx2_nonneg (by omega)
  inside := by
    intro _
    have hform : o.form (2 * 0) (2 * o.ry - 1) = -(o.rx2 * (4 * o.ry - 1)) := by
      simp only [form, ry2]
      ring
    simp only [top, hform]
    exact neg_neg_of_pos (mul_pos (rx2_pos hrx) (by omega))

/-! ## One step of the flat loop -/

lemma flatStep_of_neg (h : w.p < 0) : o.flatStep w
    = ⟨w.x + 1, w.y, w.px + 2 * o.ry2, w.py, w.p + (o.ry2 + (w.px + 2 * o.ry2))⟩ := by
  rw [flatStep, if_pos h]

lemma flatStep_of_nonneg (h : ¬ w.p < 0) : o.flatStep w
    = ⟨w.x + 1, w.y - 1, w.px + 2 * o.ry2, w.py - 2 * o.rx2,
      w.p + (o.ry2 + (w.px + 2 * o.ry2) - (w.py - 2 * o.rx2))⟩ := by
  rw [flatStep, if_neg h]

/-- In the flat loop the walker is left of the end of the arc, and above it. -/
lemma FlatHead.room (hrx : 1 ≤ o.rx) (hw : o.FlatHead w) (hflat : w.px < w.py) :
    w.x < o.rx ∧ 0 < w.y := by
  constructor
  · by_contra hx
    exact absurd (hw.inside hflat) (not_lt.mpr (form_nonneg hrx (not_lt.mp hx) _))
  · by_contra hy
    have hpx : 0 ≤ 2 * o.ry2 * w.x :=
      mul_nonneg (mul_nonneg zero_le_two o.ry2_nonneg) hw.x_nonneg
    have hpy : 2 * o.rx2 * w.y ≤ 0 :=
      mul_nonpos_of_nonneg_of_nonpos (mul_nonneg zero_le_two o.rx2_nonneg) (not_lt.mp hy)
    rw [hw.px, hw.py] at hflat
    omega

lemma Placed.flatStep (hw : o.Placed w) (hx : w.x < o.rx) : o.Placed (o.flatStep w) := by
  have hx0 := Int.add_nonneg hw.x_nonneg zero_le_one
  by_cases hp : w.p < 0
  · rw [flatStep_of_neg hp]
    refine ⟨?_, hw.py, hx0, hx, hw.y_le⟩
    rw [hw.px]
    ring
  · rw [flatStep_of_nonneg hp]
    refine ⟨?_, ?_, hx0, hx, (Int.sub_le_self _ zero_le_one).trans hw.y_le⟩
    · rw [hw.px]
      ring
    · rw [hw.py]
      ring

/-- The decision value goes on being the form at the next midpoint. -/
lemma FlatHead.p_flatStep (hw : o.FlatHead w) :
    (o.flatStep w).p = o.form (2 * (o.flatStep w).x + 2) (2 * (o.flatStep w).y - 1) / 4 := by
  have hp := hw.p
  by_cases hneg : w.p < 0
  · have hform : o.form (2 * (w.x + 1) + 2) (2 * w.y - 1)
        = o.form (2 * w.x + 2) (2 * w.y - 1) + 4 * (o.ry2 + (w.px + 2 * o.ry2)) := by
      rw [hw.px]
      simp only [form]
      ring
    simp only [flatStep_of_neg hneg, hform]
    omega
  · have hform : o.form (2 * (w.x + 1) + 2) (2 * (w.y - 1) - 1)
        = o.form (2 * w.x + 2) (2 * w.y - 1)
          + 4 * (o.ry2 + (w.px + 2 * o.ry2) - (w.py - 2 * o.rx2)) := by
      rw [hw.px, hw.py]
      simp only [form]
      ring
    simp only [flatStep_of_nonneg hneg, hform]
    omega

/-- The point half a pixel above the walker stays outside: straight on it goes away from the center,
and before a step down it is the midpoint that was found outside. -/
lemma FlatHead.outside_flatStep (hw : o.FlatHead w) :
    0 ≤ o.form (2 * (o.flatStep w).x) (2 * (o.flatStep w).y + 1) := by
  by_cases hneg : w.p < 0
  · have hform : o.form (2 * (w.x + 1)) (2 * w.y + 1)
        = o.form (2 * w.x) (2 * w.y + 1) + 4 * (o.ry2 * (2 * w.x + 1)) := by
      simp only [form]
      ring
    have hx := hw.x_nonneg
    have hmul : 0 ≤ o.ry2 * (2 * w.x + 1) := mul_nonneg o.ry2_nonneg (by omega)
    have houtside := hw.outside
    simp only [flatStep_of_neg hneg, hform]
    omega
  · have hform : o.form (2 * (w.x + 1)) (2 * (w.y - 1) + 1)
        = o.form (2 * w.x + 2) (2 * w.y - 1) := by
      congr 1 <;> ring
    simp only [flatStep_of_nonneg hneg, hform]
    exact not_lt.mp (hw.p_neg_iff.not.mp hneg)

/-- The point half a pixel below the walker stays inside as long as the loop goes on: before a step
straight on it is the midpoint that was found inside, and a step down, which crosses the curve, is
made up for by the gap that is left between the gradients. -/
lemma FlatHead.inside_flatStep (hw : o.FlatHead w) (hflat : w.px < w.py)
    (hflat' : (o.flatStep w).px < (o.flatStep w).py) :
    o.form (2 * (o.flatStep w).x) (2 * (o.flatStep w).y - 1) < 0 := by
  by_cases hneg : w.p < 0
  · have hform : o.form (2 * (w.x + 1)) (2 * w.y - 1) = o.form (2 * w.x + 2) (2 * w.y - 1) := by
      congr 1
      ring
    simp only [flatStep_of_neg hneg, hform]
    exact hw.p_neg_iff.mp hneg
  · have hform : o.form (2 * (w.x + 1)) (2 * (w.y - 1) - 1)
        = o.form (2 * w.x) (2 * w.y - 1)
          + 4 * (w.px + 2 * o.ry2 - (w.py - 2 * o.rx2) - o.ry2) := by
      rw [hw.px, hw.py]
      simp only [form]
      ring
    have hinside := hw.inside hflat
    have hry2 := o.ry2_nonneg
    simp only [flatStep_of_nonneg hneg] at hflat'
    simp only [flatStep_of_nonneg hneg, hform]
    omega

/-- **A step of the flat loop keeps what is true at its head.** -/
lemma FlatHead.step (hrx : 1 ≤ o.rx) (hw : o.FlatHead w) (hflat : w.px < w.py) :
    o.FlatHead (o.flatStep w) where
  toPlaced := hw.toPlaced.flatStep (hw.room hrx hflat).1
  p := hw.p_flatStep
  y_nonneg := by
    have hy := (hw.room hrx hflat).2
    rw [Oval.flatStep]
    split_ifs
    · exact hw.y_nonneg
    · exact Int.sub_nonneg_of_le hy
  outside := hw.outside_flatStep
  inside := hw.inside_flatStep hflat

/-! ## One step of the steep loop -/

lemma steepStep_of_pos (h : 0 < w.p) : o.steepStep w
    = ⟨w.x, w.y - 1, w.px, w.py - 2 * o.rx2, w.p + (o.rx2 - (w.py - 2 * o.rx2))⟩ := by
  rw [steepStep, if_pos h]

lemma steepStep_of_nonpos (h : ¬ 0 < w.p) : o.steepStep w
    = ⟨w.x + 1, w.y - 1, w.px + 2 * o.ry2, w.py - 2 * o.rx2,
      w.p + (o.rx2 - (w.py - 2 * o.rx2) + (w.px + 2 * o.ry2))⟩ := by
  rw [steepStep, if_neg h]

lemma y_steepStep (o : Oval) (w : Walker) : (o.steepStep w).y = w.y - 1 := by
  rw [steepStep]
  split_ifs <;> rfl

/-- The change over makes the decision value anew, for the midpoint of the first steep step. -/
lemma FlatHead.turn (hw : o.FlatHead w) (hleft : ¬ w.px < w.py) : o.SteepHead (o.turn w) where
  toPlaced := ⟨hw.px, hw.py, hw.x_nonneg, hw.x_le, hw.y_le⟩
  p := by
    have hform : o.form (2 * w.x + 1) (2 * w.y - 2) = o.ry2 * (2 * w.x + 1) * (2 * w.x + 1)
        + 4 * (o.rx2 * (w.y - 1) * (w.y - 1) - o.rx2 * o.ry2) := by
      simp only [form]
      ring
    simp only [Oval.turn, hform]
    omega
  steep := not_lt.mp hleft

lemma Placed.steepStep (hw : o.Placed w) (hx : ¬ 0 < w.p → w.x < o.rx) :
    o.Placed (o.steepStep w) := by
  have hy := (Int.sub_le_self w.y zero_le_one).trans hw.y_le
  have hpy : w.py - 2 * o.rx2 = 2 * o.rx2 * (w.y - 1) := by
    rw [hw.py]
    ring
  by_cases hp : 0 < w.p
  · rw [steepStep_of_pos hp]
    exact ⟨hw.px, hpy, hw.x_nonneg, hw.x_le, hy⟩
  · rw [steepStep_of_nonpos hp]
    refine ⟨?_, hpy, Int.add_nonneg hw.x_nonneg zero_le_one, hx hp, hy⟩
    rw [hw.px]
    ring

lemma SteepHead.p_steepStep (hw : o.SteepHead w) :
    (o.steepStep w).p = o.form (2 * (o.steepStep w).x + 1) (2 * (o.steepStep w).y - 2) / 4 := by
  have hp := hw.p
  by_cases hpos : 0 < w.p
  · have hform : o.form (2 * w.x + 1) (2 * (w.y - 1) - 2)
        = o.form (2 * w.x + 1) (2 * w.y - 2) + 4 * (o.rx2 - (w.py - 2 * o.rx2)) := by
      rw [hw.py]
      simp only [form]
      ring
    simp only [steepStep_of_pos hpos, hform]
    omega
  · have hform : o.form (2 * (w.x + 1) + 1) (2 * (w.y - 1) - 2)
        = o.form (2 * w.x + 1) (2 * w.y - 2)
          + 4 * (o.rx2 - (w.py - 2 * o.rx2) + (w.px + 2 * o.ry2)) := by
      rw [hw.px, hw.py]
      simp only [form]
      ring
    simp only [steepStep_of_nonpos hpos, hform]
    omega

/-- **A step of the steep loop keeps what is true at its head.**  At the right end of the box every
midpoint is outside by more than one unit, and the walker goes straight down. -/
lemma SteepHead.step (hrx : 1 ≤ o.rx) (hry : 1 ≤ o.ry) (hw : o.SteepHead w) :
    o.SteepHead (o.steepStep w) where
  toPlaced := by
    refine hw.toPlaced.steepStep fun hpos => ?_
    by_contra hx
    exact hpos (hw.p_pos_iff.mpr (four_le_form hrx hry (not_lt.mp hx) _))
  p := hw.p_steepStep
  steep := by
    have hsteep := hw.steep
    have hrx2 := o.rx2_nonneg
    have hry2 := o.ry2_nonneg
    rw [Oval.steepStep]
    split_ifs
    · show w.py - 2 * o.rx2 ≤ w.px
      omega
    · show w.py - 2 * o.rx2 ≤ w.px + 2 * o.ry2
      omega

/-! ## The two loops -/

def Walker.offset (w : Walker) : ℤ × ℤ := (w.x, w.y)

/-- Along the arc goes first the flat loop, from the top to where it is left, and then the steep
loop, from there until it is below the row of the center.  Neither has a bound.  The arc consists of
the offsets at their heads. -/
structure Run (o : Oval) (flat : List Walker) (mid : Walker) (steep : List Walker)
    (last : Walker) : Prop where
  flatLoop : Loop (fun w => w.px < w.py) o.flatStep o.top flat mid
  steepLoop : Loop (fun w => 0 ≤ w.y) o.steepStep (o.turn mid) steep last
  arc : o.arc = (flat ++ steep).map Walker.offset

variable {β : Type} {last : Walker} {visited : List Walker}

/-- Where the flat loop ends within the bound, the bound makes no difference. -/
lemma foldFlat_of_loop (f : β → Int → Int → β)
    (hloop : Loop (fun w => w.px < w.py) o.flatStep w visited last) :
    ∀ {fuel : ℕ} (b : β), visited.length ≤ fuel →
      o.foldFlat f fuel w b = (last, visited.foldl (fun b w => f b w.x w.y) b) := by
  induction hloop with
  | done hleft =>
      intro fuel b _
      cases fuel with
      | zero => rfl
      | succ fuel => rw [foldFlat, if_neg hleft]; rfl
  | next hguard _ ih =>
      intro fuel b hlen
      cases fuel with
      | zero => cases hlen
      | succ fuel =>
          rw [foldFlat, if_pos hguard, ih _ (Nat.le_of_succ_le_succ hlen)]
          rfl

/-- The steep loop takes one step for each row. -/
lemma foldSteep_of_loop (f : β → Int → Int → β)
    (hloop : Loop (fun w => 0 ≤ w.y) o.steepStep w visited last) :
    ∀ b : β, o.foldSteep f (w.y + 1).toNat w b = visited.foldl (fun b w => f b w.x w.y) b := by
  induction hloop with
  | @done w hleft =>
      intro b
      have hcount : (w.y + 1).toNat = 0 := by omega
      rw [hcount]
      rfl
  | @next w _ _ hguard _ ih =>
      intro b
      have hcount : (w.y + 1).toNat = ((o.steepStep w).y + 1).toNat + 1 := by
        rw [y_steepStep]
        omega
      rw [hcount, foldSteep, ih]
      rfl

/-- **Both loops end.**  A flat step brings the gradients closer to each other, a steep step goes
one row down. -/
lemma exists_run (hry : 1 ≤ o.ry) : ∃ flat mid steep last, o.Run flat mid steep last := by
  have hrx2 := o.rx2_nonneg
  have hry2 := ry2_pos hry
  have hnearer : ∀ w : Walker, w.px < w.py →
      ((o.flatStep w).py - (o.flatStep w).px).toNat < (w.py - w.px).toNat := by
    intro w hguard
    simp only [flatStep]
    split_ifs
    · show (w.py - (w.px + 2 * o.ry2)).toNat < (w.py - w.px).toNat
      omega
    · show (w.py - 2 * o.rx2 - (w.px + 2 * o.ry2)).toNat < (w.py - w.px).toNat
      omega
  have hlower : ∀ w : Walker, 0 ≤ w.y → ((o.steepStep w).y + 1).toNat < (w.y + 1).toNat := by
    intro w hguard
    rw [y_steepStep]
    omega
  obtain ⟨flat, mid, hflat, hlen⟩ :=
    Loop.exists_of_decreasing (fun w : Walker => (w.py - w.px).toNat) hnearer o.top
  obtain ⟨steep, last, hsteep, -⟩ :=
    Loop.exists_of_decreasing (fun w : Walker => (w.y + 1).toNat) hlower (o.turn mid)
  refine ⟨flat, mid, steep, last, hflat, hsteep, ?_⟩
  have hturn : (o.turn mid).y = mid.y := rfl
  rw [arc, fold, foldFlat_of_loop _ hflat _ hlen]
  simp only
  rw [← hturn, foldSteep_of_loop _ hsteep, List.foldl_flip_cons_eq_append,
    List.foldl_flip_cons_eq_append, List.append_nil, List.reverse_append, List.reverse_reverse,
    List.reverse_reverse, List.map_append]
  rfl

variable {flat steep : List Walker} {mid : Walker}

/-- What is true at the heads of the flat loop, and where it is left. -/
lemma Run.flatHead (h : o.Run flat mid steep last) (hrx : 1 ≤ o.rx) (hry : 1 ≤ o.ry) :
    (∀ w ∈ flat, o.FlatHead w ∧ w.px < w.py) ∧ o.FlatHead mid ∧ ¬ mid.px < mid.py :=
  h.flatLoop.invariant (fun _ hw hflat => hw.step hrx hflat) (flatHead_top hrx hry)

/-- What is true at the heads of the steep loop, and where it is left. -/
lemma Run.steepHead (h : o.Run flat mid steep last) (hrx : 1 ≤ o.rx) (hry : 1 ≤ o.ry) :
    (∀ w ∈ steep, o.SteepHead w ∧ 0 ≤ w.y) ∧ o.SteepHead last ∧ ¬ 0 ≤ last.y := by
  obtain ⟨-, hmid, hleft⟩ := h.flatHead hrx hry
  exact h.steepLoop.invariant (fun _ hw _ => hw.step hrx hry) (hmid.turn hleft)

end Paintbox.Oval

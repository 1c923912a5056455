import Paintbox.Proofs.Segment.Places

/-!
# Rectangles

A rectangle is an interior that is filled as a box and four sides that are drawn as segments, one
after the other, around and back to where they started.  A straight segment is the same set of
points in both directions, so the sides are the outermost points of the box from the left top corner
to the last pixel before `right` and `bottom`, and none of them lies in the interior.  The picture
can then be read off pixel by pixel, for a box of one row or one column as well.

The two corners need not be in that order.  The sides are drawn all the same, and around a box
without pixels they enclose something: this is where a rectangle differs from the frame of a box.

* `Segment.Straight`, `Segment.Straight.mem_points_iff` — the points of a straight segment.
* `Pixmap.OnRim`, `Pixmap.mem_sides_iff` — the points of the four sides, wherever the corners are.
* `Pixmap.get?_rectangle` — a rectangle on any box.
* `Pixmap.rectangle_of_box` — **the picture of a rectangle and of a frame** on a box with pixels.
* `Pixmap.drawn_of_emptyBox` — **what is drawn on a box without pixels**: nothing by the others, the
  rim by the pen of a rectangle (`Pixmap.rectangle_marks_emptyBox`).
-/

namespace Paintbox

/-! ## Straight segments -/

namespace Segment

/-- The segment is horizontal, vertical or a single point. -/
def Straight (s : Segment) : Prop := s.x0 = s.x1 ∨ s.y0 = s.y1

variable {s : Segment} {x y : ℤ}

lemma Straight.breadth_eq (h : s.Straight) : s.breadth = 0 := by
  simp only [breadth]
  rcases h with hx | hy
  · omega
  · omega

/-- Along a straight segment there is nothing to round. -/
lemma Straight.nearest_ideal (h : s.Straight) (k : ℕ) : nearest (s.ideal k) = 0 := by
  have hideal : s.ideal k = s.ideal 0 := by
    simp [ideal, h.breadth_eq]
  rw [hideal, nearest_ideal_zero]

lemma Straight.place_eq (h : s.Straight) (k : ℕ) :
    s.place k = if s.dy ≤ s.dx then (s.x0 + k * s.stepX, s.y0) else (s.x0, s.y0 + k * s.stepY) := by
  simp only [place, h.nearest_ideal, zero_mul, add_zero]

lemma mem_points_iff_place : (x, y) ∈ s.points ↔ ∃ k ≤ s.steps, s.place k = (x, y) := by
  obtain ⟨-, -, -, -, -, hplaces⟩ := s.exists_loop
  simp [hplaces]

/-- Unit steps from one end lead to all numbers between the two. -/
lemma exists_step_iff (a b x : ℤ) :
    (∃ k : ℕ, k ≤ (b - a).natAbs ∧ a + k * (if a < b then 1 else -1) = x)
      ↔ min a b ≤ x ∧ x ≤ max a b := by
  constructor
  · rintro ⟨k, hk, rfl⟩
    split_ifs with hab
    · omega
    · omega
  · rintro ⟨hlow, hhigh⟩
    refine ⟨(x - a).natAbs, by omega, ?_⟩
    split_ifs with hab
    · omega
    · omega

lemma between_self_iff (a x : ℤ) : min a a ≤ x ∧ x ≤ max a a ↔ a = x := by
  omega

/-- **A straight segment has all points between its endpoints**, in either direction. -/
lemma Straight.mem_points_iff (h : s.Straight) : (x, y) ∈ s.points ↔
    (min s.x0 s.x1 ≤ x ∧ x ≤ max s.x0 s.x1) ∧ min s.y0 s.y1 ≤ y ∧ y ≤ max s.y0 s.y1 := by
  rw [mem_points_iff_place]
  simp only [h.place_eq]
  rcases s.extents with ⟨hlong, hdx, hdy⟩ | ⟨hlong, hdx, hdy⟩
  · have hrow : s.y1 = s.y0 := by
      rw [h.breadth_eq, dy] at hdy
      omega
    have hsteps : s.steps = (s.x1 - s.x0).natAbs := Int.natCast_inj.mp hdx.symm
    simp only [if_pos hlong, hrow, hsteps, Prod.mk.injEq]
    rw [between_self_iff, ← exists_step_iff, ← exists_and_right]
    simp only [and_assoc]
    rfl
  · have hcolumn : s.x1 = s.x0 := by
      rw [h.breadth_eq, dx] at hdx
      omega
    have hsteps : s.steps = (s.y1 - s.y0).natAbs := Int.natCast_inj.mp hdy.symm
    simp only [if_neg hlong, hcolumn, hsteps, Prod.mk.injEq]
    rw [between_self_iff, ← exists_step_iff, ← exists_and_left]
    simp only [and_left_comm]
    rfl

end Segment

namespace Pixmap

/-! ## The four sides -/

/-- Is the point one of the outermost points of the box between the corner `left`, `top` and the
last pixel before `right` and `bottom`, whichever of the two comes first? -/
def OnRim (left top right bottom x y : ℤ) : Prop :=
  (min left (right - 1) ≤ x ∧ x ≤ max left (right - 1)) ∧
    (min top (bottom - 1) ≤ y ∧ y ≤ max top (bottom - 1)) ∧
    (x = left ∨ x = right - 1 ∨ y = top ∨ y = bottom - 1)

instance (left top right bottom x y : ℤ) : Decidable (OnRim left top right bottom x y) :=
  inferInstanceAs (Decidable (_ ∧ _ ∧ _))

variable {left top right bottom : ℤ}

lemma straight_of_mem_sides {s : Segment} (hs : s ∈ sides left top right bottom) :
    s.Straight := by
  simp only [sides, List.mem_cons, List.not_mem_nil, or_false] at hs
  rcases hs with rfl | rfl | rfl | rfl
  · exact Or.inr rfl
  · exact Or.inl rfl
  · exact Or.inr rfl
  · exact Or.inl rfl

/-- The sides are the rim of the box, corners and all. -/
lemma mem_sides_iff {x y : ℤ} :
    (x, y) ∈ (sides left top right bottom).flatMap Segment.points
      ↔ OnRim left top right bottom x y := by
  rw [List.mem_flatMap]
  have hpoints : ∀ s ∈ sides left top right bottom, (x, y) ∈ s.points ↔
      (min s.x0 s.x1 ≤ x ∧ x ≤ max s.x0 s.x1) ∧ min s.y0 s.y1 ≤ y ∧ y ≤ max s.y0 s.y1 :=
    fun s hs => (straight_of_mem_sides hs).mem_points_iff
  rw [exists_congr fun s => and_congr_right fun hs => hpoints s hs]
  simp only [sides, List.exists_mem_cons_iff, List.not_mem_nil, false_and, exists_false, or_false,
    OnRim]
  omega

/-- What is drawn around a box and what is filled in it have no point in common. -/
lemma not_inBox_of_onRim {x y : ℤ} (hrim : OnRim left top right bottom x y) :
    ¬ InBox (left + 1) (top + 1) (right - 1) (bottom - 1) x y := by
  simp only [OnRim, InBox] at hrim ⊢
  omega

/-- On a box with pixels the rim are its first and last columns and rows. -/
lemma onRim_iff_of_box (hw : left < right) (hh : top < bottom) {x y : ℤ} :
    OnRim left top right bottom x y ↔
      InBox left top right bottom x y ∧ (x = left ∨ x = right - 1 ∨ y = top ∨ y = bottom - 1) := by
  simp only [OnRim, InBox]
  omega

/-- A pixel that is not on the rim and not in the interior is not in the box. -/
lemma inBox_interior_iff (hw : left < right) (hh : top < bottom) {x y : ℤ} :
    InBox (left + 1) (top + 1) (right - 1) (bottom - 1) x y ↔
      InBox left top right bottom x y ∧ ¬ OnRim left top right bottom x y := by
  simp only [OnRim, InBox]
  omega

/-! ## Pictures -/

/-- An ink that is missing leaves a pixel as it was. -/
lemma map_getD_none (old : Option UInt8) : old.map (none : Option UInt8).getD = old := by
  cases old <;> rfl

/-- A rectangle without a pen is its interior. -/
lemma get?_rectangle_none (p : Pixmap) (left top right bottom : ℤ) (brush : Option UInt8)
    (x y : ℤ) :
    (p.rectangle left top right bottom none brush).get? x y =
      if InBox (left + 1) (top + 1) (right - 1) (bottom - 1) x y then
        (p.get? x y).map brush.getD
      else p.get? x y := by
  cases brush with
  | none => rw [map_getD_none, ite_self]; rfl
  | some v => exact p.get?_fillBox _ _ _ _ v x y

/-- On any box the pen is for the rim and the brush for the interior, and whichever is missing
leaves its part as it was. -/
lemma get?_rectangle (p : Pixmap) (pen brush : Option UInt8) (x y : ℤ) :
    (p.rectangle left top right bottom pen brush).get? x y =
      if OnRim left top right bottom x y then (p.get? x y).map pen.getD
      else if InBox (left + 1) (top + 1) (right - 1) (bottom - 1) x y then
        (p.get? x y).map brush.getD
      else p.get? x y := by
  have hinterior := p.get?_rectangle_none left top right bottom brush x y
  cases pen with
  | none =>
      rw [hinterior, map_getD_none]
      split_ifs with hin hrim
      · exact absurd hin (not_inBox_of_onRim hrim)
      · rfl
      · rfl
      · rfl
  | some v =>
      -- the sides are drawn on what the interior has left
      have hsides : p.rectangle left top right bottom (some v) brush
          = (p.rectangle left top right bottom none brush).lines
              (sides left top right bottom) v := rfl
      rw [hsides, get?_lines, hinterior]
      simp only [mem_sides_iff]
      split_ifs with hrim hin
      · exact absurd hin (not_inBox_of_onRim hrim)
      · rfl
      · rfl
      · rfl

/-- **The picture of a rectangle and of a frame.**  On a box with pixels a rectangle changes the
outermost pixels to the color of the pen and those within to the color of the brush; without a pen
or a brush these pixels are what they were, and so are all pixels outside the box.  This is so for a
box of one row or one column, which has nothing within, and wherever the box is on the picture.  A
frame is a rectangle without a brush. -/
theorem rectangle_of_box (p : Pixmap) (hw : left < right) (hh : top < bottom)
    (pen brush : Option UInt8) :
    (p.rectangle left top right bottom pen brush).SameSize p ∧
    (∀ x y, (p.rectangle left top right bottom pen brush).get? x y =
      if InBox left top right bottom x y then
        if x = left ∨ x = right - 1 ∨ y = top ∨ y = bottom - 1 then
          (p.get? x y).map fun old => pen.getD old
        else (p.get? x y).map fun old => brush.getD old
      else p.get? x y) ∧
    ∀ v, p.frameBox left top right bottom v = p.rectangle left top right bottom (some v) none := by
  refine ⟨sameSize_rectangle p _ _ _ _ pen brush, fun x y => ?_, fun v => ?_⟩
  · rw [get?_rectangle]
    by_cases hbox : InBox left top right bottom x y
    · by_cases hedge : x = left ∨ x = right - 1 ∨ y = top ∨ y = bottom - 1
      · rw [if_pos hbox, if_pos hedge, if_pos ((onRim_iff_of_box hw hh).mpr ⟨hbox, hedge⟩)]
      · have hrim : ¬ OnRim left top right bottom x y :=
          fun h => hedge ((onRim_iff_of_box hw hh).mp h).2
        rw [if_pos hbox, if_neg hedge, if_neg hrim,
          if_pos ((inBox_interior_iff hw hh).mpr ⟨hbox, hrim⟩)]
    · rw [if_neg hbox, if_neg fun h => hbox ((onRim_iff_of_box hw hh).mp h).1,
        if_neg fun h => hbox ((inBox_interior_iff hw hh).mp h).1]
  · rw [frameBox, if_neg (by omega)]
    rfl

/-- A box that starts left of the picture has a rim of which one side is not seen. -/
theorem rectangle_of_box_straddling :
    (-1 : ℤ) < 3 ∧ (1 : ℤ) < 4 ∧
      ∃ p : Pixmap, p = (blank 4 4 (by omega) (by omega)).rectangle (-1) 1 3 4 (some 7) (some 9) ∧
        p.get? 0 1 = some 7 ∧ p.get? 0 2 = some 9 ∧ p.get? 1 2 = some 9 ∧ p.get? 2 2 = some 7 ∧
        p.get? 3 2 = some 0 := by
  obtain ⟨-, hpixel, -⟩ := rectangle_of_box (blank 4 4 (by omega) (by omega))
    (show (-1 : ℤ) < 3 by decide) (show (1 : ℤ) < 4 by decide) (some 7) (some 9)
  exact ⟨by decide, by decide, _, rfl, hpixel 0 1, hpixel 0 2, hpixel 1 2, hpixel 2 2, hpixel 3 2⟩

/-! ## Boxes without pixels -/

lemma not_inBox_of_empty (hempty : right ≤ left ∨ bottom ≤ top) (x y : ℤ) :
    ¬ InBox left top right bottom x y := by
  simp only [InBox]
  omega

/-- **What is drawn on a box without pixels.**  To fill it, to frame it or to invert it changes
nothing, and neither does a rectangle without a pen, whatever its brush.  The pen of a rectangle
draws the sides all the same: the rim of the box between the corner `left`, `top` and the corner
before `right` and `bottom` gets its color, and nothing else changes.  So the picture stays as it is
only if the rim has this color already wherever it is on the picture. -/
theorem drawn_of_emptyBox (p : Pixmap) (hempty : right ≤ left ∨ bottom ≤ top) (v : UInt8)
    (brush : Option UInt8) :
    (p.fillBox left top right bottom v = p ∧ p.frameBox left top right bottom v = p ∧
      p.invertBox left top right bottom = p ∧ p.rectangle left top right bottom none brush = p) ∧
    (p.rectangle left top right bottom (some v) brush).SameSize p ∧
    (∀ x y, (p.rectangle left top right bottom (some v) brush).get? x y =
      if OnRim left top right bottom x y then (p.get? x y).map fun _ => v else p.get? x y) ∧
    (p.rectangle left top right bottom (some v) brush = p ↔
      ∀ x y, OnRim left top right bottom x y → p.Contains x y → p.get? x y = some v) := by
  have hinterior : ∀ x y, ¬ InBox (left + 1) (top + 1) (right - 1) (bottom - 1) x y :=
    not_inBox_of_empty (by omega)
  have hsize := sameSize_rectangle p left top right bottom (some v) brush
  have hpixel : ∀ x y, (p.rectangle left top right bottom (some v) brush).get? x y =
      if OnRim left top right bottom x y then (p.get? x y).map fun _ => v else p.get? x y := by
    intro x y
    rw [get?_rectangle, if_neg (hinterior x y)]
    rfl
  refine ⟨⟨?_, ?_, ?_, ?_⟩, hsize, hpixel, ?_, ?_⟩
  · refine ext_get? (sameSize_fillBox p _ _ _ _ v) fun x y => ?_
    rw [get?_fillBox, if_neg (not_inBox_of_empty hempty x y)]
  · rw [frameBox, if_pos hempty]
  · refine ext_get? (sameSize_invertBox p _ _ _ _) fun x y => ?_
    rw [get?_invertBox, if_neg (not_inBox_of_empty hempty x y)]
  · refine ext_get? (sameSize_rectangle p _ _ _ _ none brush) fun x y => ?_
    rw [get?_rectangle_none, if_neg (hinterior x y)]
  · intro hsame x y hrim hin
    have hxy := hpixel x y
    rw [hsame, if_pos hrim, get?_eq_some hin] at hxy
    rw [get?_eq_some hin, hxy, Option.map_some]
  · intro hcolored
    refine ext_get? hsize fun x y => ?_
    rw [hpixel]
    split_ifs with hrim
    · by_cases hin : p.Contains x y
      · rw [hcolored x y hrim hin, Option.map_some]
      · rw [get?_eq_none hin, Option.map_none]
    · rfl

/-- A box of two rows whose left and right edges have changed places. -/
theorem drawn_of_emptyBox_inverted :
    (1 : ℤ) ≤ 2 ∧ ∃ p : Pixmap, p = blank 4 2 (by omega) (by omega) ∧
      p.fillBox 2 0 1 2 7 = p ∧ p.frameBox 2 0 1 2 7 = p ∧ p.invertBox 2 0 1 2 = p ∧
      p.rectangle 2 0 1 2 none (some 9) = p ∧
      (p.rectangle 2 0 1 2 (some 7) (some 9)).get? 0 0 = some 7 ∧
      (p.rectangle 2 0 1 2 (some 7) (some 9)).get? 1 1 = some 7 ∧
      (p.rectangle 2 0 1 2 (some 7) (some 9)).get? 3 0 = some 0 := by
  obtain ⟨⟨hfill, hframe, hinvert, hhollow⟩, -, hpixel, -⟩ := drawn_of_emptyBox
    (blank 4 2 (by omega) (by omega)) (show (1 : ℤ) ≤ 2 ∨ (2 : ℤ) ≤ 0 from Or.inl (by decide)) 7
    (some 9)
  exact ⟨by decide, _, rfl, hfill, hframe, hinvert, hhollow, hpixel 0 0, hpixel 1 1, hpixel 3 0⟩

/-- A box of no column and no row is marked by the pen, although it has no pixel. -/
theorem rectangle_marks_emptyBox :
    (1 : ℤ) ≤ 1 ∧ (blank 2 2 Nat.zero_lt_two Nat.zero_lt_two).get? 1 1 = some 0 ∧
      ((blank 2 2 Nat.zero_lt_two Nat.zero_lt_two).rectangle 1 1 1 1 (some 7) none).get? 1 1
        = some 7 ∧
      (blank 2 2 Nat.zero_lt_two Nat.zero_lt_two).rectangle 1 1 1 1 (some 7) none
        ≠ blank 2 2 Nat.zero_lt_two Nat.zero_lt_two := by
  have hblank : (blank 2 2 Nat.zero_lt_two Nat.zero_lt_two).get? 1 1 = some 0 := rfl
  have hmarked : ((blank 2 2 Nat.zero_lt_two Nat.zero_lt_two).rectangle 1 1 1 1 (some 7)
      none).get? 1 1 = some 7 := by
    rw [get?_rectangle, if_pos (by decide), hblank]
    rfl
  refine ⟨le_refl 1, hblank, hmarked, fun hsame => ?_⟩
  rw [hsame, hblank] at hmarked
  exact absurd hmarked (by decide)

end Pixmap

end Paintbox

import Mathlib
import Paintbox.Proofs.Oval.Outline

/-!
# The four ends of an oval

The walk starts at the top of the oval.  It stops with the row of the center, at whatever column it
has come to, and no test makes sure that this is the end of the box.  Mostly it is.  The exception
are ovals so flat that the walk is down at the row of the center while it is not steep yet and there
are columns left: the steep loop has this one row to visit, and those columns are not drawn.

* `Oval.Pointed` — ovals as flat as that, told by their radii alone.
* `Oval.FlatHead.short_flatStep` — a flat step to the row of the center comes from a column where
  the ellipse is still higher than half a pixel.
* `Oval.SteepHead.beyond_steepStep` — after a steep step there is nothing of the ellipse any more
  right of the walker.
* `Oval.Run.center_row` — **where the arc meets the row of the center**.
* `Pixmap.oval_extremes` — the ends that are drawn; `Pixmap.oval_misses_sides` — those that are not.
-/

namespace Paintbox

namespace Oval

variable {o : Oval} {w : Walker} {flat steep : List Walker} {mid last : Walker}

/-! ## How high the ellipse is at its end -/

/-- The oval is so flat that it ends in a point: one column before the end of the box it is at most
half a pixel above the row of the center. -/
def Pointed (o : Oval) : Prop := 4 * o.ry2 * (2 * o.rx - 1) ≤ o.rx2

instance (o : Oval) : Decidable o.Pointed :=
  inferInstanceAs (Decidable (4 * o.ry2 * (2 * o.rx - 1) ≤ o.rx2))

lemma pointed_iff_form : o.Pointed ↔ 0 ≤ o.form (2 * (o.rx - 1)) 1 := by
  have hform : o.form (2 * (o.rx - 1)) 1 = o.rx2 - 4 * o.ry2 * (2 * o.rx - 1) := by
    simp only [form, rx2]
    ring
  rw [Pointed, hform, sub_nonneg]

/-- Nearer to the center the ellipse is higher. -/
lemma form_mono {x x' : ℤ} (hx : 0 ≤ x) (hxx' : x ≤ x') (v : ℤ) :
    o.form (2 * x) v ≤ o.form (2 * x') v := by
  have hsq : 2 * x * (2 * x) ≤ 2 * x' * (2 * x') := mul_self_le_mul_self (by omega) (by omega)
  have hmul := mul_le_mul_of_nonneg_left hsq o.ry2_nonneg
  simp only [form]
  omega

/-- An oval that is steep before the row of the center is not pointed. -/
lemma SteepHead.not_pointed (hrx : 1 ≤ o.rx) (hry : 1 ≤ o.ry) (hw : o.SteepHead w) (hy : 1 ≤ w.y) :
    ¬ o.Pointed := by
  have hsteep := hw.steep
  rw [hw.px, hw.py] at hsteep
  have hlow : o.rx2 * 1 ≤ o.rx2 * w.y := mul_le_mul_of_nonneg_left hy o.rx2_nonneg
  have hhigh : o.ry2 * w.x ≤ o.ry2 * o.rx := mul_le_mul_of_nonneg_left hw.x_le o.ry2_nonneg
  have hslack : 1 * 1 ≤ o.ry2 * (7 * o.rx - 4) :=
    mul_le_mul (ry2_pos hry) (by omega) zero_le_one o.ry2_nonneg
  rw [Pointed]
  linarith

/-! ## Down at the row of the center -/

/-- A flat step that comes to the row of the center leaves a column behind where the ellipse was
higher than half a pixel. -/
lemma FlatHead.short_flatStep (hrx : 1 ≤ o.rx) (hw : o.FlatHead w) (hflat : w.px < w.py)
    (hzero : (o.flatStep w).y = 0) : o.form (2 * ((o.flatStep w).x - 1)) 1 < 0 := by
  have hy := (hw.room hrx hflat).2
  have hinside := hw.inside hflat
  by_cases hneg : w.p < 0
  · rw [flatStep_of_neg hneg] at hzero
    exact absurd hzero hy.ne'
  · rw [flatStep_of_nonneg hneg] at hzero ⊢
    have hone : w.y = 1 := sub_eq_zero.mp hzero
    rw [hone] at hinside
    simpa using hinside

/-- If the flat loop is left in the row of the center, then at the first column where the ellipse is
not higher than half a pixel. -/
lemma Run.short (h : o.Run flat mid steep last) (hrx : 1 ≤ o.rx) (hry : 1 ≤ o.ry)
    (hzero : mid.y = 0) : o.form (2 * (mid.x - 1)) 1 < 0 := by
  obtain ⟨-, ⟨-, hshort⟩, -⟩ := h.flatLoop.invariant
    (I := fun w => o.FlatHead w ∧ (w.y = 0 → o.form (2 * (w.x - 1)) 1 < 0))
    (fun w hw hflat => ⟨hw.1.step hrx hflat, hw.1.short_flatStep hrx hflat⟩)
    ⟨flatHead_top hrx hry, fun htop => absurd htop (by show ¬ o.ry = 0; omega)⟩
  exact hshort hzero

/-! ## Down the steep part -/

/-- Half a pixel right of the walker everything is outside the ellipse, by one whole unit. -/
def Beyond (o : Oval) (w : Walker) : Prop := 4 ≤ o.form (2 * w.x + 1) (2 * w.y)

/-- A step straight down is taken where this is so. -/
lemma SteepHead.beyond_of_pos (hw : o.SteepHead w) (hpos : 0 < w.p) :
    o.Beyond (o.steepStep w) := by
  have hform := hw.p_pos_iff.mp hpos
  have hy : 2 * (w.y - 1) = 2 * w.y - 2 := by ring
  rw [Beyond, steepStep_of_pos hpos]
  rwa [hy]

/-- The first steep step goes beyond the ellipse, also one to the right, because the walker was not
below the ellipse. -/
lemma FlatHead.beyond_steepStep (hrx : 1 ≤ o.rx) (hry : 1 ≤ o.ry) (hw : o.FlatHead w)
    (hleft : ¬ w.px < w.py) : o.Beyond (o.steepStep (o.turn w)) := by
  by_cases hpos : 0 < (o.turn w).p
  · exact (hw.turn hleft).beyond_of_pos hpos
  · have hform : o.form (2 * (w.x + 1) + 1) (2 * (w.y - 1))
        = o.form (2 * w.x) (2 * w.y + 1) + 6 * (w.px - w.py) + 9 * o.ry2 + 3 * o.rx2 := by
      rw [hw.px, hw.py]
      simp only [form]
      ring
    have houtside := hw.outside
    have hrx2 := rx2_pos hrx
    have hry2 := ry2_pos hry
    rw [steepStep_of_nonpos hpos]
    show 4 ≤ o.form (2 * (w.x + 1) + 1) (2 * (w.y - 1))
    omega

/-- Once beyond the ellipse the walk stays there. -/
lemma SteepHead.beyond_steepStep (hw : o.SteepHead w) (hbeyond : o.Beyond w) :
    o.Beyond (o.steepStep w) := by
  by_cases hpos : 0 < w.p
  · exact hw.beyond_of_pos hpos
  · have hform : o.form (2 * (w.x + 1) + 1) (2 * (w.y - 1))
        = o.form (2 * w.x + 1) (2 * w.y) + 4 * (w.px - w.py) + 8 * o.ry2 + 4 * o.rx2 := by
      rw [hw.px, hw.py]
      simp only [form]
      ring
    have hsteep := hw.steep
    have hrx2 := o.rx2_nonneg
    have hry2 := o.ry2_nonneg
    rw [Beyond] at hbeyond
    rw [Beyond, steepStep_of_nonpos hpos, hform]
    omega

/-- In the row of the center this is the end of the box. -/
lemma Beyond.x_eq (hw : o.Placed w) (hbeyond : o.Beyond w) (hzero : w.y = 0) :
    w.x = o.rx := by
  refine le_antisymm hw.x_le ?_
  by_contra hlt
  have hx := hw.x_nonneg
  have hsq : (2 * w.x + 1) * (2 * w.x + 1) ≤ 2 * o.rx * (2 * o.rx) :=
    mul_self_le_mul_self (by omega) (by omega)
  have hmul := mul_le_mul_of_nonneg_left hsq o.ry2_nonneg
  have hform : o.form (2 * w.x + 1) 0
      = o.ry2 * ((2 * w.x + 1) * (2 * w.x + 1)) - 4 * o.rx2 * o.ry2 := by
    simp only [form]
    ring
  have hend : o.ry2 * (2 * o.rx * (2 * o.rx)) = 4 * o.rx2 * o.ry2 := by
    simp only [rx2]
    ring
  rw [Beyond, hzero, mul_zero, hform] at hbeyond
  omega

/-! ## The row of the center -/

/-- The arc meets the row of the center at one offset: at the end of the box, or else, if the walk
is there before it gets steep, where the flat loop is left. -/
lemma Run.center_row (h : o.Run flat mid steep last) (hrx : 1 ≤ o.rx) (hry : 1 ≤ o.ry) {x : ℤ}
    (hx : (x, 0) ∈ o.arc) : x = if mid.y = 0 then mid.x else o.rx := by
  obtain ⟨hflat, hmid, hleft⟩ := h.flatHead hrx hry
  rw [h.arc] at hx
  obtain ⟨w, hw, hoffset⟩ := List.mem_map.mp hx
  obtain ⟨rfl, hzero⟩ := Prod.mk.inj hoffset
  rcases List.mem_append.mp hw with hw | hw
  · obtain ⟨hhead, hguard⟩ := hflat w hw
    exact absurd hzero (hhead.room hrx hguard).2.ne'
  · -- the first steep head is where the flat loop was left, the others are beyond the ellipse
    obtain ⟨rest, rfl, hrest⟩ := h.steepLoop.exists_rest hmid.y_nonneg
    rcases List.mem_cons.mp hw with rfl | hw
    · exact (if_pos hzero).symm
    · have hturn := hmid.turn hleft
      obtain ⟨hheads, -⟩ := hrest.invariant (I := fun w => o.SteepHead w ∧ o.Beyond w)
        (fun w hw _ => ⟨hw.1.step hrx hry, hw.1.beyond_steepStep hw.2⟩)
        ⟨hturn.step hrx hry, hmid.beyond_steepStep hrx hry hleft⟩
      obtain ⟨⟨hhead, hbeyond⟩, -⟩ := hheads w hw
      have hlater : mid.y ≠ 0 := by
        intro hmidzero
        have hbelow : ¬ 0 ≤ (o.steepStep (o.turn mid)).y := by
          rw [y_steepStep]
          show ¬ 0 ≤ mid.y - 1
          omega
        rw [hrest.eq_nil hbelow] at hw
        cases hw
      rw [if_neg hlater]
      exact hbeyond.x_eq hhead.toPlaced hzero

/-- **The arc comes to the end of the box, unless the oval is pointed.** -/
lemma Run.end_mem_arc_iff (h : o.Run flat mid steep last) (hrx : 1 ≤ o.rx) (hry : 1 ≤ o.ry) :
    (o.rx, 0) ∈ o.arc ↔ ¬ o.Pointed := by
  obtain ⟨-, hmid, hleft⟩ := h.flatHead hrx hry
  obtain ⟨x, hx⟩ := h.exists_mem_arc (le_refl 0) (by omega)
  have hcenter := h.center_row hrx hry hx
  by_cases hzero : mid.y = 0
  · have hend : (o.rx, 0) ∈ o.arc ↔ mid.x = o.rx := by
      rw [if_pos hzero] at hcenter
      constructor
      · intro hmem
        rw [h.center_row hrx hry hmem, if_pos hzero]
      · intro heq
        rwa [← heq, ← hcenter]
    rw [hend, pointed_iff_form, not_le]
    constructor
    · intro heq
      rw [← heq]
      exact h.short hrx hry hzero
    · intro hhigh
      have houtside := hmid.outside
      rw [hzero] at houtside
      by_contra hne
      have hx := lt_of_le_of_ne hmid.x_le hne
      have hmono := o.form_mono hmid.x_nonneg (Int.le_sub_one_of_lt hx) 1
      exact absurd (houtside.trans hmono) (not_le.mpr hhigh)
  · rw [if_neg hzero] at hcenter
    have hy := hmid.y_nonneg
    refine iff_of_true (hcenter ▸ hx) ((hmid.turn hleft).not_pointed hrx hry ?_)
    show 1 ≤ mid.y
    omega

/-! ## The ends -/

/-- The top and the bottom of the box are on the oval. -/
lemma top_mem_points (hrx : 1 ≤ o.rx) (hry : 1 ≤ o.ry) {y : ℤ}
    (hy : y = o.cy - o.ry ∨ y = o.cy + o.ry) : (o.cx, y) ∈ o.points := by
  obtain ⟨flat, mid, steep, last, h⟩ := exists_run hry
  refine (mem_points_iff hrx hry).mpr ⟨_, h.top_mem_arc hry, ?_, hy.symm⟩
  exact Or.inl (add_zero _).symm

/-- The left and the right side of the box are on it if it is not pointed. -/
lemma side_mem_points_iff (hrx : 1 ≤ o.rx) (hry : 1 ≤ o.ry) {x : ℤ}
    (hx : x = o.cx - o.rx ∨ x = o.cx + o.rx) : (x, o.cy) ∈ o.points ↔ ¬ o.Pointed := by
  obtain ⟨flat, mid, steep, last, h⟩ := exists_run hry
  rw [mem_points_iff hrx hry, ← h.end_mem_arc_iff hrx hry]
  constructor
  · rintro ⟨q, hq, hqx, hqy⟩
    obtain ⟨hbox, -⟩ := h.mem_arc hrx hry hq
    have hend : q = (o.rx, 0) := Prod.ext (by show q.1 = o.rx; omega) (by show q.2 = 0; omega)
    rwa [← hend]
  · intro hend
    exact ⟨_, hend, hx.symm, Or.inl (add_zero _).symm⟩

end Oval

/-- **An oval touches its box at the top and at the bottom, and at the sides unless it is
pointed.**  On a picture that contains the box its topmost and its lowest pixel have the color.  So
have the outermost ones on the left and on the right if `4 * ry² * (2 * rx - 1)` exceeds `rx²`.  If
not, the walk stops before it comes to them, and they are what they were. -/
theorem Pixmap.oval_extremes (p : Pixmap) (v : UInt8) {left top right bottom : ℤ} {o : Oval}
    (ho : Oval.inscribed left top right bottom = o) (hrx : 1 ≤ o.rx) (hry : 1 ≤ o.ry)
    (hbox : ∀ x y, left ≤ x → x ≤ right → top ≤ y → y ≤ bottom → p.Contains x y) :
    (∀ y, y = o.cy - o.ry ∨ y = o.cy + o.ry → (p.oval o v).get? o.cx y = some v) ∧
      ∀ x, x = o.cx - o.rx ∨ x = o.cx + o.rx →
        (p.oval o v).get? x o.cy = if o.Pointed then p.get? x o.cy else some v := by
  have hhalves : (left ≤ o.cx - o.rx ∧ o.cx + o.rx ≤ right) ∧
      top ≤ o.cy - o.ry ∧ o.cy + o.ry ≤ bottom := by
    subst ho
    exact ⟨Oval.half_sub_half hrx, Oval.half_sub_half hry⟩
  have hpixel : ∀ x y, (o.cx - o.rx ≤ x ∧ x ≤ o.cx + o.rx) → (o.cy - o.ry ≤ y ∧ y ≤ o.cy + o.ry) →
      ((p.get? x y).map fun _ => v) = some v := by
    intro x y hx hy
    rw [Pixmap.get?_eq_some (hbox x y (by omega) (by omega) (by omega) (by omega))]
    rfl
  constructor
  · intro y hy
    rw [p.get?_oval, if_pos (Oval.top_mem_points hrx hry hy)]
    exact hpixel _ _ (by omega) (by omega)
  · intro x hx
    rw [p.get?_oval]
    by_cases hpointed : o.Pointed
    · rw [if_pos hpointed, if_neg]
      exact fun hmem => (Oval.side_mem_points_iff hrx hry hx).mp hmem hpointed
    · rw [if_neg hpointed, if_pos ((Oval.side_mem_points_iff hrx hry hx).mpr hpointed)]
      exact hpixel _ _ (by omega) (by omega)

/-- An oval of twice its height in width is not pointed. -/
theorem Pixmap.oval_extremes_round :
    Oval.inscribed 0 0 20 10 = ⟨10, 5, 10, 5⟩ ∧
      ((Pixmap.blank 24 12 (by omega) (by omega)).oval ⟨10, 5, 10, 5⟩ 1).get? 10 0 = some 1 ∧
      ((Pixmap.blank 24 12 (by omega) (by omega)).oval ⟨10, 5, 10, 5⟩ 1).get? 10 10 = some 1 ∧
      ((Pixmap.blank 24 12 (by omega) (by omega)).oval ⟨10, 5, 10, 5⟩ 1).get? 0 5 = some 1 ∧
      ((Pixmap.blank 24 12 (by omega) (by omega)).oval ⟨10, 5, 10, 5⟩ 1).get? 20 5 = some 1 := by
  have hbox : Oval.inscribed 0 0 20 10 = ⟨10, 5, 10, 5⟩ := by decide
  have hround : ¬ (⟨10, 5, 10, 5⟩ : Oval).Pointed := by decide
  obtain ⟨hends, hsides⟩ := Pixmap.oval_extremes (Pixmap.blank 24 12 (by omega) (by omega)) 1 hbox
    (by decide) (by decide) fun x y hx hx' hy hy' =>
      ⟨hx, lt_of_le_of_lt hx' (by decide), hy, lt_of_le_of_lt hy' (by decide)⟩
  have hleft := hsides 0 (Or.inl rfl)
  have hright := hsides 20 (Or.inr rfl)
  rw [if_neg hround] at hleft hright
  exact ⟨hbox, hends 0 (Or.inl rfl), hends 10 (Or.inr rfl), hleft, hright⟩

/-- An oval one row high above its center and eight columns wide to each side is pointed.  Its box
fits on a picture of 17 by 3 pixels, where it leaves out the outermost ones on both sides. -/
theorem Pixmap.oval_misses_sides :
    Oval.inscribed 0 0 16 2 = ⟨8, 1, 8, 1⟩ ∧
      (∀ x y, 0 ≤ x → x ≤ 16 → 0 ≤ y → y ≤ 2 →
        (Pixmap.blank 17 3 (by omega) (by omega)).Contains x y) ∧
      ((Pixmap.blank 17 3 (by omega) (by omega)).oval ⟨8, 1, 8, 1⟩ 1).get? (8 - 8) 1 = some 0 ∧
      ((Pixmap.blank 17 3 (by omega) (by omega)).oval ⟨8, 1, 8, 1⟩ 1).get? (8 + 8) 1 = some 0 := by
  have hpointed : (⟨8, 1, 8, 1⟩ : Oval).Pointed := by decide
  have hmissed : ∀ x : ℤ, x = 8 - 8 ∨ x = 8 + 8 → (x, 1) ∉ (⟨8, 1, 8, 1⟩ : Oval).points :=
    fun x hx hmem => (Oval.side_mem_points_iff (by decide) (by decide) hx).mp hmem hpointed
  refine ⟨by decide, fun x y hx hx' hy hy' => ?_, ?_, ?_⟩
  · exact ⟨hx, lt_of_le_of_lt hx' (by decide), hy, lt_of_le_of_lt hy' (by decide)⟩
  · rw [Pixmap.get?_oval, if_neg (hmissed _ (Or.inl rfl))]
    rfl
  · rw [Pixmap.get?_oval, if_neg (hmissed _ (Or.inr rfl))]
    rfl

end Paintbox

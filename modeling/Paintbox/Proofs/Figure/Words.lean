import Paintbox.Proofs.Oval.Walk
import Paintbox.Proofs.Segment.Places
import Paintbox.Proofs.Words

/-!
# Figures in machine words

The walk along a segment computes in words of 32 bits, the walk along an oval in words of 64 bits.
Neither looks whether a number fits.  Here both are carried out step by step in such words, and stop
at a number that does not.  For coordinates of 16 bits they never stop.  The error of a segment
stays between twice the two extents.  The numbers of an oval are bounded by the place of the walker,
because its decision value is the form of the ellipse at a place half a pixel away, and the walker
stays in its box.  The largest of them is a part of the change over, the square of an odd number of
16 bits times the squared vertical radius: the bound on it leaves one bit of the word.

* `Segment.startInWords`, `Segment.advanceInWords` — a walk along a segment that stops.
* `Oval.inscribedInWords`, `Oval.topInWords`, `Oval.flatStepInWords`, `Oval.turnInWords`,
  `Oval.steepStepInWords`, `Oval.mirrorInWords` — **a walk along an oval that stops**.
* `Segment.InBox`, `Segment.mem_box` — a segment lies in the box of its endpoints.
* `Segment.ErrBounded`, `Walker.FitsWords` — what keeps a step within its words.
* `Segment.exists_walkInWords`, `Oval.Run.inWords` — the walks do not stop.
* `figures_in_words` — **no figure leaves its words**.
-/

namespace Paintbox

/-! ## A segment that stops -/

namespace Segment

/-- The distance of two coordinates: a difference, and then the difference without its sign. -/
def extentInWords (a b : ℤ) : Option ℤ := do word32? (← word32? (b - a)).natAbs

/-- Set the head off, with both extents and the first error. -/
def startInWords (s : Segment) : Option Head := do
  let dx ← extentInWords s.x0 s.x1
  let dy ← extentInWords s.y0 s.y1
  return ⟨s.x0, s.y0, ← word32? (dx - dy)⟩

/-- One step.  The error is doubled for both tests first, and changed for one axis after the
other. -/
def advanceInWords (s : Segment) (h : Head) : Option Head := do
  let twice ← word32? (2 * h.err)
  let back ← word32? (-s.dy)
  let err ← if back < twice then word32? (h.err - s.dy) else some h.err
  let x ← if back < twice then word32? (h.x + s.stepX) else some h.x
  let err' ← if twice < s.dx then word32? (err + s.dx) else some err
  let y ← if twice < s.dx then word32? (h.y + s.stepY) else some h.y
  return ⟨x, y, err'⟩

end Segment

/-! ## An oval that stops -/

namespace Oval

/-- Center and radii, in 32 bits. -/
def inscribedInWords (left top right bottom : ℤ) : Option Oval := do
  let cx ← word32? (left + right)
  let cy ← word32? (top + bottom)
  let rx ← word32? (right - left)
  let ry ← word32? (bottom - top)
  return ⟨cx.tdiv 2, cy.tdiv 2, rx.tdiv 2, ry.tdiv 2⟩

/-- The squared radii and the top of the arc. -/
def topInWords (o : Oval) : Option Walker := do
  let rx2 ← word64? (o.rx * o.rx)
  let ry2 ← word64? (o.ry * o.ry)
  let twice ← word64? (2 * rx2)
  let py ← word64? (twice * o.ry)
  let row ← word64? (rx2 * o.ry)
  let p ← word64? (ry2 - row)
  return ⟨0, o.ry, 0, py, ← word64? (p + rx2.tdiv 4)⟩

def flatStepInWords (o : Oval) (w : Walker) : Option Walker := do
  let x ← word64? (w.x + 1)
  let twice ← word64? (2 * o.ry2)
  let px ← word64? (w.px + twice)
  let change ← word64? (o.ry2 + px)
  if w.p < 0 then
    return ⟨x, w.y, px, w.py, ← word64? (w.p + change)⟩
  else
    let y ← word64? (w.y - 1)
    let twice ← word64? (2 * o.rx2)
    let py ← word64? (w.py - twice)
    let change ← word64? (change - py)
    return ⟨x, y, px, py, ← word64? (w.p + change)⟩

/-- The change over, product by product. -/
def turnInWords (o : Oval) (w : Walker) : Option Walker := do
  let twice ← word64? (2 * w.x)
  let odd ← word64? (twice + 1)
  let column ← word64? (o.ry2 * odd)
  let column ← word64? (column * odd)
  let below ← word64? (w.y - 1)
  let row ← word64? (o.rx2 * below)
  let row ← word64? (row * below)
  let sum ← word64? (column.tdiv 4 + row)
  let whole ← word64? (o.rx2 * o.ry2)
  return { w with p := ← word64? (sum - whole) }

def steepStepInWords (o : Oval) (w : Walker) : Option Walker := do
  let y ← word64? (w.y - 1)
  let twice ← word64? (2 * o.rx2)
  let py ← word64? (w.py - twice)
  let change ← word64? (o.rx2 - py)
  if w.p > 0 then
    return ⟨w.x, y, w.px, py, ← word64? (w.p + change)⟩
  else
    let x ← word64? (w.x + 1)
    let twice ← word64? (2 * o.ry2)
    let px ← word64? (w.px + twice)
    let change ← word64? (change + px)
    return ⟨x, y, px, py, ← word64? (w.p + change)⟩

/-- The four points of an offset, found in 64 bits.  A point that no words of 32 bits have is left
out. -/
def mirrorInWords (o : Oval) (x y : ℤ) : Option (List (ℤ × ℤ)) := do
  let right ← word64? (o.cx + x)
  let left ← word64? (o.cx - x)
  let below ← word64? (o.cy + y)
  let above ← word64? (o.cy - y)
  return [(right, below), (left, below), (right, above), (left, above)].filterMap fun q => do
    return (← word32? q.1, ← word32? q.2)

end Oval

/-! ## Segments -/

namespace Segment

variable {s : Segment} {h : Head}

/-- Does the point lie in the box of the endpoints? -/
def InBox (s : Segment) (x y : ℤ) : Prop :=
  (min s.x0 s.x1 ≤ x ∧ x ≤ max s.x0 s.x1) ∧ min s.y0 s.y1 ≤ y ∧ y ≤ max s.y0 s.y1

/-- Up to the extents along each axis, steps from the first endpoint stay in the box. -/
lemma inBox_after {a b : ℤ} (ha : 0 ≤ a ∧ a ≤ s.dx) (hb : 0 ≤ b ∧ b ≤ s.dy) :
    s.InBox (s.x0 + a * s.stepX) (s.y0 + b * s.stepY) := by
  rw [dx] at ha
  rw [dy] at hb
  rw [InBox, stepX, stepY]
  constructor
  · split_ifs <;> omega
  · split_ifs <;> omega

/-- The rounded ideal line does not leave the shorter axis. -/
lemma nearest_ideal_mem {k : ℕ} (hk : k ≤ s.steps) :
    0 ≤ nearest (s.ideal k) ∧ nearest (s.ideal k) ≤ s.breadth := by
  have hmono : ∀ i j : ℕ, i ≤ j → nearest (s.ideal i) ≤ nearest (s.ideal j) := by
    intro i j hij
    rw [nearest, nearest, ideal, ideal]
    gcongr
  constructor
  · rw [← nearest_ideal_zero (s := s)]
    exact hmono 0 k (Nat.zero_le k)
  · rw [← nearest_ideal_steps]
    exact hmono k s.steps hk

/-- **A segment lies in the box of its endpoints.** -/
lemma mem_box {x y : ℤ} (hmem : (x, y) ∈ s.points) : s.InBox x y := by
  obtain ⟨-, -, -, -, -, hplaces⟩ := s.exists_loop
  rw [hplaces, List.mem_map] at hmem
  obtain ⟨k, hk, hplace⟩ := hmem
  have hk := Nat.lt_succ_iff.mp (List.mem_range.mp hk)
  obtain ⟨hfrom, hto⟩ := nearest_ideal_mem hk
  rw [place] at hplace
  rcases s.extents with ⟨hlong, hdx, hdy⟩ | ⟨hlong, hdx, hdy⟩
  · rw [if_pos hlong] at hplace
    obtain ⟨rfl, rfl⟩ := Prod.mk.inj hplace
    exact inBox_after (by omega) (by omega)
  · rw [if_neg hlong] at hplace
    obtain ⟨rfl, rfl⟩ := Prod.mk.inj hplace
    exact inBox_after (by omega) (by omega)

/-- The error stays between twice the extents. -/
def ErrBounded (s : Segment) (h : Head) : Prop := -(2 * s.dy) ≤ h.err ∧ h.err ≤ 2 * s.dx

lemma errBounded_start (s : Segment) : s.ErrBounded s.start := by
  simp only [ErrBounded, start, dx, dy]
  omega

/-- An extent is taken off the error only if it is large, and added only if it is small. -/
lemma ErrBounded.advance (hh : s.ErrBounded h) : s.ErrBounded (s.advance h) := by
  rw [ErrBounded, dx, dy] at *
  simp only [Segment.advance, dx, dy]
  split_ifs <;> omega

/-- Both endpoints are told in 16 bits. -/
structure IsShort (s : Segment) : Prop where
  x0 : Short s.x0
  y0 : Short s.y0
  x1 : Short s.x1
  y1 : Short s.y1

lemma IsShort.extents (hs : s.IsShort) : (0 ≤ s.dx ∧ s.dx ≤ 0xFFFF) ∧ 0 ≤ s.dy ∧ s.dy ≤ 0xFFFF := by
  obtain ⟨⟨hx0, hx0'⟩, ⟨hy0, hy0'⟩, ⟨hx1, hx1'⟩, hy1, hy1'⟩ := hs
  rw [dx, dy]
  omega

lemma extentInWords_eq {a b : ℤ} (ha : Short a) (hb : Short b) :
    extentInWords a b = some ((b - a).natAbs : ℤ) := by
  obtain ⟨ha, ha'⟩ := ha
  obtain ⟨hb, hb'⟩ := hb
  rw [extentInWords, word32?_eq (by omega) (by omega)]
  exact word32?_eq (by omega) (by omega)

lemma startInWords_eq (hs : s.IsShort) : s.startInWords = some s.start := by
  obtain ⟨hdx, hdy⟩ := hs.extents
  rw [startInWords, extentInWords_eq hs.x0 hs.x1, extentInWords_eq hs.y0 hs.y1, ← dx, ← dy]
  simp only [bind, Option.bind]
  rw [word32?_eq (by omega) (by omega)]
  rfl

/-- A step from a place in the box does not stop. -/
lemma advanceInWords_eq (hs : s.IsShort) (hbox : s.InBox h.x h.y) (herr : s.ErrBounded h) :
    s.advanceInWords h = some (s.advance h) := by
  obtain ⟨hdx, hdy⟩ := hs.extents
  obtain ⟨⟨hx0, hx0'⟩, ⟨hy0, hy0'⟩, ⟨hx1, hx1'⟩, hy1, hy1'⟩ := hs
  obtain ⟨⟨hx, hx'⟩, hy, hy'⟩ := hbox
  obtain ⟨hlow, hhigh⟩ := herr
  have hstepX : -1 ≤ s.stepX ∧ s.stepX ≤ 1 := by
    rw [stepX]
    split_ifs <;> decide
  have hstepY : -1 ≤ s.stepY ∧ s.stepY ≤ 1 := by
    rw [stepY]
    split_ifs <;> decide
  rw [advanceInWords, advance, word32?_eq (by omega) (by omega), word32?_eq (by omega) (by omega)]
  simp only [bind, Option.bind]
  split_ifs with hgoX hgoY hgoY
  · simp (disch := omega) only [word32?_eq]
    rfl
  · simp (disch := omega) only [word32?_eq]
    simp
  · simp (disch := omega) only [word32?_eq]
    simp
  · simp

/-- **The walk along a segment does not stop**, and it stays in the box of the endpoints. -/
lemma exists_walkInWords (hs : s.IsShort) :
    s.startInWords = some s.start ∧
      ∃ visited last, Loop (fun h => ¬ s.Arrived h) s.advance s.start visited last ∧
        s.points = (visited ++ [last]).map (fun h => (h.x, h.y)) ∧
        (∀ h ∈ visited ++ [last], s.InBox h.x h.y) ∧
        ∀ h ∈ visited, s.advanceInWords h = some (s.advance h) := by
  obtain ⟨visited, last, hloop, -, hpoints, -⟩ := s.exists_loop
  have hbox : ∀ h ∈ visited ++ [last], s.InBox h.x h.y := by
    intro h hh
    apply mem_box
    rw [hpoints]
    exact List.mem_map_of_mem hh
  obtain ⟨herr, -⟩ := hloop.invariant (fun _ hh _ => ErrBounded.advance hh) s.errBounded_start
  refine ⟨startInWords_eq hs, visited, last, hloop, hpoints, hbox, fun h hh => ?_⟩
  exact advanceInWords_eq hs (hbox h (List.mem_append_left _ hh)) (herr h hh).1

end Segment

/-! ## Ovals -/

namespace Oval

variable {o : Oval} {w : Walker}

/-- The center is told in 16 bits, and the radii, which are positive, in 15. -/
structure FitsWords (o : Oval) : Prop where
  cx : Short o.cx
  cy : Short o.cy
  rx : 1 ≤ o.rx ∧ o.rx ≤ 0x7FFF
  ry : 1 ≤ o.ry ∧ o.ry ≤ 0x7FFF

/-- What is needed of a walker: bounds on its offset, on the gradients that belong to it, and on a
decision value, which is a quarter of the form. -/
structure Walker.FitsWords (w : Walker) : Prop where
  x : 0 ≤ w.x ∧ w.x ≤ 0x7FFF
  y : 0 ≤ w.y ∧ w.y ≤ 0x7FFF
  px : 0 ≤ w.px ∧ w.px ≤ 0x400000000000
  py : 0 ≤ w.py ∧ w.py ≤ 0x400000000000
  p : -0x1000000000000000 ≤ w.p ∧ w.p ≤ 0x2000000000000000

lemma FitsWords.rx2 (ho : o.FitsWords) : 0 ≤ o.rx2 ∧ o.rx2 ≤ 0x40000000 := by
  have hsq := mul_bounds (a := o.rx) (b := o.rx) (B := 0x7FFF) (A := 0x7FFF)
    ⟨by linarith [ho.rx.1], ho.rx.2⟩ ⟨by linarith [ho.rx.1], ho.rx.2⟩
  rw [Oval.rx2]
  omega

lemma FitsWords.ry2 (ho : o.FitsWords) : 0 ≤ o.ry2 ∧ o.ry2 ≤ 0x40000000 := by
  have hsq := mul_bounds (a := o.ry) (b := o.ry) (B := 0x7FFF) (A := 0x7FFF)
    ⟨by linarith [ho.ry.1], ho.ry.2⟩ ⟨by linarith [ho.ry.1], ho.ry.2⟩
  rw [Oval.ry2]
  omega

lemma inscribedInWords_eq {left top right bottom : ℤ} (hl : Short left) (ht : Short top)
    (hr : Short right) (hb : Short bottom) :
    inscribedInWords left top right bottom = some (inscribed left top right bottom) := by
  obtain ⟨hl, hl'⟩ := hl
  obtain ⟨ht, ht'⟩ := ht
  obtain ⟨hr, hr'⟩ := hr
  obtain ⟨hb, hb'⟩ := hb
  simp (disch := omega) only [inscribedInWords, word32?_eq]
  rfl

/-- Half of a sum or of a difference of numbers of 16 bits. -/
lemma tdiv_two_bounds {i : ℤ} (hlow : -0x10000 ≤ i) (hhigh : i ≤ 0xFFFF) :
    -0x8000 ≤ i.tdiv 2 ∧ i.tdiv 2 ≤ 0x7FFF := by
  have hsign : Int.sign 2 = 1 := rfl
  rw [Int.tdiv_eq_ediv, hsign]
  split_ifs <;> omega

lemma fitsWords_inscribed {left top right bottom : ℤ} (hl : Short left) (ht : Short top)
    (hr : Short right) (hb : Short bottom) (hround : ¬ (inscribed left top right bottom).Degenerate) :
    (inscribed left top right bottom).FitsWords := by
  obtain ⟨hl, hl'⟩ := hl
  obtain ⟨ht, ht'⟩ := ht
  obtain ⟨hr, hr'⟩ := hr
  obtain ⟨hb, hb'⟩ := hb
  rw [Degenerate, not_or, not_le, not_le] at hround
  exact ⟨tdiv_two_bounds (by omega) (by omega), tdiv_two_bounds (by omega) (by omega),
    ⟨hround.1, (tdiv_two_bounds (by omega) (by omega)).2⟩,
    ⟨hround.2, (tdiv_two_bounds (by omega) (by omega)).2⟩⟩

/-! ### Single steps -/

lemma topInWords_eq (ho : o.FitsWords) : o.topInWords = some o.top := by
  have hrx2 := ho.rx2
  have hry2 := ho.ry2
  have hry := ho.ry
  have hrow := mul_bounds hrx2 ⟨by omega, hry.2⟩
  have hpy : 2 * o.rx2 * o.ry = 2 * (o.rx2 * o.ry) := mul_assoc _ _ _
  have hquarter : o.rx2.tdiv 4 = o.rx2 / 4 := Int.tdiv_eq_ediv_of_nonneg hrx2.1
  rw [topInWords, ← Oval.rx2, ← Oval.ry2]
  simp (disch := omega) only [word64?_eq, bind, Option.bind, hquarter]
  rfl

lemma flatStepInWords_eq (ho : o.FitsWords) (hw : w.FitsWords) :
    o.flatStepInWords w = some (o.flatStep w) := by
  have hrx2 := ho.rx2
  have hry2 := ho.ry2
  obtain ⟨hx, hy, hpx, hpy, hp⟩ := hw
  simp (disch := omega) only [flatStepInWords, flatStep, word64?_eq, bind, Option.bind]
  split_ifs
  · rfl
  · rfl

lemma steepStepInWords_eq (ho : o.FitsWords) (hw : w.FitsWords) :
    o.steepStepInWords w = some (o.steepStep w) := by
  have hrx2 := ho.rx2
  have hry2 := ho.ry2
  obtain ⟨hx, hy, hpx, hpy, hp⟩ := hw
  simp (disch := omega) only [steepStepInWords, steepStep, word64?_eq, bind, Option.bind]
  split_ifs
  · rfl
  · rfl

/-- The products of the change over come closest to the end of a word. -/
lemma turnInWords_eq (ho : o.FitsWords) (hw : w.FitsWords) : o.turnInWords w = some (o.turn w) := by
  have hrx2 := ho.rx2
  have hry2 := ho.ry2
  obtain ⟨hx, hy, -, -, -⟩ := hw
  have hodd : 0 ≤ 2 * w.x + 1 ∧ 2 * w.x + 1 ≤ 0xFFFF := by omega
  have hcolumn := mul_bounds hry2 hodd
  have hcolumn' := mul_bounds hcolumn hodd
  have hquarter : (o.ry2 * (2 * w.x + 1) * (2 * w.x + 1)).tdiv 4
      = o.ry2 * (2 * w.x + 1) * (2 * w.x + 1) / 4 := Int.tdiv_eq_ediv_of_nonneg hcolumn'.1
  -- the row below may be -1, so its products are told by those of the row itself
  have hrow := mul_bounds hrx2 hy
  have hrow' := mul_bounds hrow hy
  have hbelow : o.rx2 * (w.y - 1) = o.rx2 * w.y - o.rx2 := by ring
  have hbelow' : o.rx2 * (w.y - 1) * (w.y - 1)
      = o.rx2 * w.y * w.y - 2 * (o.rx2 * w.y) + o.rx2 := by ring
  have hwhole := mul_bounds hrx2 hry2
  simp (disch := omega) only [turnInWords, turn, word64?_eq, bind, Option.bind, hquarter]
  rfl

lemma mirrorInWords_eq (ho : o.FitsWords) {x y : ℤ} (hx : 0 ≤ x ∧ x ≤ 0x7FFF)
    (hy : 0 ≤ y ∧ y ≤ 0x7FFF) : o.mirrorInWords x y = some (o.mirror x y) := by
  obtain ⟨⟨hcx, hcx'⟩, ⟨hcy, hcy'⟩, -, -⟩ := ho
  simp (disch := omega) only [mirrorInWords, mirror, word64?_eq, word32?_eq, bind, Option.bind,
    List.filterMap_cons]
  rfl

/-! ### The walk -/

lemma form_bounds (ho : o.FitsWords) {u v : ℤ} (hu : -0x10000 ≤ u ∧ u ≤ 0x10000)
    (hv : -0x10000 ≤ v ∧ v ≤ 0x10000) :
    -0x4000000000000000 ≤ o.form u v ∧ o.form u v ≤ 0x8000000000000000 := by
  have hrx2 := ho.rx2
  have hry2 := ho.ry2
  have hsquare : ∀ {i : ℤ}, -0x10000 ≤ i ∧ i ≤ 0x10000 → 0 ≤ i * i ∧ i * i ≤ 0x100000000 := by
    intro i hi
    have hsq := sq_le_sq' hi.1 hi.2
    rw [sq] at hsq
    exact ⟨mul_self_nonneg i, hsq⟩
  have hcolumn := mul_bounds hry2 (hsquare hu)
  have hrow := mul_bounds hrx2 (hsquare hv)
  have hwhole := mul_bounds hrx2 hry2
  rw [form, mul_assoc 4]
  omega

/-- The numbers of a walker are bounded by its place. -/
lemma Placed.fitsWords (ho : o.FitsWords) (hw : o.Placed w) (hy : 0 ≤ w.y) {u v : ℤ}
    (hp : w.p = o.form u v / 4) (hu : -0x10000 ≤ u ∧ u ≤ 0x10000)
    (hv : -0x10000 ≤ v ∧ v ≤ 0x10000) : w.FitsWords := by
  have hx : 0 ≤ w.x ∧ w.x ≤ 0x7FFF := ⟨hw.x_nonneg, hw.x_le.trans ho.rx.2⟩
  have hy : 0 ≤ w.y ∧ w.y ≤ 0x7FFF := ⟨hy, hw.y_le.trans ho.ry.2⟩
  have hpx := mul_bounds ho.ry2 hx
  have hpy := mul_bounds ho.rx2 hy
  have hform := form_bounds ho hu hv
  refine ⟨hx, hy, ?_, ?_, ?_⟩
  · rw [hw.px, mul_assoc]
    omega
  · rw [hw.py, mul_assoc]
    omega
  · rw [hp]
    omega

lemma FlatHead.fitsWords (ho : o.FitsWords) (hw : o.FlatHead w) : w.FitsWords := by
  have hx := hw.x_le.trans ho.rx.2
  have hy := hw.y_le.trans ho.ry.2
  have hx0 := hw.x_nonneg
  have hy0 := hw.y_nonneg
  exact hw.toPlaced.fitsWords ho hy0 hw.p (by omega) (by omega)

lemma SteepHead.fitsWords (ho : o.FitsWords) (hw : o.SteepHead w) (hy0 : 0 ≤ w.y) :
    w.FitsWords := by
  have hx := hw.x_le.trans ho.rx.2
  have hy := hw.y_le.trans ho.ry.2
  have hx0 := hw.x_nonneg
  exact hw.toPlaced.fitsWords ho hy0 hw.p (by omega) (by omega)

/-- **The walk along an oval does not stop**, nor do its points. -/
lemma exists_walkInWords (ho : o.FitsWords) :
    o.topInWords = some o.top ∧
      ∃ flat mid steep last, o.Run flat mid steep last ∧
        (∀ w ∈ flat, o.flatStepInWords w = some (o.flatStep w)) ∧
        o.turnInWords mid = some (o.turn mid) ∧
        (∀ w ∈ steep, o.steepStepInWords w = some (o.steepStep w)) ∧
        ∀ w ∈ flat ++ steep, o.mirrorInWords w.x w.y = some (o.mirror w.x w.y) := by
  obtain ⟨flat, mid, steep, last, h⟩ := exists_run ho.ry.1
  obtain ⟨hflat, hmid, -⟩ := h.flatHead ho.rx.1 ho.ry.1
  obtain ⟨hsteep, -⟩ := h.steepHead ho.rx.1 ho.ry.1
  have hflat : ∀ w ∈ flat, w.FitsWords := fun w hw => (hflat w hw).1.fitsWords ho
  have hsteep : ∀ w ∈ steep, w.FitsWords :=
    fun w hw => (hsteep w hw).1.fitsWords ho (hsteep w hw).2
  refine ⟨topInWords_eq ho, flat, mid, steep, last, h,
    fun w hw => flatStepInWords_eq ho (hflat w hw), turnInWords_eq ho (hmid.fitsWords ho),
    fun w hw => steepStepInWords_eq ho (hsteep w hw), fun w hw => ?_⟩
  have hfits : w.FitsWords := (List.mem_append.mp hw).elim (hflat w) (hsteep w)
  exact mirrorInWords_eq ho hfits.x hfits.y

end Oval

/-! ## Both -/

/-- **No figure leaves its words.**  Let coordinates be told in words of 16 bits, whatever they are.

The walk along a segment from one endpoint to the other ends.  The head is set off in words of 32
bits, from each place that it has not stopped at it takes a step in such words, and every place that
it comes to lies in the box of the endpoints.

The center and the radii of a box are found in words of 32 bits.  If no radius is zero or negative,
both loops of the walk along the oval end.  The walk is set off in words of 64 bits, every step of
either loop is taken in such words, so is the change over with all its products, and the four points
of every offset have coordinates in them, and also in words of 32 bits, so that none is left out. -/
theorem figures_in_words (x0 y0 x1 y1 left top right bottom : Int16) :
    let s : Segment := ⟨x0.toInt, y0.toInt, x1.toInt, y1.toInt⟩
    let o := Oval.inscribed left.toInt top.toInt right.toInt bottom.toInt
    (s.startInWords = some s.start ∧
      ∃ visited last, Loop (fun h => ¬ s.Arrived h) s.advance s.start visited last ∧
        s.points = (visited ++ [last]).map (fun h => (h.x, h.y)) ∧
        (∀ h ∈ visited ++ [last], s.InBox h.x h.y) ∧
        ∀ h ∈ visited, s.advanceInWords h = some (s.advance h)) ∧
      Oval.inscribedInWords left.toInt top.toInt right.toInt bottom.toInt = some o ∧
      (¬ o.Degenerate → o.topInWords = some o.top ∧
        ∃ flat mid steep last, o.Run flat mid steep last ∧
          (∀ w ∈ flat, o.flatStepInWords w = some (o.flatStep w)) ∧
          o.turnInWords mid = some (o.turn mid) ∧
          (∀ w ∈ steep, o.steepStepInWords w = some (o.steepStep w)) ∧
          ∀ w ∈ flat ++ steep, o.mirrorInWords w.x w.y = some (o.mirror w.x w.y)) := by
  intro s o
  have hl := short_toInt left
  have ht := short_toInt top
  have hr := short_toInt right
  have hb := short_toInt bottom
  refine ⟨?_, Oval.inscribedInWords_eq hl ht hr hb, fun hround => ?_⟩
  · exact Segment.exists_walkInWords
      ⟨short_toInt x0, short_toInt y0, short_toInt x1, short_toInt y1⟩
  · exact Oval.exists_walkInWords (Oval.fitsWords_inscribed hl ht hr hb hround)

/-- The widest figures there are: the diagonal of the whole plane, and the oval in it. -/
theorem figures_in_words_widest :
    ¬ (⟨0, 0, 32767, 32767⟩ : Oval).Degenerate ∧
      Segment.startInWords ⟨-32768, -32768, 32767, 32767⟩ = some ⟨-32768, -32768, 0⟩ ∧
      Oval.inscribedInWords (-32768) (-32768) 32767 32767 = some ⟨0, 0, 32767, 32767⟩ ∧
      ∃ flat mid steep last, (⟨0, 0, 32767, 32767⟩ : Oval).Run flat mid steep last ∧
        Oval.turnInWords ⟨0, 0, 32767, 32767⟩ mid = some (Oval.turn ⟨0, 0, 32767, 32767⟩ mid) := by
  have hround : ¬ (⟨0, 0, 32767, 32767⟩ : Oval).Degenerate := by decide
  obtain ⟨⟨hstart, -⟩, hbox, hoval⟩ :=
    figures_in_words (-32768) (-32768) 32767 32767 (-32768) (-32768) 32767 32767
  obtain ⟨-, flat, mid, steep, last, hrun, -, hturn, -⟩ := hoval hround
  exact ⟨hround, hstart, hbox, flat, mid, steep, last, hrun, hturn⟩

end Paintbox

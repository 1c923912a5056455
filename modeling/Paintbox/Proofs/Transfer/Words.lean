import Paintbox.Proofs.Transfer.Boxes
import Paintbox.Proofs.Words

/-!
# Boxes in machine words

A transfer is given its boxes in words of 32 bits and computes with these, some of the time in words
of 64 bits.  Here a box is clipped, and an offset looked up, in such words, and wherever something
could go wrong it stops if it does: at a number that does not fit into its word, and at a division
by a number that is not positive.  It never stops, although nothing at these places keeps it from
that.  What does is found farther off: a box that is gone through has a size, and a part of it is on
the picture, and this bounds the distance of every visible point from the corner of the box,
wherever the corner is.

* `Clip.inWords`, `Mapping.locateInWords` — **clipping and looking up that stop**.
* `Clip.points`, `Clip.mem_points_iff`, `Clip.exists_of?_iff` — what is visible of a box.
* `Clip.offset_mem_box` — the distance of a visible point from the corner of its box.
* `Clip.FitsWords`, `Mapping.FitsWords` — what keeps a visible part and a mapping within words.
* `Clip.inWords_eq`, `Mapping.locateInWords_eq` — they do not stop.
-/

namespace Paintbox

/-! ## Clipping and looking up that stop -/

namespace Clip

/-- The far edge of a span, cut off at a limit: it is found in 64 bits and cut down to 32. -/
def farEdge? (start size limit : ℤ) : Option ℤ := do
  word32? (min (← word64? (start + size)) limit)

/-- Find the visible part of a box. -/
def inWords (width height x y w h : ℤ) : Option (Option Clip) :=
  if 0 < w ∧ 0 < h then do
    let x1 ← farEdge? x w width
    let y1 ← farEdge? y h height
    if visible : max x 0 < x1 ∧ max y 0 < y1 then
      return some ⟨x, y, max x 0, max y 0, x1, y1, visible.1, visible.2⟩
    else
      return none
  else
    return none

end Clip

namespace Mapping

/-- Scale an offset in 64 bits.  Where there is something to divide, the divisor has to be
positive. -/
def scaleInWords (src dst offset : ℤ) : Option ℤ :=
  if 0 < src then do
    let product ← word64? (offset * src)
    if 0 < dst then return product.tdiv dst else none
  else
    return 0

/-- Look an offset up in 64 bits. -/
def locateInWords (m : Mapping) (ix iy : ℤ) : Option (ℤ × ℤ) := do
  let dx ← scaleInWords m.srcWidth m.dstWidth ix
  let dy ← scaleInWords m.srcHeight m.dstHeight iy
  return (← word64? (m.x + dx), ← word64? (m.y + dy))

end Mapping

/-! ## What is visible -/

namespace Clip

/-- An edge that is cut off is in 32 bits again, whether the box is visible or not. -/
lemma farEdge?_eq (start size : Int32) {limit : ℤ} (hsize : 0 < size.toInt)
    (hlow : -0x80000000 ≤ limit) (hhigh : limit ≤ 0x7FFFFFFF) :
    farEdge? start.toInt size.toInt limit = some (min (start.toInt + size.toInt) limit) := by
  have hstart := start.le_toInt
  have hstart' := start.toInt_lt
  have hsize' := size.toInt_lt
  rw [farEdge?, word64?_eq (by omega) (by omega)]
  exact word32?_eq (by omega) (by omega)

/-- Clipping does not stop. -/
lemma inWords_eq (x y w h : Int32) {width height : ℤ}
    (hwidth : -0x80000000 ≤ width ∧ width ≤ 0x7FFFFFFF)
    (hheight : -0x80000000 ≤ height ∧ height ≤ 0x7FFFFFFF) :
    inWords width height x.toInt y.toInt w.toInt h.toInt
      = some (of? width height x.toInt y.toInt w.toInt h.toInt) := by
  rw [inWords, of?]
  by_cases hsize : 0 < w.toInt ∧ 0 < h.toInt
  · rw [if_pos hsize, if_pos hsize, farEdge?_eq x w hsize.1 hwidth.1 hwidth.2,
      farEdge?_eq y h hsize.2 hheight.1 hheight.2]
    simp only [bind, Option.bind]
    split_ifs
    · rfl
    · rfl
  · rw [if_neg hsize, if_neg hsize]
    rfl

/-- The points of the visible part, row by row. -/
def points (c : Clip) : List (ℤ × ℤ) := Pixmap.cells c.x0 c.y0 c.x1 c.y1

/-- What is needed of a visible part: its edges are on a picture, and the distances of its points
from the corner of the box are not negative and fit into words of 32 bits. -/
structure FitsWords (c : Clip) : Prop where
  x0 : 0 ≤ c.x0
  x1 : c.x1 ≤ 0x7FFFFFFF
  y0 : 0 ≤ c.y0
  y1 : c.y1 ≤ 0x7FFFFFFF
  offset : ∀ pt ∈ c.points, (0 ≤ pt.1 - c.originX ∧ pt.1 - c.originX ≤ 0x7FFFFFFF) ∧
    0 ≤ pt.2 - c.originY ∧ pt.2 - c.originY ≤ 0x7FFFFFFF

variable {width height x y w h X Y : ℤ} {c : Clip}

lemma mem_points : (X, Y) ∈ c.points ↔ c.x0 ≤ X ∧ X < c.x1 ∧ c.y0 ≤ Y ∧ Y < c.y1 := Pixmap.mem_cells

/-- The visible part of a box is what it covers of the picture. -/
lemma mem_points_iff (hclip : of? width height x y w h = some c) :
    (X, Y) ∈ c.points ↔ Covers x y w h X Y ∧ Covers 0 0 width height X Y := by
  obtain ⟨-, -, hx0, hx1, hy0, hy1⟩ := of?_eq_some hclip
  rw [mem_points, hx0, hx1, hy0, hy1, Covers, Covers]
  omega

/-- The distance of a visible point from the corner of its box is less than the size of the box. -/
lemma offset_mem_box (hclip : of? width height x y w h = some c) (hpt : (X, Y) ∈ c.points) :
    (0 ≤ X - c.originX ∧ X - c.originX < w) ∧ 0 ≤ Y - c.originY ∧ Y - c.originY < h := by
  obtain ⟨hox, hoy, -⟩ := of?_eq_some hclip
  obtain ⟨⟨hx, hxw, hy, hyh⟩, -⟩ := (mem_points_iff hclip).mp hpt
  rw [hox, hoy]
  omega

lemma corner_mem_points (c : Clip) : (c.x0, c.y0) ∈ c.points :=
  mem_points.mpr ⟨le_rfl, c.x_lt, le_rfl, c.y_lt⟩

/-- Only a box with a size has a visible part. -/
lemma size_pos (hclip : of? width height x y w h = some c) : 0 < w ∧ 0 < h := by
  obtain ⟨⟨hx, hxw⟩, hy, hyh⟩ := offset_mem_box hclip c.corner_mem_points
  exact ⟨hx.trans_lt hxw, hy.trans_lt hyh⟩

/-- There is a visible part where a point of the box is on the picture. -/
lemma exists_of?_iff :
    (∃ c, of? width height x y w h = some c) ↔
      ∃ X Y, Covers x y w h X Y ∧ Covers 0 0 width height X Y := by
  constructor
  · rintro ⟨c, hclip⟩
    exact ⟨c.x0, c.y0, (mem_points_iff hclip).mp c.corner_mem_points⟩
  · rintro ⟨X, Y, ⟨hx, hxw, hy, hyh⟩, hX, hXw, hY, hYh⟩
    rw [of?, if_pos (by omega), dif_pos (by omega)]
    exact ⟨_, rfl⟩

lemma fitsWords_of_of? {w h : Int32} (hwidth : width ≤ 0x7FFFFFFF) (hheight : height ≤ 0x7FFFFFFF)
    (hclip : of? width height x y w.toInt h.toInt = some c) : c.FitsWords := by
  have hw := w.toInt_lt
  have hh := h.toInt_lt
  obtain ⟨-, -, hx0, hx1, hy0, hy1⟩ := of?_eq_some hclip
  refine ⟨by omega, by omega, by omega, by omega, fun pt hpt => ?_⟩
  have hoffset := offset_mem_box (X := pt.1) (Y := pt.2) hclip hpt
  omega

end Clip

/-! ## Where it is looked up -/

namespace Mapping

/-- What is needed of a mapping: its source box is told in words of 32 bits, and the size that is
divided by is positive. -/
structure FitsWords (m : Mapping) : Prop where
  x : -0x80000000 ≤ m.x ∧ m.x ≤ 0x7FFFFFFF
  y : -0x80000000 ≤ m.y ∧ m.y ≤ 0x7FFFFFFF
  srcWidth : m.srcWidth ≤ 0x7FFFFFFF
  srcHeight : m.srcHeight ≤ 0x7FFFFFFF
  dstWidth : 0 < m.dstWidth
  dstHeight : 0 < m.dstHeight

lemma fitsWords_stretch (sx sy sw sh : Int32) {w h : ℤ} (hw : 0 < w) (hh : 0 < h) :
    (⟨sx.toInt, sy.toInt, sw.toInt, sh.toInt, w, h⟩ : Mapping).FitsWords where
  x := ⟨sx.le_toInt, Int.le_of_lt_add_one sx.toInt_lt⟩
  y := ⟨sy.le_toInt, Int.le_of_lt_add_one sy.toInt_lt⟩
  srcWidth := Int.le_of_lt_add_one sw.toInt_lt
  srcHeight := Int.le_of_lt_add_one sh.toInt_lt
  dstWidth := hw
  dstHeight := hh

lemma fitsWords_shift (sx sy : Int32) : (shift sx.toInt sy.toInt).FitsWords :=
  fitsWords_stretch sx sy 1 1 Int.one_pos Int.one_pos

section Scale

variable {src dst offset : ℤ} (hsrc : src ≤ 0x7FFFFFFF) (hdst : 0 < dst)
  (hfrom : 0 ≤ offset) (hto : offset ≤ 0x7FFFFFFF)

include hsrc hfrom hto in
lemma product_bounds (hpos : 0 < src) :
    0 ≤ offset * src ∧ offset * src ≤ 0x7FFFFFFF * 0x7FFFFFFF :=
  mul_bounds ⟨hfrom, hto⟩ ⟨hpos.le, hsrc⟩

include hsrc hdst hfrom hto

/-- To scale an offset does not stop. -/
lemma scaleInWords_eq : scaleInWords src dst offset = some (scale src dst offset) := by
  rw [scaleInWords, scale]
  split_ifs with hpos
  · have hproduct := product_bounds hsrc hfrom hto hpos
    rw [word64?_eq (by omega) (by omega)]
    rfl
  · rfl

lemma scale_bounds :
    0 ≤ scale src dst offset ∧ scale src dst offset ≤ 0x7FFFFFFF * 0x7FFFFFFF := by
  rw [scale]
  split_ifs with hpos
  · have hproduct := product_bounds hsrc hfrom hto hpos
    exact ⟨Int.tdiv_nonneg hproduct.1 hdst.le,
      (Int.tdiv_le_self _ hproduct.1).trans hproduct.2⟩
  · decide

end Scale

/-- To look an offset up does not stop. -/
lemma locateInWords_eq {m : Mapping} (hm : m.FitsWords) {ix iy : ℤ}
    (hx : 0 ≤ ix ∧ ix ≤ 0x7FFFFFFF) (hy : 0 ≤ iy ∧ iy ≤ 0x7FFFFFFF) :
    m.locateInWords ix iy = some (m.locate ix iy) := by
  have hdx := scale_bounds hm.srcWidth hm.dstWidth hx.1 hx.2
  have hdy := scale_bounds hm.srcHeight hm.dstHeight hy.1 hy.2
  have hmx := hm.x
  have hmy := hm.y
  rw [locateInWords, scaleInWords_eq hm.srcWidth hm.dstWidth hx.1 hx.2,
    scaleInWords_eq hm.srcHeight hm.dstHeight hy.1 hy.2]
  simp only [bind, Option.bind]
  rw [word64?_eq (by omega) (by omega), word64?_eq (by omega) (by omega)]
  rfl

end Mapping

end Paintbox

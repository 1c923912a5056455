import Mathlib
import Paintbox.Transfer

/-!
# A transfer, pixel by pixel

A transfer clips its box, samples the source into a picture of its own and combines that with the
destination.  None of this is seen from outside: a pixel in the box becomes what the operation makes
of it and of the source pixel that the mapping finds for it, and every other pixel stays.

* `Covers` — the points of a box, visible or not.
* `Clip.not_covers_of_none`, `Clip.mem_iff` — clipping loses no pixel of the picture.
* `Clip.get?_sample` — a sample, as far as the operation can tell.
* `Pixmap.get?_transfer` — **the pixels of a transfer**.
* `Mapping.locate_shift`, `Mapping.locate_of_nonneg` — where source pixels are found.
-/

namespace Paintbox

/-- The source byte at a point: zero without a source and outside of it. -/
def sourceByte (source : Option Pixmap) (x y : Int) : UInt8 :=
  (source.bind fun p => p.get? x y).getD 0

/-- Does the point lie in the box of size `w` by `h` at `x`, `y`? -/
def Covers (x y w h X Y : Int) : Prop := x ≤ X ∧ X < x + w ∧ y ≤ Y ∧ Y < y + h

instance (x y w h X Y : Int) : Decidable (Covers x y w h X Y) :=
  inferInstanceAs (Decidable (x ≤ X ∧ X < x + w ∧ y ≤ Y ∧ Y < y + h))

/-! ## Clipping -/

namespace Clip

/-- A box without a visible part covers no pixel. -/
lemma not_covers_of_none {p : Pixmap} {x y w h X Y : Int}
    (hclip : of? p.width p.height x y w h = none) (hin : p.Contains X Y) :
    ¬ Covers x y w h X Y := by
  rintro ⟨hx, hxw, hy, hyh⟩
  obtain ⟨hX, hXw, hY, hYh⟩ := hin
  rw [of?, if_pos (by omega), dif_pos (by omega)] at hclip
  cases hclip

lemma of?_eq_some {width height x y w h : Int} {c : Clip}
    (hclip : of? width height x y w h = some c) :
    c.originX = x ∧ c.originY = y ∧ c.x0 = max x 0 ∧ c.x1 = min (x + w) width ∧
      c.y0 = max y 0 ∧ c.y1 = min (y + h) height := by
  simp only [of?] at hclip
  split_ifs at hclip with hsize hvisible
  cases hclip
  exact ⟨rfl, rfl, rfl, rfl, rfl, rfl⟩

/-- The visible part of a box is what it covers of the picture. -/
lemma mem_iff {p : Pixmap} {x y w h X Y : Int} {c : Clip}
    (hclip : of? p.width p.height x y w h = some c) :
    (c.x0 ≤ X ∧ X < c.x1 ∧ c.y0 ≤ Y ∧ Y < c.y1) ↔ Covers x y w h X Y ∧ p.Contains X Y := by
  obtain ⟨-, -, hx0, hx1, hy0, hy1⟩ := of?_eq_some hclip
  rw [hx0, hx1, hy0, hy1, Covers, Pixmap.Contains]
  omega

/-! ## Sampling -/

/-- A sample is the source byte at the place that the mapping finds, unless the operation does not
look at it. -/
lemma get?_sample (c : Clip) (source : Option Pixmap) (m : Mapping) (op : RasterOp) {X Y : Int}
    (hX : c.x0 ≤ X ∧ X < c.x1) (hY : c.y0 ≤ Y ∧ Y < c.y1) :
    ((c.sample source m op).get? (X - c.x0) (Y - c.y0)).getD 0 =
      if op.usesSource then
        sourceByte source (m.locate (X - c.originX) (Y - c.originY)).1
          (m.locate (X - c.originX) (Y - c.originY)).2
      else 0 := by
  have hin : 0 ≤ X - c.x0 ∧ X - c.x0 < c.width ∧ 0 ≤ Y - c.y0 ∧ Y - c.y0 < c.height := by
    simp only [width, height]
    omega
  have hblank : ((Pixmap.blank c.width c.height c.width_pos c.height_pos).get?
      (X - c.x0) (Y - c.y0)).getD 0 = 0 := by
    rw [Pixmap.blank, Pixmap.solid_eq_tabulate, Pixmap.get?_tabulate, if_pos hin]
    rfl
  cases source with
  | none =>
      rw [sample, hblank, sourceByte]
      split_ifs <;> rfl
  | some p =>
      simp only [sample]
      split_ifs with huses
      · have hcol : c.x0 + ((X - c.x0).toNat : Int) - c.originX = X - c.originX := by omega
        have hrow : c.y0 + ((Y - c.y0).toNat : Int) - c.originY = Y - c.originY := by omega
        rw [Pixmap.get?_tabulate, if_pos hin]
        simp only [Option.getD_some, hcol, hrow, sourceByte, Option.bind_some]
      · exact hblank

end Clip

/-! ## Transfers -/

/-- A pixel of the box becomes what the operation makes of it, the source byte that the mapping
finds and the pattern; every other pixel stays. -/
lemma Pixmap.get?_transfer (p : Pixmap) (x y w h : Int) (source : Option Pixmap) (m : Mapping)
    (op : RasterOp) (pattern : UInt8) (X Y : Int) :
    (p.transfer x y w h source m op pattern).get? X Y =
      if Covers x y w h X Y then
        (p.get? X Y).map fun old =>
          op.apply old (sourceByte source (m.locate (X - x) (Y - y)).1 (m.locate (X - x) (Y - y)).2)
            pattern
      else p.get? X Y := by
  rw [transfer]
  cases hclip : Clip.of? p.width p.height x y w h with
  | none =>
      simp only
      split_ifs with hcov
      · have hout : ¬ p.Contains X Y := fun hin => Clip.not_covers_of_none hclip hin hcov
        rw [get?_eq_none hout, Option.map_none]
      · rfl
  | some c =>
      have hmem := Clip.mem_iff (X := X) (Y := Y) hclip
      obtain ⟨hox, hoy, -⟩ := Clip.of?_eq_some hclip
      simp only [Clip.combine]
      rw [get?_alter]
      by_cases hvisible : c.x0 ≤ X ∧ X < c.x1 ∧ c.y0 ≤ Y ∧ Y < c.y1
      · obtain ⟨hcov, -⟩ := hmem.mp hvisible
        rw [if_pos hvisible, if_pos hcov,
          Clip.get?_sample c source m op ⟨hvisible.1, hvisible.2.1⟩ hvisible.2.2, hox, hoy]
        split_ifs with huses
        · rfl
        · -- the sample is zero, which such an operation does not notice
          rw [Bool.not_eq_true] at huses
          congr 1
          funext old
          exact RasterOp.apply_source_irrel huses old 0 _ pattern
      · rw [if_neg hvisible]
        split_ifs with hcov
        · have hout : ¬ p.Contains X Y := fun hin => hvisible (hmem.mpr ⟨hcov, hin⟩)
          rw [get?_eq_none hout, Option.map_none]
        · rfl

/-! ## Mappings -/

namespace Mapping

lemma locate_shift (x y ix iy : Int) : (shift x y).locate ix iy = (x + ix, y + iy) := by
  simp [shift, locate, scale]

/-- An offset within a span scaled to a size; a size that is not positive has its first pixel
only. -/
def scaled (size span offset : Int) : Int := if 0 < size then offset * size / span else 0

lemma scale_eq_scaled {size span offset : Int} (hoffset : 0 ≤ offset) :
    scale size span offset = scaled size span offset := by
  rw [scale, scaled]
  split_ifs with hsize
  · exact Int.tdiv_eq_ediv_of_nonneg (Int.mul_nonneg hoffset hsize.le)
  · rfl

/-- From the corner of a box on, rounding toward zero is rounding down. -/
lemma locate_of_nonneg (m : Mapping) {ix iy : Int} (hx : 0 ≤ ix) (hy : 0 ≤ iy) :
    m.locate ix iy = (m.x + scaled m.srcWidth m.dstWidth ix,
      m.y + scaled m.srcHeight m.dstHeight iy) := by
  rw [locate, scale_eq_scaled hx, scale_eq_scaled hy]

end Mapping

end Paintbox

import Paintbox.Pixmap
import Paintbox.RasterOp

/-!
# Block transfers

A transfer combines a box of the destination with a box of the source, pixel by pixel, through a
raster operation.  It runs in two phases: first the source of every visible destination pixel is
sampled into a picture of its own, then the samples are combined with the destination.  So a
picture can be transferred onto itself, and what is read is what was there before.

* `Clip` — the visible part of a destination box; `Clip.of?` finds it if there is one.
* `Mapping` — which source point belongs to an offset in the destination box.
* `Clip.sample` — the first phase.
* `Clip.combine` — the second phase.
* `Pixmap.bitTransfer`, `Pixmap.stretchTransfer`, `Pixmap.patternTransfer` — both phases between
  pictures, at the same size, scaled, and without a source.
-/

namespace Paintbox

/-! ## The visible part of a box -/

/-- The part of a destination box that lies on the destination: the columns from `x0` up to `x1`
and the rows from `y0` up to `y1`, and where the box itself starts. -/
structure Clip where
  originX : Int
  originY : Int
  x0 : Int
  y0 : Int
  x1 : Int
  y1 : Int
  x_lt : x0 < x1
  y_lt : y0 < y1

namespace Clip

/-- The visible part of the box of size `w` by `h` at the point, on a destination of the given
width and height.  A box of no or negative size, or wholly outside, has none. -/
def of? (width height x y w h : Int) : Option Clip :=
  if 0 < w ∧ 0 < h then
    let x0 := max x 0
    let y0 := max y 0
    let x1 := min (x + w) width
    let y1 := min (y + h) height
    if visible : x0 < x1 ∧ y0 < y1 then some ⟨x, y, x0, y0, x1, y1, visible.1, visible.2⟩ else none
  else
    none

def width (c : Clip) : Nat := (c.x1 - c.x0).toNat

def height (c : Clip) : Nat := (c.y1 - c.y0).toNat

theorem width_pos (c : Clip) : 0 < c.width := by
  have := c.x_lt
  simp only [width]
  omega

theorem height_pos (c : Clip) : 0 < c.height := by
  have := c.y_lt
  simp only [height]
  omega

end Clip

/-! ## From destination to source -/

/-- Where a destination offset is looked up in the source: at the source origin plus the offset,
scaled from the destination size to the source size. -/
structure Mapping where
  x : Int
  y : Int
  srcWidth : Int
  srcHeight : Int
  dstWidth : Int
  dstHeight : Int
deriving DecidableEq

namespace Mapping

def shift (x y : Int) : Mapping := ⟨x, y, 1, 1, 1, 1⟩

/-- An offset scaled from `dst` to `src`, rounded toward zero.  A source size that is not positive
has its first pixel only. -/
def scale (src dst offset : Int) : Int :=
  if 0 < src then (offset * src).tdiv dst else 0

def locate (m : Mapping) (ix iy : Int) : Int × Int :=
  (m.x + scale m.srcWidth m.dstWidth ix, m.y + scale m.srcHeight m.dstHeight iy)

end Mapping

/-! ## The two phases -/

namespace Clip

/-- The source pixel of every visible destination pixel.  Without a source, outside of it, and for
an operation that does not look at it, the sample is zero. -/
def sample (c : Clip) (source : Option Pixmap) (m : Mapping) (op : RasterOp) : Pixmap :=
  match source with
  | some p =>
      if op.usesSource then
        .tabulate c.width c.height c.width_pos c.height_pos fun i j =>
          let s := m.locate (c.x0 + i - c.originX) (c.y0 + j - c.originY)
          (p.get? s.1 s.2).getD 0
      else
        .blank c.width c.height c.width_pos c.height_pos
  | none => .blank c.width c.height c.width_pos c.height_pos

/-- Combine the visible part of the destination with the samples. -/
def combine (c : Clip) (dst samples : Pixmap) (op : RasterOp) (pattern : UInt8) : Pixmap :=
  dst.alter c.x0 c.y0 c.x1 c.y1 fun x y old =>
    op.apply old ((samples.get? (x - c.x0) (y - c.y0)).getD 0) pattern

end Clip

/-! ## Transfers between pictures -/

namespace Pixmap

/-- Transfer a box of the source, looked up through a mapping, to the box of size `w` by `h` at the
point. -/
def transfer (dst : Pixmap) (x y w h : Int) (source : Option Pixmap) (m : Mapping)
    (op : RasterOp) (pattern : UInt8) : Pixmap :=
  match Clip.of? dst.width dst.height x y w h with
  | some c => c.combine dst (c.sample source m op) op pattern
  | none => dst

/-- Transfer pixel for pixel from the source point `sx`, `sy` on. -/
def bitTransfer (dst : Pixmap) (x y w h : Int) (source : Option Pixmap) (sx sy : Int)
    (op : RasterOp) (pattern : UInt8) : Pixmap :=
  dst.transfer x y w h source (.shift sx sy) op pattern

/-- Transfer a source box of size `sw` by `sh`, scaled to the destination box. -/
def stretchTransfer (dst : Pixmap) (x y w h : Int) (source : Option Pixmap) (sx sy sw sh : Int)
    (op : RasterOp) (pattern : UInt8) : Pixmap :=
  dst.transfer x y w h source ⟨sx, sy, sw, sh, w, h⟩ op pattern

def patternTransfer (dst : Pixmap) (x y w h : Int) (op : RasterOp) (pattern : UInt8) : Pixmap :=
  dst.bitTransfer x y w h none 0 0 op pattern

end Pixmap

end Paintbox

import Paintbox.Glyph
import Paintbox.Pixmap

/-!
# Lettering

Text is a string of bytes, drawn left to right in cells of 8 by 8 pixels.  Only ink is drawn: the
rest of a cell keeps what was there.

* `Lettering.span` — the bytes of a text that are drawn.
* `Lettering.extent` — the size of the cells that a number of characters takes.
* `Pixmap.letter` — one glyph.
* `Pixmap.text` — a text; it stops at the first cell that starts right of the picture.
-/

namespace Paintbox

namespace Lettering

/-- The bytes that are drawn: the first `len` of them, or those before the first zero byte if no
length is given. -/
def span (text : List UInt8) : (len : Option Nat) → List UInt8
  | some n => text.take n
  | none => text.takeWhile (· ≠ 0)

/-- The largest width that is ever reported, the largest signed number of 32 bits. -/
def maxWidth : Int := 0x7FFFFFFF

/-- How many numbers of 64 bits there are. -/
def longWords : Nat := 0x10000000000000000

/-- How many numbers of 32 bits there are. -/
def words : Nat := 0x100000000

/-- Width and height of a number of cells.  The number of cells is taken as a signed number of 64
bits and the width is reported as one of 32 bits: it is cut off at `maxWidth`, and what lies below
the smallest such number, which no text reaches, wraps around. -/
def extent (count : Nat) : Int × Int :=
  (Int.bmod (min (Int.bmod count longWords * Glyph.side) maxWidth) words, Glyph.side)

end Lettering

namespace Pixmap

/-- Draw the ink of a glyph whose cell has its top left corner at the point. -/
def letter (p : Pixmap) (x y : Int) (g : Glyph) (v : UInt8) : Pixmap :=
  Glyph.side.fold (fun row _ p =>
    Glyph.side.fold (fun col _ p =>
      if g.ink col row then p.put (x + col) (y + row) v else p) p) p

/-- Draw a text whose first cell has its top left corner at the point. -/
def text (p : Pixmap) (x y : Int) : (codes : List UInt8) → (v : UInt8) → Pixmap
  | [], _ => p
  | code :: codes, v =>
      if p.width ≤ x then p
      else (p.letter x y (Glyph.ofCode code) v).text (x + Glyph.side) y codes v

end Pixmap

end Paintbox

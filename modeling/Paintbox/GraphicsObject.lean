import Paintbox.Color
import Paintbox.FaceName
import Paintbox.ObjectKind
import Paintbox.Pixmap

/-!
# Graphics objects

Pens, brushes, fonts and bitmaps are created once and then named by their handle.

* `PenStyle`, `BrushStyle` — the styles, known to callers by small numbers; a number without a
  style means `solid`.
* `GraphicsObject` — an object of any kind; a bitmap owns its pixels.
* `GraphicsObject.ink` — what a pen or brush draws, `none` for the style that draws nothing.
* `Description`, `GraphicsObject.describe` — what callers can learn of an object: all of it but the
  pixels.
-/

namespace Paintbox

/-! ## Styles -/

/-- How a pen draws.  Only `null` differs from the others in what ends up on a picture. -/
inductive PenStyle where
  | solid
  | dash
  | dot
  | dashDot
  | dashDotDot
  | null
  | insideFrame
deriving DecidableEq

namespace PenStyle

/-- The style of a number; a number without a style is `solid`. -/
def ofInt : Int → PenStyle
  | 1 => dash
  | 2 => dot
  | 3 => dashDot
  | 4 => dashDotDot
  | 5 => null
  | 6 => insideFrame
  | _ => solid

def label : PenStyle → String
  | solid => "Solid"
  | dash => "Dash"
  | dot => "Dot"
  | dashDot => "DashDot"
  | dashDotDot => "DashDotDot"
  | null => "Null"
  | insideFrame => "InsideFrame"

end PenStyle

/-- How a brush fills.  Only `null` differs from the others in what ends up on a picture. -/
inductive BrushStyle where
  | solid
  | null
  | hatched
  | pattern
deriving DecidableEq

namespace BrushStyle

/-- The style of a number; a number without a style is `solid`. -/
def ofInt : Int → BrushStyle
  | 1 => null
  | 2 => hatched
  | 3 => pattern
  | _ => solid

def label : BrushStyle → String
  | solid => "Solid"
  | null => "Null"
  | hatched => "Hatched"
  | pattern => "Pattern"

end BrushStyle

/-! ## The four kinds -/

/-- What outlines are drawn with. -/
structure Pen where
  style : PenStyle
  width : Int16
  color : Color
deriving DecidableEq

namespace Pen

/-- The palette index a pen draws with, if it draws at all. -/
def ink (pen : Pen) : Option UInt8 := if pen.style = .null then none else some pen.color.index

end Pen

/-- What interiors are filled with. -/
structure Brush where
  style : BrushStyle
  color : Color
deriving DecidableEq

namespace Brush

/-- The palette index a brush fills with, if it fills at all. -/
def ink (brush : Brush) : Option UInt8 :=
  if brush.style = .null then none else some brush.color.index

end Brush

/-- A font as it was asked for.  Text is always drawn with the built-in font. -/
structure Font where
  height : Int16
  width : Int16
  weight : Int16
  faceName : String
  charset : UInt8
deriving DecidableEq

namespace Font

/-- The character set of every font that is created by name. -/
def ansiCharset : UInt8 := 0

end Font

/-- A picture that is kept as an object. -/
structure Bitmap where
  planes : UInt8
  bitsPerPixel : UInt8
  pixels : Pixmap
deriving DecidableEq

/-- A graphics object of any kind. -/
inductive GraphicsObject where
  | pen (pen : Pen)
  | brush (brush : Brush)
  | font (font : Font)
  | bitmap (bitmap : Bitmap)
deriving DecidableEq

namespace GraphicsObject

/-- The kind of an object, which is the slot it is selected into. -/
def kind : GraphicsObject → ObjectKind
  | pen _ => .pen
  | brush _ => .brush
  | font _ => .font
  | bitmap _ => .bitmap

def asPen : GraphicsObject → Option Pen
  | pen p => some p
  | _ => none

def asBrush : GraphicsObject → Option Brush
  | brush b => some b
  | _ => none

def asBitmap : GraphicsObject → Option Bitmap
  | bitmap b => some b
  | _ => none

/-- Change the pixels of a bitmap; an object of another kind has none to change. -/
def mapPixels (f : Pixmap → Pixmap) : GraphicsObject → GraphicsObject
  | bitmap b => bitmap { b with pixels := f b.pixels }
  | other => other

end GraphicsObject

/-! ## Descriptions -/

/-- What callers can learn of an object. -/
inductive Description where
  | pen (pen : Pen)
  | brush (brush : Brush)
  | font (font : Font)
  | bitmap (width height : Nat) (planes bitsPerPixel : UInt8)
deriving DecidableEq

def GraphicsObject.describe : GraphicsObject → Description
  | .pen p => .pen p
  | .brush b => .brush b
  | .font f => .font f
  | .bitmap b => .bitmap b.pixels.width b.pixels.height b.planes b.bitsPerPixel

end Paintbox

import Paintbox.Display.Contexts
import Paintbox.Figure
import Paintbox.Lettering
import Paintbox.Oval
import Paintbox.Transfer

/-!
# Drawing

* `Display.draw` — **the one way pictures change**: find the inks of a context, then change the
  picture it draws on.
* `Display.dot`, `Display.line`, `Display.lineTo`, `Display.rectangle`, `Display.ellipse`,
  `Display.path`, `Display.text` — figures, in a given color or in the colors of the context.
* `Display.fillRect`, `Display.frameRect`, `Display.invertRect` — boxes, the first two in the color
  of a brush that is named rather than selected.
* `Display.bitTransfer`, `Display.stretchTransfer`, `Display.patternTransfer` — block transfers.
* `Display.writePixel`, `Display.pixel?` — single pixels.
-/

namespace Paintbox.Display

open DisplayAction

/-- Change the picture that the context under a handle draws on, with the inks of the context. -/
def draw (h : ContextHandle) (f : Inks → Pixmap → Pixmap) : DisplayAction Unit := do
  let inks ← ask fun d => (d.context h).map d.inks
  change fun d => d.paint h (f inks)

/-! ## Figures -/

def dot (h : ContextHandle) (pt : Point) (color : Color) : DisplayAction Unit :=
  draw h fun _ p => p.put pt.x.toInt pt.y.toInt color.index

def segment (a b : Point) : Segment := ⟨a.x.toInt, a.y.toInt, b.x.toInt, b.y.toInt⟩

def line (h : ContextHandle) (a b : Point) (color : Color) : DisplayAction Unit :=
  draw h fun _ p => p.line (segment a b) color.index

/-- Draw with the pen from the current position to a point and move there, also when the pen draws
nothing.  The context is looked up again for the move. -/
def lineTo (h : ContextHandle) (b : Point) : DisplayAction Unit := do
  let a ← position h
  draw h fun inks p =>
    match inks.pen with
    | some v => p.line (segment a b) v
    | none => p
  let _ ← moveTo h b

/-- A rectangle, filled with the brush and outlined with the pen. -/
def rectangle (h : ContextHandle) (r : Rect) : DisplayAction Unit :=
  draw h fun inks p =>
    p.rectangle r.left.toInt r.top.toInt r.right.toInt r.bottom.toInt inks.pen inks.brush

/-- The outline of the ellipse in a box, drawn with the pen. -/
def ellipse (h : ContextHandle) (r : Rect) : DisplayAction Unit :=
  draw h fun inks p =>
    match inks.pen with
    | some v => p.oval (.inscribed r.left.toInt r.top.toInt r.right.toInt r.bottom.toInt) v
    | none => p

/-- Segments from point to point drawn with the pen, and back to the first point if the path is
closed.  A path needs two points at least. -/
def path (h : ContextHandle) (points : List Point) (closed : Bool) : DisplayAction Unit := do
  if points.length < 2 then
    throw (.invalidArgument (.tooFewPoints points.length))
  draw h fun inks p =>
    match inks.pen with
    | some v => p.path (points.map Point.toPlane) v closed
    | none => p

def text (h : ContextHandle) (pt : Point) (text : List UInt8) (len : Option Nat) :
    DisplayAction Unit :=
  draw h fun inks p =>
    p.text pt.x.toInt pt.y.toInt (Lettering.span text len) inks.text

def textExtent (h : ContextHandle) (text : List UInt8) (len : Option Nat) :
    DisplayAction (Int × Int) :=
  register h fun _ => Lettering.extent (Lettering.span text len).length

/-! ## Boxes -/

/-- What a named brush fills with, if it fills at all. -/
def brushInk (d : Display) (o : ObjectHandle) : Except Error (Option UInt8) := do
  let object ← d.object o
  match object.asBrush with
  | some brush => .ok brush.ink
  | none => .error (.invalidArgument (.wrongKind o object.kind .brush))

/-- Draw on a context with the color of a named brush; a null brush draws nothing. -/
def drawWith (h : ContextHandle) (brush : ObjectHandle) (f : UInt8 → Pixmap → Pixmap) :
    DisplayAction Unit := do
  let ink ← ask fun d => d.brushInk brush
  draw h fun _ p =>
    match ink with
    | some v => f v p
    | none => p

def fillRect (h : ContextHandle) (r : Rect) (brush : ObjectHandle) : DisplayAction Unit :=
  drawWith h brush fun v p =>
    p.fillBox r.left.toInt r.top.toInt r.right.toInt r.bottom.toInt v

/-- Draw the outermost pixels of a box with a named brush. -/
def frameRect (h : ContextHandle) (r : Rect) (brush : ObjectHandle) : DisplayAction Unit :=
  drawWith h brush fun v p =>
    p.frameBox r.left.toInt r.top.toInt r.right.toInt r.bottom.toInt v

def invertRect (h : ContextHandle) (r : Rect) : DisplayAction Unit :=
  draw h fun _ p => p.invertBox r.left.toInt r.top.toInt r.right.toInt r.bottom.toInt

/-! ## Block transfers -/

/-- Where a transfer lands: the top left corner and the size of the destination box. -/
structure Box where
  x : Int16
  y : Int16
  width : Int16
  height : Int16
deriving DecidableEq

/-- The picture that a transfer reads; the null handle stands for none. -/
def source (d : Display) (h : ContextHandle) : Except Error (Option Pixmap) :=
  if h.isNull then .ok none else (d.surface h).map some

/-- The visible part of a transfer and its samples, read before anything is written.  Both contexts
are looked up even when nothing is visible. -/
def sampled (d : Display) (dst : ContextHandle) (box : Box) (src : ContextHandle) (m : Mapping)
    (op : RasterOp) : Except Error (Option (Clip × Pixmap)) := do
  let target ← d.surface dst
  let source ← d.source src
  let clip := Clip.of? target.width target.height box.x.toInt box.y.toInt box.width.toInt
    box.height.toInt
  return clip.map fun c => (c, c.sample source m op)

/-- Transfer from one context to another, or to itself, looking the source up through a mapping. -/
def transfer (dst : ContextHandle) (box : Box) (src : ContextHandle) (m : Mapping)
    (op : RasterOp) : DisplayAction Unit := do
  match ← ask fun d => d.sampled dst box src m op with
  | some (c, samples) => draw dst fun inks p => c.combine p samples op inks.pattern
  | none => return ()

/-- Transfer pixel for pixel from a source point on. -/
def bitTransfer (dst : ContextHandle) (box : Box) (src : ContextHandle) (sx sy : Int16)
    (op : RasterOp) : DisplayAction Unit :=
  transfer dst box src (.shift sx.toInt sy.toInt) op

/-- Transfer a source box scaled to the destination box. -/
def stretchTransfer (dst : ContextHandle) (box : Box) (src : ContextHandle) (srcBox : Box)
    (op : RasterOp) : DisplayAction Unit :=
  transfer dst box src
    ⟨srcBox.x.toInt, srcBox.y.toInt, srcBox.width.toInt, srcBox.height.toInt,
      box.width.toInt, box.height.toInt⟩ op

def patternTransfer (h : ContextHandle) (box : Box) (op : RasterOp) : DisplayAction Unit :=
  draw h fun inks p =>
    p.patternTransfer box.x.toInt box.y.toInt box.width.toInt box.height.toInt op inks.pattern

/-! ## Single pixels -/

/-- Write one pixel; answers whether it lies on the picture. -/
def writePixel (h : ContextHandle) (pt : Point) (color : Color) : DisplayAction Bool := do
  let landed ← ask fun d => (d.surface h).map fun p => decide (p.Contains pt.x.toInt pt.y.toInt)
  draw h fun _ p => p.put pt.x.toInt pt.y.toInt color.index
  return landed

def pixel? (h : ContextHandle) (pt : Point) : DisplayAction (Option UInt8) :=
  ask fun d => (d.surface h).map fun p => p.get? pt.x.toInt pt.y.toInt

end Paintbox.Display

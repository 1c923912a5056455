import Paintbox.Display

/-!
# Making and deleting graphics objects

* `Display.createPen`, `Display.createBrush`, `Display.createFont`, `Display.createBitmap` — a new
  object of each kind.
* `Display.deleteObject` — the end of an object.  Contexts that have it selected are left alone.
* `Display.describe` — what an object is.
* `Display.bitmapBits`, `Display.setBitmapBits` — the pixels of a bitmap in row order.
-/

namespace Paintbox.Display

open DisplayAction

def addObject (object : GraphicsObject) : DisplayAction ObjectHandle :=
  ExceptT.mk fun d =>
    let (answer, objects) := d.objects.insert object
    (answer.map ObjectHandle.mk, { d with objects := objects })

def createPen (style : PenStyle) (width : Int16) (color : Color) : DisplayAction ObjectHandle :=
  addObject (.pen { style := style, width := width, color := color })

def createBrush (style : BrushStyle) (color : Color) : DisplayAction ObjectHandle :=
  addObject (.brush { style := style, color := color })

def createSolidBrush (color : Color) : DisplayAction ObjectHandle := createBrush .solid color

def createFont (height width weight : Int16) (faceName : String) : DisplayAction ObjectHandle :=
  addObject (.font {
    height := height, width := width, weight := weight
    faceName := FaceName.truncate faceName, charset := Font.ansiCharset })

/-- Make a bitmap that starts with the bytes given, or blank. -/
def createBitmap (heap : Heap) (width height : Int16) (planes bitsPerPixel : UInt8)
    (initial : Option ByteArray) : DisplayAction ObjectHandle := do
  let pixels ← ask fun _ =>
    match initial with
    | some bytes => Pixmap.createFrom heap width.toInt height.toInt bytes
    | none => Pixmap.create heap width.toInt height.toInt
  addObject (.bitmap { planes := planes, bitsPerPixel := bitsPerPixel, pixels := pixels })

/-- Make a blank bitmap with one plane of eight bits per pixel.  It goes with every context, so the
context asked for is not looked at. -/
def createCompatibleBitmap (heap : Heap) (_context : ContextHandle) (width height : Int16) :
    DisplayAction ObjectHandle :=
  createBitmap heap width height 1 8 none

def deleteObject (o : ObjectHandle) : DisplayAction Unit :=
  ExceptT.mk fun d =>
    let (answer, objects) := d.objects.release o.code
    (answer.map fun _ => (), { d with objects := objects })

def describe (o : ObjectHandle) : DisplayAction Description :=
  ask fun d => (d.object o).map (·.describe)

def bitmap (d : Display) (o : ObjectHandle) : Except Error Bitmap := do
  let object ← d.object o
  match object.asBitmap with
  | some b => .ok b
  | none => .error (.invalidArgument (.wrongKind o object.kind .bitmap))

/-- Copy pixels of a bitmap over the first bytes of `out`; answers how many, and `out` as it is
then. -/
def bitmapBits (o : ObjectHandle) (out : ByteArray) : DisplayAction (Nat × ByteArray) :=
  ask fun d => (d.bitmap o).map fun b => (b.pixels.transferable out.size, b.pixels.store out)

/-- Overwrite the first pixels of a bitmap with bytes; answers how many. -/
def setBitmapBits (o : ObjectHandle) (bytes : ByteArray) : DisplayAction Nat := do
  let count ← ask fun d => (d.bitmap o).map (·.pixels.transferable bytes.size)
  change fun d => d.mapObject o (·.mapPixels (·.load bytes))
  return count

end Paintbox.Display

import Paintbox.Scene

/-!
# Requests

A request is an operation on a session written down as a value, so that one can speak of runs of
them.

* `Drawing` — what can be drawn through a context.
* `Request` — everything that can be asked of a session.
* `Reply` — what a request is answered by.
* `Request.perform` — **one step**: the answer, and the session afterwards.
* `Session.run` — the answers to a list of requests, and the session after the last.
-/

namespace Paintbox

/-- Something drawn through a context. -/
inductive Drawing where
  | dot (pt : Point) (color : Color)
  | line (a b : Point) (color : Color)
  | lineTo (pt : Point)
  | rectangle (r : Rect)
  | ellipse (r : Rect)
  | path (points : List Point) (closed : Bool)
  | text (pt : Point) (codes : List UInt8) (len : Option Nat)
  | fillRect (r : Rect) (brush : ObjectHandle)
  | frameRect (r : Rect) (brush : ObjectHandle)
  | invertRect (r : Rect)
  | bitTransfer (box : Display.Box) (src : ContextHandle) (sx sy : Int16) (op : RasterOp)
  | stretchTransfer (box : Display.Box) (src : ContextHandle) (srcBox : Display.Box)
      (op : RasterOp)
  | patternTransfer (box : Display.Box) (op : RasterOp)

def Drawing.perform (h : ContextHandle) : Drawing → DisplayAction Unit
  | .dot pt color => Display.dot h pt color
  | .line a b color => Display.line h a b color
  | .lineTo pt => Display.lineTo h pt
  | .rectangle r => Display.rectangle h r
  | .ellipse r => Display.ellipse h r
  | .path points closed => Display.path h points closed
  | .text pt codes len => Display.text h pt codes len
  | .fillRect r brush => Display.fillRect h r brush
  | .frameRect r brush => Display.frameRect h r brush
  | .invertRect r => Display.invertRect h r
  | .bitTransfer box src sx sy op => Display.bitTransfer h box src sx sy op
  | .stretchTransfer box src srcBox op => Display.stretchTransfer h box src srcBox op
  | .patternTransfer box op => Display.patternTransfer h box op

/-- Something asked of a session. -/
inductive Request where
  | start (heap : Heap) (chosen : Settings)
  | free
  | isOpen
  | settings
  | counts
  | openContext (window : UInt16)
  | closeContext (window : UInt16) (h : ContextHandle)
  | beginPaint (window : UInt16)
  | endPaint (window : UInt16) (session : PaintSession)
  | openMemoryContext (heap : Heap) (reference : ContextHandle)
  | window (h : ContextHandle)
  | isPainting (h : ContextHandle)
  | extent (h : ContextHandle)
  | setTextColor (h : ContextHandle) (color : Color)
  | textColor (h : ContextHandle)
  | setBackgroundColor (h : ContextHandle) (color : Color)
  | backgroundColor (h : ContextHandle)
  | setBackgroundMode (h : ContextHandle) (mode : BackgroundMode)
  | backgroundMode (h : ContextHandle)
  | position (h : ContextHandle)
  | moveTo (h : ContextHandle) (pt : Point)
  | selected (h : ContextHandle) (kind : ObjectKind)
  | createPen (style : PenStyle) (width : Int16) (color : Color)
  | createBrush (style : BrushStyle) (color : Color)
  | createFont (height width weight : Int16) (faceName : String)
  | createBitmap (heap : Heap) (width height : Int16) (planes bitsPerPixel : UInt8)
      (initial : Option ByteArray)
  | createCompatibleBitmap (heap : Heap) (h : ContextHandle) (width height : Int16)
  | selectObject (h : ContextHandle) (o : ObjectHandle)
  | deleteObject (o : ObjectHandle)
  | describe (o : ObjectHandle)
  | bitmapBits (o : ObjectHandle) (out : ByteArray)
  | setBitmapBits (o : ObjectHandle) (bytes : ByteArray)
  | draw (h : ContextHandle) (drawing : Drawing)
  | textExtent (h : ContextHandle) (codes : List UInt8) (len : Option Nat)
  | setPixel (h : ContextHandle) (pt : Point) (color : Color)
  | getPixel (h : ContextHandle) (pt : Point)
  | renderScene (heap : Heap)

/-- What a request is answered by. -/
inductive Reply where
  | done
  | flag (b : Bool)
  | settings (s : Settings)
  | counts (contexts objects : Nat)
  | context (h : ContextHandle)
  | object (o : ObjectHandle)
  | paintSession (session : PaintSession)
  | window (w : UInt16)
  | size (width height : Int)
  | color (c : Color)
  | mode (m : BackgroundMode)
  | position (pt : Point)
  | description (d : Description)
  | bits (count : Nat) (out : ByteArray)
  | count (n : Nat)

namespace Request

/-- Do an action and answer its result in the form of a reply. -/
def answer {α : Type} (s : Session) (action : DisplayAction α) (reply : α → Reply) :
    Except Error Reply × Session :=
  let (a, s) := s.perform action
  (a.map reply, s)

/-- Answer a request.  A failed start leaves the session as it was. -/
def perform (s : Session) : Request → Except Error Reply × Session
  | .start heap chosen =>
      match Session.start heap chosen with
      | .ok started => (.ok .done, started)
      | .error e => (.error e, s)
  | .free => (.ok .done, .closed)
  | .isOpen => (.ok (.flag s.isOpen), s)
  | .settings => (s.ask fun d => .ok (.settings d.settings), s)
  | .counts => (s.ask fun d => .ok (.counts d.contexts.live d.objects.live), s)
  | .openContext w => answer s (Display.openContext w) .context
  | .closeContext w h => answer s (Display.closeContext w h) fun _ => .done
  | .beginPaint w => answer s (Display.beginPaint w) .paintSession
  | .endPaint w session => answer s (Display.endPaint w session) fun _ => .done
  | .openMemoryContext heap h => answer s (Display.openMemoryContext heap h) .context
  | .window h => answer s (Display.window h) .window
  | .isPainting h => answer s (Display.isPainting h) .flag
  | .extent h => answer s (Display.extent h) fun (w, h) => .size w h
  | .setTextColor h c => answer s (Display.setTextColor h c) .color
  | .textColor h => answer s (Display.textColor h) .color
  | .setBackgroundColor h c => answer s (Display.setBackgroundColor h c) .color
  | .backgroundColor h => answer s (Display.backgroundColor h) .color
  | .setBackgroundMode h m => answer s (Display.setBackgroundMode h m) .mode
  | .backgroundMode h => answer s (Display.backgroundMode h) .mode
  | .position h => answer s (Display.position h) .position
  | .moveTo h pt => answer s (Display.moveTo h pt) .position
  | .selected h kind => answer s (Display.selected h kind) .object
  | .createPen style width color => answer s (Display.createPen style width color) .object
  | .createBrush style color => answer s (Display.createBrush style color) .object
  | .createFont height width weight name =>
      answer s (Display.createFont height width weight name) .object
  | .createBitmap heap width height planes bpp initial =>
      answer s (Display.createBitmap heap width height planes bpp initial) .object
  | .createCompatibleBitmap heap h width height =>
      answer s (Display.createCompatibleBitmap heap h width height) .object
  | .selectObject h o => answer s (Display.selectObject h o) .object
  | .deleteObject o => answer s (Display.deleteObject o) fun _ => .done
  | .describe o => answer s (Display.describe o) .description
  | .bitmapBits o out => answer s (Display.bitmapBits o out) fun (n, out) => .bits n out
  | .setBitmapBits o bytes => answer s (Display.setBitmapBits o bytes) .count
  | .draw h drawing => answer s (drawing.perform h) fun _ => .done
  | .textExtent h codes len => answer s (Display.textExtent h codes len) fun (w, h) => .size w h
  | .setPixel h pt color =>
      let (c, s) := s.setPixel h pt color
      (.ok (.color c), s)
  | .getPixel h pt => (.ok (.color (s.getPixel h pt)), s)
  | .renderScene heap => answer s (Scene.render heap) fun _ => .done

end Request

namespace Session

def run (s : Session) : List Request → List (Except Error Reply) × Session
  | [] => ([], s)
  | r :: rs =>
      let (reply, s) := r.perform s
      let (replies, s) := s.run rs
      (reply :: replies, s)

end Session

end Paintbox

import Paintbox.LogLevel
import Paintbox.Session.Request
import Paintbox.Text.Utf8

/-!
# The gateway

The gateway is one session shared by callers that pass numbers and blocks of memory and are
answered by numbers.  A handle, a count or a mode is answered as itself, success without a value as
0, and a failure as the negative number of its cause.  Calls about colors answer a color word, and
the invalid color for a failure.

* `Call` — what can be called, with the arguments as they are passed.  A block of memory that a
  caller left out is `none`.
* `Answer` — what a call gives back: a number, and the memory that it fills.
* `Gateway.numberOf`, `Gateway.colorOf` — what answers for the outcome of an action.
* `Gateway.given` — a missing block is noticed before anything else.
* `Gateway.call` — **one call** on the shared session.
-/

namespace Paintbox

/-! ## Calls -/

/-- A call on the shared session.  Handles, colors, styles and the codes of raster operations are
passed as plain numbers.  A call that needs room for a picture comes with the heap that is asked for
it. -/
inductive Call where
  | start (heap : Heap)
  | startWith (heap : Heap) (width height maxContexts maxObjects : Int32)
  | free
  | isOpen
  | setLogLevel (level : Int32)
  | openContext (window : UInt16)
  | closeContext (window h : UInt16)
  | beginPaint (window : UInt16) (session : Option PaintSession)
  | endPaint (window : UInt16) (session : Option PaintSession)
  | openMemoryContext (heap : Heap) (reference : UInt16)
  | setTextColor (h : UInt16) (color : UInt32)
  | setBackgroundColor (h : UInt16) (color : UInt32)
  | setBackgroundMode (h : UInt16) (mode : Int32)
  | createPen (style : Int32) (width : Int16) (color : UInt32)
  | createBrush (style : Int32) (color : UInt32)
  | createFont (height width weight : Int16) (faceName : Option (List UInt8))
  | createBitmap (heap : Heap) (width height : Int16) (planes bitsPerPixel : UInt8)
      (bits : Option ByteArray)
  | createCompatibleBitmap (heap : Heap) (h : UInt16) (width height : Int16)
  | selectObject (h o : UInt16)
  | deleteObject (o : UInt16)
  | bitmapBits (o : UInt16) (out : Option ByteArray)
  | setBitmapBits (o : UInt16) (bytes : Option ByteArray)
  | moveTo (h : UInt16) (x y : Int16)
  | lineTo (h : UInt16) (x y : Int16)
  | line (h : UInt16) (x₀ y₀ x₁ y₁ : Int16) (color : UInt32)
  | rectangle (h : UInt16) (left top right bottom : Int16)
  | ellipse (h : UInt16) (left top right bottom : Int16)
  | polyline (h : UInt16) (points : Option (List Point)) (count : Int32)
  | polygon (h : UInt16) (points : Option (List Point)) (count : Int32)
  | text (h : UInt16) (x y : Int16) (memory : Option (List UInt8)) (len : Int32)
  | textExtent (h : UInt16) (memory : Option (List UInt8)) (len : Int32)
  | setPixel (h : UInt16) (x y : Int16) (color : UInt32)
  | getPixel (h : UInt16) (x y : Int16)
  | fillRect (h : UInt16) (rect : Option Rect) (brush : UInt16)
  | frameRect (h : UInt16) (rect : Option Rect) (brush : UInt16)
  | invertRect (h : UInt16) (rect : Option Rect)
  | bitTransfer (h : UInt16) (x y width height : Int16) (src : UInt16) (sx sy : Int16)
      (code : UInt32)
  | stretchTransfer (h : UInt16) (x y width height : Int16) (src : UInt16)
      (sx sy srcWidth srcHeight : Int16) (code : UInt32)
  | patternTransfer (h : UInt16) (x y width height : Int16) (code : UInt32)
  | copyScreen (out : Option ByteArray)

/-- What a call gives back. -/
inductive Answer where
  | nothing
  | code (n : Int)
  | color (c : Color)
  | filter (f : LogFilter)
  /-- The record that the caller passed, as it is after the call. -/
  | paint (n : Int) (session : PaintSession)
  /-- The memory that the caller passed, as it is after the call. -/
  | filled (n : Int) (out : ByteArray)

namespace Gateway

/-! ## Reading arguments -/

/-- The bytes of a text and the length given with them.  With a negative number no length is given:
the text ends before its first zero byte. -/
def textIn (memory : List UInt8) (len : Int32) : List UInt8 × Option Nat :=
  if len.toInt < 0 then (memory.takeWhile (· ≠ 0), none)
  else (memory.take len.toInt.toNat, some len.toInt.toNat)

/-- The name in a block of memory, which ends before its first zero byte. -/
def nameIn (memory : List UInt8) : String := Utf8.toString (memory.takeWhile (· ≠ 0))

/-- The points in a block of memory, of which there are none if their number is negative. -/
def pointsIn (memory : List Point) (count : Int32) : List Point := memory.take count.toInt.toNat

/-! ## Numbers of outcomes -/

def maxCode : Int := 0x7FFFFFFF

/-- The number for what an action came to: a value by its own number, a failure by that of its
cause. -/
def numberOf {α : Type} (number : α → Int) : Except Error α → Int
  | .ok a => number a
  | .error e => e.code

/-- Success, whatever it was that an action answered. -/
def status {α : Type} (_ : α) : Int := 0

def contextCode (h : ContextHandle) : Int := h.code.toNat

def objectCode (o : ObjectHandle) : Int := o.code.toNat

/-- A count, cut off at the largest number that can be answered. -/
def countCode (n : Nat) : Int := if n ≤ maxCode then n else maxCode

def colorOf : Except Error Color → Color
  | .ok c => c
  | .error _ => .invalid

/-! ## Calling -/

/-- Do an action and answer by a number. -/
def coded {α : Type} (s : Session) (number : α → Int) (action : DisplayAction α) :
    Answer × Session :=
  let (outcome, s) := s.perform action
  (.code (numberOf number outcome), s)

/-- Do an action and answer by a color. -/
def colored (s : Session) (action : DisplayAction Color) : Answer × Session :=
  let (outcome, s) := s.perform action
  (.color (colorOf outcome), s)

/-- Go on with a block of memory, unless the caller has left it out. -/
def given {β : Type} (s : Session) (block : Option β) (go : β → Answer × Session) :
    Answer × Session :=
  match block with
  | some b => go b
  | none => (.code Error.nullArgument.code, s)

/-- Start the shared session, unless there is a display already or a capacity is negative. -/
def start (s : Session) (heap : Heap) (width height maxContexts maxObjects : Int) :
    Answer × Session :=
  if s.isOpen then
    (.code (Error.invalidArgument .alreadyOpen).code, s)
  else if maxContexts < 0 ∨ maxObjects < 0 then
    (.code (Error.invalidArgument .negativeCapacity).code, s)
  else
    match Session.start heap ⟨width, height, maxContexts.toNat, maxObjects.toNat⟩ with
    | .ok started => (.code 0, started)
    | .error e => (.code e.code, s)

def call (s : Session) : Call → Answer × Session
  | .start heap =>
      start s heap Settings.standard.width Settings.standard.height Settings.standard.maxContexts
        Settings.standard.maxObjects
  | .startWith heap width height maxContexts maxObjects =>
      start s heap width.toInt height.toInt maxContexts.toInt maxObjects.toInt
  | .free => (.nothing, .closed)
  | .isOpen => (.code (if s.isOpen then 1 else 0), s)
  | .setLogLevel level => (.filter (LogLevel.ofInt level.toInt).filter, s)
  | .openContext window => coded s contextCode (Display.openContext window)
  | .closeContext window h => coded s status (Display.closeContext window ⟨h⟩)
  | .beginPaint window session =>
      given s session fun record =>
        match s.perform (Display.beginPaint window) with
        | (.ok started, s) => (.paint (contextCode started.context) started, s)
        | (.error e, s) => (.paint e.code record, s)
  | .endPaint window session =>
      given s session fun record => coded s status (Display.endPaint window record)
  | .openMemoryContext heap reference =>
      coded s contextCode (Display.openMemoryContext heap ⟨reference⟩)
  | .setTextColor h color => colored s (Display.setTextColor ⟨h⟩ ⟨color⟩)
  | .setBackgroundColor h color => colored s (Display.setBackgroundColor ⟨h⟩ ⟨color⟩)
  | .setBackgroundMode h mode =>
      match BackgroundMode.ofInt? mode.toInt with
      | some m => coded s BackgroundMode.toInt (Display.setBackgroundMode ⟨h⟩ m)
      | none => (.code (Error.invalidArgument (.noSuchMode mode.toInt)).code, s)
  | .createPen style width color =>
      coded s objectCode (Display.createPen (.ofInt style.toInt) width ⟨color⟩)
  | .createBrush style color =>
      coded s objectCode (Display.createBrush (.ofInt style.toInt) ⟨color⟩)
  | .createFont height width weight faceName =>
      given s faceName fun memory =>
        coded s objectCode (Display.createFont height width weight (nameIn memory))
  | .createBitmap heap width height planes bitsPerPixel bits =>
      coded s objectCode (Display.createBitmap heap width height planes bitsPerPixel bits)
  | .createCompatibleBitmap heap h width height =>
      coded s objectCode (Display.createCompatibleBitmap heap ⟨h⟩ width height)
  | .selectObject h o => coded s objectCode (Display.selectObject ⟨h⟩ ⟨o⟩)
  | .deleteObject o => coded s status (Display.deleteObject ⟨o⟩)
  | .bitmapBits o out =>
      given s out fun block =>
        match s.perform (Display.bitmapBits ⟨o⟩ block) with
        | (.ok (count, written), s) => (.filled (countCode count) written, s)
        | (.error e, s) => (.filled e.code block, s)
  | .setBitmapBits o bytes =>
      given s bytes fun block => coded s countCode (Display.setBitmapBits ⟨o⟩ block)
  | .moveTo h x y => coded s status (Display.moveTo ⟨h⟩ ⟨x, y⟩)
  | .lineTo h x y => coded s status (Display.lineTo ⟨h⟩ ⟨x, y⟩)
  | .line h x₀ y₀ x₁ y₁ color =>
      coded s status (Display.line ⟨h⟩ ⟨x₀, y₀⟩ ⟨x₁, y₁⟩ ⟨color⟩)
  | .rectangle h left top right bottom =>
      coded s status (Display.rectangle ⟨h⟩ ⟨left, top, right, bottom⟩)
  | .ellipse h left top right bottom =>
      coded s status (Display.ellipse ⟨h⟩ ⟨left, top, right, bottom⟩)
  | .polyline h points count =>
      given s points fun memory =>
        coded s status (Display.path ⟨h⟩ (pointsIn memory count) false)
  | .polygon h points count =>
      given s points fun memory =>
        coded s status (Display.path ⟨h⟩ (pointsIn memory count) true)
  | .text h x y memory len =>
      given s memory fun block =>
        let (codes, length) := textIn block len
        coded s status (Display.text ⟨h⟩ ⟨x, y⟩ codes length)
  | .textExtent h memory len =>
      given s memory fun block =>
        let (codes, length) := textIn block len
        coded s (·.1) (Display.textExtent ⟨h⟩ codes length)
  | .setPixel h x y color =>
      let (c, s) := s.setPixel ⟨h⟩ ⟨x, y⟩ ⟨color⟩
      (.color c, s)
  | .getPixel h x y => (.color (s.getPixel ⟨h⟩ ⟨x, y⟩), s)
  | .fillRect h rect brush =>
      given s rect fun r => coded s status (Display.fillRect ⟨h⟩ r ⟨brush⟩)
  | .frameRect h rect brush =>
      given s rect fun r => coded s status (Display.frameRect ⟨h⟩ r ⟨brush⟩)
  | .invertRect h rect => given s rect fun r => coded s status (Display.invertRect ⟨h⟩ r)
  | .bitTransfer h x y width height src sx sy code =>
      coded s status
        (Display.bitTransfer ⟨h⟩ ⟨x, y, width, height⟩ ⟨src⟩ sx sy (.ofCode code))
  | .stretchTransfer h x y width height src sx sy srcWidth srcHeight code =>
      coded s status
        (Display.stretchTransfer ⟨h⟩ ⟨x, y, width, height⟩ ⟨src⟩ ⟨sx, sy, srcWidth, srcHeight⟩
          (.ofCode code))
  | .patternTransfer h x y width height code =>
      coded s status (Display.patternTransfer ⟨h⟩ ⟨x, y, width, height⟩ (.ofCode code))
  | .copyScreen out =>
      given s out fun block =>
        match s.ask fun d => .ok d.screen with
        | .ok p => (.filled (countCode (p.transferable block.size)) (p.store block), s)
        | .error e => (.filled e.code block, s)

end Gateway

end Paintbox

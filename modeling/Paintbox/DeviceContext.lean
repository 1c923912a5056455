import Paintbox.Color
import Paintbox.Geometry
import Paintbox.Handle
import Paintbox.ObjectKind
import Paintbox.Pixmap

/-!
# Device contexts

A device context is what drawing goes through: it says where drawing lands and with what.

* `BackgroundMode` — transparent or filled, known to callers as 1 and 2.
* `Selection` — the handle in each of the four slots; a handle there may be dead by now.
* `DeviceContext` — the registers of a context and, for a memory context, its private surface.
* `DeviceContext.fresh` — a context as it is when it is opened.
* `PaintSession` — what the start of a paint session answers.
-/

namespace Paintbox

/-- How the cells behind text are meant to be treated. -/
inductive BackgroundMode where
  | transparent
  | filled
deriving DecidableEq

namespace BackgroundMode

def ofInt? : Int → Option BackgroundMode
  | 1 => some transparent
  | 2 => some filled
  | _ => none

def toInt : BackgroundMode → Int
  | transparent => 1
  | filled => 2

def label : BackgroundMode → String
  | transparent => "Transparent"
  | filled => "Opaque"

@[simp] theorem ofInt?_toInt (m : BackgroundMode) : ofInt? m.toInt = some m := by
  cases m <;> rfl

end BackgroundMode

/-- The handles selected into a context, one for each kind of object. -/
structure Selection where
  pen : ObjectHandle
  brush : ObjectHandle
  font : ObjectHandle
  bitmap : ObjectHandle
deriving DecidableEq

namespace Selection

def none : Selection := ⟨.null, .null, .null, .null⟩

def get (s : Selection) : ObjectKind → ObjectHandle
  | .pen => s.pen
  | .brush => s.brush
  | .font => s.font
  | .bitmap => s.bitmap

/-- The selection with another handle in the slot of a kind. -/
def set (s : Selection) : ObjectKind → ObjectHandle → Selection
  | .pen, h => { s with pen := h }
  | .brush, h => { s with brush := h }
  | .font, h => { s with font := h }
  | .bitmap, h => { s with bitmap := h }

/-- A slot holds what was put there, and the other slots what they held. -/
theorem get_set (s : Selection) (k k' : ObjectKind) (h : ObjectHandle) :
    (s.set k h).get k' = if k' = k then h else s.get k' := by
  cases k <;> cases k' <;> rfl

end Selection

/-- A device context. -/
structure DeviceContext where
  /-- The window it was opened for; zero is the screen itself. -/
  window : UInt16
  position : Point
  selection : Selection
  textColor : Color
  backgroundColor : Color
  backgroundMode : BackgroundMode
  /-- Was it opened by a paint session? -/
  painting : Bool
  /-- The private surface of a memory context.  Any other context draws on the screen. -/
  surface : Option Pixmap
deriving DecidableEq

namespace DeviceContext

/-- A context as it is opened for a window, drawing on the screen. -/
def fresh (window : UInt16) : DeviceContext where
  window := window
  position := .origin
  selection := .none
  textColor := .white
  backgroundColor := .black
  backgroundMode := .filled
  painting := false
  surface := none

def onSurface (surface : Pixmap) : DeviceContext :=
  { fresh 0 with surface := some surface }

def isMemory (dc : DeviceContext) : Bool := dc.surface.isSome

end DeviceContext

/-- What the start of a paint session answers. -/
structure PaintSession where
  context : ContextHandle
  /-- Is the background to be erased? -/
  erase : Bool
  /-- The part of the window to be painted. -/
  update : Rect
deriving DecidableEq

namespace PaintSession

/-- The record before any session has been started. -/
def zero : PaintSession := ⟨.null, false, .zero⟩

end PaintSession

end Paintbox

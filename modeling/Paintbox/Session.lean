import Paintbox.Display.Contexts
import Paintbox.Display.Drawing
import Paintbox.Display.Objects

/-!
# Sessions

A session holds a display or none.  Without one every action is refused before anything about it
is looked at.

* `Session`, `Session.closed`, `Session.start` — with a display and without.
* `Session.perform` — **do an action**: it is refused without a display, and otherwise the session
  goes on with the display that the action leaves.
* `Session.setPixel`, `Session.getPixel` — single pixels, where every failure is answered by the
  invalid color.
-/

namespace Paintbox

/-- A display, if there is one. -/
structure Session where
  display : Option Display

namespace Session

def closed : Session := ⟨none⟩

/-- A session with a new display of the given settings. -/
def start (heap : Heap) (settings : Settings) : Except Error Session :=
  (Display.open heap settings).map fun d => ⟨some d⟩

def isOpen (s : Session) : Bool := s.display.isSome

/-- Do an action on the display. -/
def perform {α : Type} (s : Session) (action : DisplayAction α) : Except Error α × Session :=
  match s with
  | ⟨none⟩ => (.error .notInitialized, ⟨none⟩)
  | ⟨some d⟩ =>
      let (answer, d) := action.run.run d
      (answer, ⟨some d⟩)

def ask {α : Type} (s : Session) (question : Display → Except Error α) : Except Error α :=
  match s.display with
  | none => .error .notInitialized
  | some d => question d

/-- Write one pixel and answer its new color, or the invalid color if it could not be written. -/
def setPixel (s : Session) (h : ContextHandle) (pt : Point) (color : Color) : Color × Session :=
  match s.perform (Display.writePixel h pt color) with
  | (.ok true, s) => (.ofIndex color.index, s)
  | (_, s) => (.invalid, s)

/-- Read one pixel, or answer the invalid color if there is none to read. -/
def getPixel (s : Session) (h : ContextHandle) (pt : Point) : Color :=
  match s.ask fun d => d.surface h with
  | .ok p => ((p.get? pt.x.toInt pt.y.toInt).map Color.ofIndex).getD .invalid
  | .error _ => .invalid

end Session

end Paintbox

import Paintbox.DeviceContext
import Paintbox.GraphicsObject
import Paintbox.Registry

/-!
# The display

A display is a screen, the device contexts open on it and the graphics objects made for it.  What
callers do to it is a `DisplayAction`: it may fail, and it leaves a display behind in either case.

* `Display` — the state, and `Display.open` — the state it starts in.
* `Display.context`, `Display.object`, `Display.surface` — what a handle denotes, or why nothing.
* `Inks`, `Display.inks` — the palette indices a context draws with right now.
* `Display.paint` — change the picture a context draws on, and nothing else.
* `DisplayAction`, with its two primitives: `DisplayAction.ask` may fail and changes nothing,
  `DisplayAction.change` never fails.
-/

namespace Paintbox

/-- A screen with its device contexts and graphics objects. -/
structure Display where
  settings : Settings
  /-- The picture that every context without a surface of its own draws on. -/
  screen : Pixmap
  contexts : Registry DeviceContext
  objects : Registry GraphicsObject

/-- The palette indices that drawing through a context uses. -/
structure Inks where
  /-- For outlines; `none` draws no outline. -/
  pen : Option UInt8
  /-- For interiors; `none` fills nothing. -/
  brush : Option UInt8
  /-- For the pattern operand of a transfer. -/
  pattern : UInt8
  /-- For text. -/
  text : UInt8
deriving DecidableEq

namespace Inks

/-- What outlines are drawn in when no pen is selected. -/
def defaultPen : UInt8 := Color.white.index

/-- What interiors are filled with when no brush is selected. -/
def defaultBrush : UInt8 := Color.black.index

end Inks

namespace Display

/-- A display of the given settings: a blank screen, no contexts, no objects. -/
def «open» (heap : Heap) (settings : Settings) : Except Error Display :=
  match settings.check with
  | .error why => .error (.invalidArgument (.setting why))
  | .ok () =>
      match Pixmap.create heap settings.width settings.height with
      | .error e => .error e
      | .ok screen =>
          .ok {
            settings := settings
            screen := screen
            contexts := .empty .contexts settings.maxContexts
            objects := .empty .objects settings.maxObjects }

/-! ## What handles denote -/

def context (d : Display) (h : ContextHandle) : Except Error DeviceContext :=
  d.contexts.resolve h.code

def object (d : Display) (o : ObjectHandle) : Except Error GraphicsObject :=
  d.objects.resolve o.code

/-- The picture that a context draws on: its own surface, or else the screen. -/
def target (d : Display) (dc : DeviceContext) : Pixmap := dc.surface.getD d.screen

/-- The picture that the context under a handle draws on. -/
def surface (d : Display) (h : ContextHandle) : Except Error Pixmap :=
  (d.context h).map d.target

def pen? (d : Display) (o : ObjectHandle) : Option Pen := (d.objects.get? o.code).bind (·.asPen)

def brush? (d : Display) (o : ObjectHandle) : Option Brush :=
  (d.objects.get? o.code).bind (·.asBrush)

/-- What drawing through a context uses.  A slot that holds no live pen or brush counts as holding
the default one; a pen or brush of the null style draws nothing, but a null brush still has a color
for the pattern operand. -/
def inks (d : Display) (dc : DeviceContext) : Inks where
  pen := ((d.pen? dc.selection.pen).map Pen.ink).getD (some Inks.defaultPen)
  brush := ((d.brush? dc.selection.brush).map Brush.ink).getD (some Inks.defaultBrush)
  pattern := ((d.brush? dc.selection.brush).map (·.color.index)).getD Inks.defaultBrush
  text := dc.textColor.index

/-! ## Changes that cannot fail -/

/-- Change the registers of the context under a handle. -/
def mapContext (d : Display) (h : ContextHandle) (f : DeviceContext → DeviceContext) : Display :=
  { d with contexts := d.contexts.modify h.code f }

def mapObject (d : Display) (o : ObjectHandle) (f : GraphicsObject → GraphicsObject) : Display :=
  { d with objects := d.objects.modify o.code f }

/-- Change the picture that the context under a handle draws on, and nothing else. -/
def paint (d : Display) (h : ContextHandle) (f : Pixmap → Pixmap) : Display :=
  match (d.contexts.get? h.code).map DeviceContext.isMemory with
  | none => d
  | some true => d.mapContext h fun dc => { dc with surface := dc.surface.map f }
  | some false => { d with screen := f d.screen }

end Display

/-! ## Actions -/

/-- Something done to a display.  It answers or fails, and the display lives on in either case. -/
abbrev DisplayAction (α : Type) := ExceptT Error (StateM Display) α

namespace DisplayAction

variable {α : Type}

/-- Read something off the display, which may fail and changes nothing. -/
def ask (question : Display → Except Error α) : DisplayAction α :=
  ExceptT.mk fun d => (question d, d)

def change (f : Display → Display) : DisplayAction Unit :=
  ExceptT.mk fun d => (.ok (), f d)

end DisplayAction

end Paintbox

import Paintbox.Display

/-!
# Opening contexts and setting their registers

* `Display.openContext`, `Display.closeContext` — a context on the screen, and the end of any
  context.
* `Display.openMemoryContext` — a context on a private surface as large as another one's.
* `Display.exchange` — **the one way registers change**: read something off a context, change the
  context, answer what was read.
* `Display.selectObject` and the setters — its instances.
* `Display.register` and the getters — what the registers hold.
* `Display.beginPaint`, `Display.endPaint` — a paint session.
-/

namespace Paintbox.Display

open DisplayAction

/-! ## Opening and closing -/

def addContext (dc : DeviceContext) : DisplayAction ContextHandle :=
  ExceptT.mk fun d =>
    let (answer, contexts) := d.contexts.insert dc
    (answer.map ContextHandle.mk, { d with contexts := contexts })

/-- Open a context for a window, drawing on the screen. -/
def openContext (window : UInt16) : DisplayAction ContextHandle := addContext (.fresh window)

/-- Close a context; a private surface goes with it.  Any window may close it. -/
def closeContext (_window : UInt16) (h : ContextHandle) : DisplayAction Unit :=
  ExceptT.mk fun d =>
    let (answer, contexts) := d.contexts.release h.code
    (answer.map fun _ => (), { d with contexts := contexts })

/-- Width and height of the picture that the context under a handle draws on; the null handle
stands for the screen. -/
def referenceSize (d : Display) (h : ContextHandle) : Except Error (Nat × Nat) :=
  if h.isNull then
    .ok (d.screen.width, d.screen.height)
  else
    (d.surface h).map fun p => (p.width, p.height)

/-- Open a memory context whose surface is blank and as large as the reference. -/
def openMemoryContext (heap : Heap) (reference : ContextHandle) : DisplayAction ContextHandle := do
  let surface ← ask fun d => do
    let (width, height) ← d.referenceSize reference
    Pixmap.create heap width height
  addContext (.onSurface surface)

/-! ## Registers -/

/-- What a register of the context under a handle holds. -/
def register {α : Type} (h : ContextHandle) (get : DeviceContext → α) : DisplayAction α :=
  ask fun d => (d.context h).map get

/-- Change the context under a handle and answer what a register held before. -/
def exchange {α : Type} (h : ContextHandle) (get : DeviceContext → α)
    (set : DeviceContext → DeviceContext) : DisplayAction α := do
  let old ← register h get
  change fun d => d.mapContext h set
  return old

def window (h : ContextHandle) : DisplayAction UInt16 := register h (·.window)

def isPainting (h : ContextHandle) : DisplayAction Bool := register h (·.painting)

def extent (h : ContextHandle) : DisplayAction (Nat × Nat) :=
  ask fun d => (d.surface h).map fun p => (p.width, p.height)

def textColor (h : ContextHandle) : DisplayAction Color := register h (·.textColor)

/-- Set the color of text and answer the one before. -/
def setTextColor (h : ContextHandle) (c : Color) : DisplayAction Color :=
  exchange h (·.textColor) fun dc => { dc with textColor := c }

def backgroundColor (h : ContextHandle) : DisplayAction Color := register h (·.backgroundColor)

/-- Set the background color and answer the one before. -/
def setBackgroundColor (h : ContextHandle) (c : Color) : DisplayAction Color :=
  exchange h (·.backgroundColor) fun dc => { dc with backgroundColor := c }

def backgroundMode (h : ContextHandle) : DisplayAction BackgroundMode :=
  register h (·.backgroundMode)

/-- Set the background mode and answer the one before. -/
def setBackgroundMode (h : ContextHandle) (m : BackgroundMode) : DisplayAction BackgroundMode :=
  exchange h (·.backgroundMode) fun dc => { dc with backgroundMode := m }

/-- The current position. -/
def position (h : ContextHandle) : DisplayAction Point := register h (·.position)

/-- Move the current position and answer the one before. -/
def moveTo (h : ContextHandle) (p : Point) : DisplayAction Point :=
  exchange h (·.position) fun dc => { dc with position := p }

/-- The handle in a slot, which may be dead by now. -/
def selected (h : ContextHandle) (kind : ObjectKind) : DisplayAction ObjectHandle :=
  register h (·.selection.get kind)

/-- Select an object into the slot of its kind and answer the handle that was there. -/
def selectObject (h : ContextHandle) (o : ObjectHandle) : DisplayAction ObjectHandle := do
  let _ ← ask fun d => d.context h
  let kind ← ask fun d => (d.object o).map (·.kind)
  exchange h (·.selection.get kind) fun dc => { dc with selection := dc.selection.set kind o }

/-! ## Paint sessions -/

/-- Start a paint session: open a context for the window, look it up again and mark it as
painting. -/
def beginPaint (window : UInt16) : DisplayAction PaintSession := do
  let h ← openContext window
  let _ ← exchange h (·.painting) fun dc => { dc with painting := true }
  return { context := h, erase := true, update := .zero }

def endPaint (window : UInt16) (session : PaintSession) : DisplayAction Unit :=
  closeContext window session.context

end Paintbox.Display

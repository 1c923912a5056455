import Paintbox.Session

/-!
# The demo scene

A picture that shows every kind of drawing once: a panel, an ellipse, a triangle, a line of text,
a scaled checkerboard, an inverted corner and a frame.  All places and sizes are fractions of the
screen, rounded toward zero.

* `Scene.render` — draws the scene and gives back what it opened and made.
* `Scene.checkerboard` — a memory context with two light and two dark squares.
-/

namespace Paintbox.Scene

open Display

def background : Color := .ofIndex 0x20

def panel : Color := .ofIndex 0x50

def outline : Color := .ofIndex 0xE0

def accent : Color := .ofIndex 0xA0

def tile : Int16 := 8

def caption : List UInt8 := "gdi16 demo".toUTF8.toList

def side (n : Nat) : Int16 := Int16.ofNat (min n 32767)

/-- A memory context whose first 8 by 8 pixels are a checkerboard of four squares. -/
def checkerboard (heap : Heap) (reference : ContextHandle) : DisplayAction ContextHandle := do
  let tiles ← openMemoryContext heap reference
  let half := tile / 2
  patternTransfer tiles ⟨0, 0, tile, tile⟩ .whiteness
  patternTransfer tiles ⟨0, 0, half, half⟩ .blackness
  patternTransfer tiles ⟨half, half, half, half⟩ .blackness
  return tiles

/-- Draw the scene on the screen, through window 1.  When it has been drawn, the contexts it opened
are closed and the objects it made are deleted. -/
def render (heap : Heap) : DisplayAction Unit := do
  let (w, h) ← DisplayAction.ask fun d => .ok (side d.screen.width, side d.screen.height)
  let dc ← openContext 1
  let ground ← createSolidBrush background
  fillRect dc ⟨0, 0, w, h⟩ ground
  let pen ← createPen .solid 1 outline
  let brush ← createSolidBrush panel
  let _ ← selectObject dc pen
  let _ ← selectObject dc brush
  rectangle dc ⟨w / 16, h / 16, w / 2, h / 2⟩
  ellipse dc ⟨w / 2, h / 8, w - w / 16, h / 2⟩
  path dc
    [⟨w / 8, h - h / 8⟩, ⟨w / 4, h / 2 + h / 8⟩, ⟨w / 2 - w / 16, h - h / 8⟩] true
  let _ ← setTextColor dc accent
  text dc ⟨w / 16 + 4, h / 16 + 4⟩ caption none
  let tiles ← checkerboard heap dc
  stretchTransfer dc ⟨w / 2, h / 2 + h / 8, w / 4, h / 4⟩ tiles ⟨0, 0, tile, tile⟩ .srcCopy
  closeContext 0 tiles
  invertRect dc ⟨w - w / 8, 0, w, h / 16⟩
  let hollow ← createBrush .null background
  let _ ← selectObject dc hollow
  rectangle dc ⟨0, 0, w, h⟩
  closeContext 1 dc
  deleteObject ground
  deleteObject pen
  deleteObject brush
  deleteObject hollow

end Paintbox.Scene

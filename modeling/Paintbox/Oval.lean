import Paintbox.Pixmap

/-!
# Ovals

An oval is the ellipse inscribed in a box, drawn by the midpoint method.  One arc, from the top of
the first quadrant to its right end, is walked in offsets from the center; each offset stands for
four points, one in every quadrant.

The walk has two parts.  While the curve is **flat** every step goes one column to the right, and a
decision value tells whether it also goes one row down.  Once it is **steep** every step goes one
row down, and the decision value tells whether it also goes one column to the right.

* `Oval` — center and radii; `Oval.inscribed` finds them for a box.
* `Oval.Walker` — the offset, the two gradients and the decision value.
* `Oval.flatStep`, `Oval.turn`, `Oval.steepStep` — one step of either part, and the change over.
* `Oval.fold` — the walk along the arc, and `Oval.arc` — its offsets in order.
* `Oval.mirror` — the four points of an offset.
* `Pixmap.oval` — the drawing.
-/

namespace Paintbox

/-- An ellipse with axes along the coordinate axes. -/
structure Oval where
  cx : Int
  cy : Int
  rx : Int
  ry : Int
deriving DecidableEq

namespace Oval

/-- The oval of a box.  Center and radii are halves, rounded toward zero. -/
def inscribed (left top right bottom : Int) : Oval where
  cx := (left + right).tdiv 2
  cy := (top + bottom).tdiv 2
  rx := (right - left).tdiv 2
  ry := (bottom - top).tdiv 2

def rx2 (o : Oval) : Int := o.rx * o.rx

def ry2 (o : Oval) : Int := o.ry * o.ry

/-- Is one of the radii so small that only the center is drawn? -/
def Degenerate (o : Oval) : Prop := o.rx ≤ 0 ∨ o.ry ≤ 0

instance (o : Oval) : Decidable o.Degenerate :=
  inferInstanceAs (Decidable (o.rx ≤ 0 ∨ o.ry ≤ 0))

/-! ## The walker -/

/-- Where the walk along the arc stands. -/
structure Walker where
  /-- The offset from the center. -/
  x : Int
  y : Int
  /-- The gradient along `x`, twice the squared vertical radius per column. -/
  px : Int
  /-- The gradient along `y`, twice the squared horizontal radius per row. -/
  py : Int
  /-- The decision value: on which side of the curve the next midpoint lies. -/
  p : Int
deriving DecidableEq

def top (o : Oval) : Walker where
  x := 0
  y := o.ry
  px := 0
  py := 2 * o.rx2 * o.ry
  p := o.ry2 - o.rx2 * o.ry + o.rx2 / 4

def flatStep (o : Oval) (w : Walker) : Walker :=
  let px := w.px + 2 * o.ry2
  if w.p < 0 then
    { x := w.x + 1, y := w.y, px := px, py := w.py, p := w.p + (o.ry2 + px) }
  else
    let py := w.py - 2 * o.rx2
    { x := w.x + 1, y := w.y - 1, px := px, py := py, p := w.p + (o.ry2 + px - py) }

/-- The change over to the steep part: a fresh decision value for the same place. -/
def turn (o : Oval) (w : Walker) : Walker :=
  { w with
    p := o.ry2 * (2 * w.x + 1) * (2 * w.x + 1) / 4 + o.rx2 * (w.y - 1) * (w.y - 1)
      - o.rx2 * o.ry2 }

def steepStep (o : Oval) (w : Walker) : Walker :=
  let py := w.py - 2 * o.rx2
  if w.p > 0 then
    { x := w.x, y := w.y - 1, px := w.px, py := py, p := w.p + (o.rx2 - py) }
  else
    let px := w.px + 2 * o.ry2
    { x := w.x + 1, y := w.y - 1, px := px, py := py, p := w.p + (o.rx2 - py + px) }

/-! ## The walk -/

/-- The flat part: visit offsets while the gradient along `x` is the smaller one, for at most
`fuel` steps.  The walker that is left stands where the steep part starts. -/
@[specialize] def foldFlat {β : Type} (o : Oval) (f : β → Int → Int → β) :
    (fuel : Nat) → Walker → β → Walker × β
  | 0, w, b => (w, b)
  | fuel + 1, w, b =>
      if w.px < w.py then foldFlat o f fuel (o.flatStep w) (f b w.x w.y) else (w, b)

/-- The steep part: visit `count` offsets, one for each row. -/
@[specialize] def foldSteep {β : Type} (o : Oval) (f : β → Int → Int → β) :
    (count : Nat) → Walker → β → β
  | 0, _, b => b
  | count + 1, w, b => foldSteep o f count (o.steepStep w) (f b w.x w.y)

/-- Visit all offsets of the arc.  The gap between the gradients shrinks in every flat step, so it
bounds their number; the steep part ends with the row of the center. -/
@[inline] def fold {β : Type} (o : Oval) (f : β → Int → Int → β) (b : β) : β :=
  let (w, b) := o.foldFlat f (o.top.py - o.top.px).toNat o.top b
  o.foldSteep f (w.y + 1).toNat (o.turn w) b

/-- The offsets of the arc in the order of the walk. -/
def arc (o : Oval) : List (Int × Int) :=
  (o.fold (fun visited x y => (x, y) :: visited) []).reverse

/-- The four points that an offset stands for. -/
def mirror (o : Oval) (x y : Int) : List (Int × Int) :=
  [(o.cx + x, o.cy + y), (o.cx - x, o.cy + y), (o.cx + x, o.cy - y), (o.cx - x, o.cy - y)]

/-- The points of the oval in the order in which they are drawn.  A degenerate oval is its
center. -/
def points (o : Oval) : List (Int × Int) :=
  if o.Degenerate then [(o.cx, o.cy)] else o.arc.flatMap fun (x, y) => o.mirror x y

end Oval

def Pixmap.oval (p : Pixmap) (o : Oval) (v : UInt8) : Pixmap :=
  if o.Degenerate then p.put o.cx o.cy v
  else o.fold (fun p x y => (o.mirror x y).foldl (fun p q => p.put q.1 q.2 v) p) p

end Paintbox

import Paintbox.Pixmap

/-!
# Line segments

A segment is drawn from its first to its second endpoint, both included, by stepping along the
longer axis and letting an error term decide when to step along the shorter one as well.

* `Segment` — the two endpoints on the integer plane.
* `Segment.Head` — the drawing head: where it is and the error it has run up.
* `Segment.advance` — one step of the head.
* `Segment.fold` — **the walk**: it visits points until the head stands on the second endpoint.
* `Segment.points` — the visited points in order.
* `Pixmap.line` — the walk that writes a color at each of them.
-/

namespace Paintbox

/-- A directed line segment on the integer plane. -/
structure Segment where
  x0 : Int
  y0 : Int
  x1 : Int
  y1 : Int
deriving DecidableEq

namespace Segment

def dx (s : Segment) : Int := (s.x1 - s.x0).natAbs

def dy (s : Segment) : Int := (s.y1 - s.y0).natAbs

/-- The horizontal direction.  It is never used when the segment is vertical. -/
def stepX (s : Segment) : Int := if s.x0 < s.x1 then 1 else -1

/-- The vertical direction.  It is never used when the segment is horizontal. -/
def stepY (s : Segment) : Int := if s.y0 < s.y1 then 1 else -1

/-- The number of steps from the first to the second endpoint, one for each unit of the longer
axis. -/
def steps (s : Segment) : Nat := max (s.x1 - s.x0).natAbs (s.y1 - s.y0).natAbs

/-! ## The drawing head -/

/-- The drawing head. -/
structure Head where
  x : Int
  y : Int
  /-- How far the walk has drifted from the ideal line, scaled by both extents. -/
  err : Int
deriving DecidableEq

def start (s : Segment) : Head := ⟨s.x0, s.y0, s.dx - s.dy⟩

/-- One step.  Both axes are decided by the error as it was before the step. -/
def advance (s : Segment) (h : Head) : Head where
  x := if -s.dy < 2 * h.err then h.x + s.stepX else h.x
  y := if 2 * h.err < s.dx then h.y + s.stepY else h.y
  err := h.err - (if -s.dy < 2 * h.err then s.dy else 0) + (if 2 * h.err < s.dx then s.dx else 0)

def Arrived (s : Segment) (h : Head) : Prop := h.x = s.x1 ∧ h.y = s.y1

instance (s : Segment) (h : Head) : Decidable (s.Arrived h) :=
  inferInstanceAs (Decidable (h.x = s.x1 ∧ h.y = s.y1))

/-! ## The walk -/

/-- Visit the point under the head and go on until it stands on the second endpoint, for at most
`fuel` steps. -/
@[specialize] def foldFrom {β : Type} (s : Segment) (f : β → Int → Int → β) :
    (fuel : Nat) → Head → β → β
  | 0, h, b => f b h.x h.y
  | fuel + 1, h, b =>
      if s.Arrived h then f b h.x h.y
      else foldFrom s f fuel (s.advance h) (f b h.x h.y)

@[inline] def fold {β : Type} (s : Segment) (f : β → Int → Int → β) (b : β) : β :=
  s.foldFrom f s.steps s.start b

/-- The points of the segment in the order of the walk. -/
def points (s : Segment) : List (Int × Int) :=
  (s.fold (fun visited x y => (x, y) :: visited) []).reverse

end Segment

def Pixmap.line (p : Pixmap) (s : Segment) (v : UInt8) : Pixmap :=
  s.fold (fun p x y => p.put x y v) p

end Paintbox

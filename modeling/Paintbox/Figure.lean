import Paintbox.Segment

/-!
# Boxes and paths

Figures put together from filled boxes and line segments.  A box contains its left and top edges
and not its right and bottom edges.

* `Pixmap.fillBox`, `Pixmap.invertBox` — every pixel of a box.
* `Pixmap.frameBox` — the outermost pixels of a box; a box without pixels has none.
* `Pixmap.rectangle` — a filled interior inside an outline, either of which may be left out.
* `Pixmap.path` — segments from point to point, closed back to the first point or not.
-/

namespace Paintbox

namespace Pixmap

def fillBox (p : Pixmap) (left top right bottom : Int) (v : UInt8) : Pixmap :=
  p.alter (max left 0) (max top 0) (min right p.width) (min bottom p.height) fun _ _ _ => v

def invertBox (p : Pixmap) (left top right bottom : Int) : Pixmap :=
  p.alter (max left 0) (max top 0) (min right p.width) (min bottom p.height)
    fun _ _ old => old ^^^ 0xFF

/-- The four sides of an outline, in the order in which they are drawn: top, right, bottom,
left. -/
def sides (left top right bottom : Int) : List Segment :=
  [⟨left, top, right - 1, top⟩, ⟨right - 1, top, right - 1, bottom - 1⟩,
    ⟨right - 1, bottom - 1, left, bottom - 1⟩, ⟨left, bottom - 1, left, top⟩]

def lines (p : Pixmap) (segments : List Segment) (v : UInt8) : Pixmap :=
  segments.foldl (fun p s => p.line s v) p

def frameBox (p : Pixmap) (left top right bottom : Int) (v : UInt8) : Pixmap :=
  if right ≤ left ∨ bottom ≤ top then p else p.lines (sides left top right bottom) v

/-- Fill the interior of the box with the brush and draw its outline with the pen.  The sides are
drawn whatever the box, also one whose edges have changed places. -/
def rectangle (p : Pixmap) (left top right bottom : Int) (pen brush : Option UInt8) : Pixmap :=
  let filled :=
    match brush with
    | some v => p.fillBox (left + 1) (top + 1) (right - 1) (bottom - 1) v
    | none => p
  match pen with
  | some v => filled.lines (sides left top right bottom) v
  | none => filled

def legs : List (Int × Int) → List Segment
  | a :: b :: rest => ⟨a.1, a.2, b.1, b.2⟩ :: legs (b :: rest)
  | _ => []

/-- The segment from the last point back to the first, if there is a point at all. -/
def closing (points : List (Int × Int)) : List Segment :=
  match points.head?, points.getLast? with
  | some first, some last => [⟨last.1, last.2, first.1, first.2⟩]
  | _, _ => []

/-- Draw segments from point to point, and back to the first point if the path is closed. -/
def path (p : Pixmap) (points : List (Int × Int)) (v : UInt8) (closed : Bool) : Pixmap :=
  let drawn := p.lines (legs points) v
  if closed then drawn.lines (closing points) v else drawn

end Pixmap

end Paintbox

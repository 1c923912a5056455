/-!
# Points and rectangles

Device coordinates are signed 16-bit.  The plane on which shapes are traced is wider: there the
same coordinates are integers, so no sum or difference of them wraps.

* `Point` — a position, with the origin as its default.
* `Rect` — a box that contains its left and top edges and not its right and bottom edges.
-/

namespace Paintbox

/-- A point in device coordinates. -/
structure Point where
  x : Int16
  y : Int16
deriving DecidableEq

namespace Point

def origin : Point := ⟨0, 0⟩

instance : Inhabited Point := ⟨origin⟩

/-- The point on the integer plane. -/
def toPlane (p : Point) : Int × Int := (p.x.toInt, p.y.toInt)

end Point

/-- A box with inclusive left and top and exclusive right and bottom. -/
structure Rect where
  left : Int16
  top : Int16
  right : Int16
  bottom : Int16
deriving DecidableEq

namespace Rect

def zero : Rect := ⟨0, 0, 0, 0⟩

instance : Inhabited Rect := ⟨zero⟩

/-- The signed distance from the left to the right edge, which may exceed 16 bits. -/
def width (r : Rect) : Int := r.right.toInt - r.left.toInt

/-- The signed distance from the top to the bottom edge, which may exceed 16 bits. -/
def height (r : Rect) : Int := r.bottom.toInt - r.top.toInt

def isEmpty (r : Rect) : Bool := r.width ≤ 0 || r.height ≤ 0

end Rect

end Paintbox

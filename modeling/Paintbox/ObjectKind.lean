/-!
# Kinds of graphics objects

A device context has one selection slot for each kind of object.  The kind is a module of its own
because both the objects and the errors about them speak of it.
-/

namespace Paintbox

/-- The selection slot that a graphics object occupies. -/
inductive ObjectKind where
  | pen
  | brush
  | font
  | bitmap
deriving DecidableEq

namespace ObjectKind

def label : ObjectKind → String
  | pen => "Pen"
  | brush => "Brush"
  | font => "Font"
  | bitmap => "Bitmap"

def noun : ObjectKind → String
  | pen => "pen"
  | brush => "brush"
  | font => "font"
  | bitmap => "bitmap"

end ObjectKind

end Paintbox

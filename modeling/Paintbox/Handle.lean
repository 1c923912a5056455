/-!
# Handles

Device contexts and graphics objects are known to callers by 16-bit numbers.  Zero is the null
handle of either family: it never denotes a live entry.

* `ContextHandle` — names a device context; the null handle stands for "the screen" where a
  reference surface is asked for, and for "no source" in a transfer.
* `ObjectHandle` — names a pen, brush, font or bitmap.
-/

namespace Paintbox

/-- The number of a device context. -/
structure ContextHandle where
  code : UInt16
deriving DecidableEq

namespace ContextHandle

def null : ContextHandle := ⟨0⟩

/-- Is this the null handle? -/
def isNull (h : ContextHandle) : Bool := h.code == 0

def label (h : ContextHandle) : String := s!"hdc#{h.code.toNat}"

end ContextHandle

/-- The number of a graphics object. -/
structure ObjectHandle where
  code : UInt16
deriving DecidableEq

namespace ObjectHandle

def null : ObjectHandle := ⟨0⟩

/-- Is this the null handle? -/
def isNull (h : ObjectHandle) : Bool := h.code == 0

def label (h : ObjectHandle) : String := s!"hobj#{h.code.toNat}"

end ObjectHandle

end Paintbox

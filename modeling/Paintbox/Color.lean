/-!
# Colors

A color is a 32-bit word `0x00BBGGRR`.  A picture has one byte per pixel, so of a color it keeps
only the low byte, the palette index.

* `Color.rgb`, `Color.ofIndex` — the two ways to make a color.
* `Color.index` — what a pixel holds once the color is drawn.
* `Color.invalid` — the word that answers for "no pixel"; no pixel color equals it
  (`Color.ofIndex_ne_invalid`).
-/

namespace Paintbox

/-- A color word `0x00BBGGRR`. -/
structure Color where
  word : UInt32
deriving DecidableEq

namespace Color

def black : Color := ⟨0x00000000⟩

def white : Color := ⟨0x00FFFFFF⟩

/-- The answer for a pixel that could not be read or written. -/
def invalid : Color := ⟨0xFFFFFFFF⟩

/-- The color with the given red, green and blue channels. -/
def rgb (r g b : UInt8) : Color :=
  ⟨r.toUInt32 ||| (g.toUInt32 <<< 8) ||| (b.toUInt32 <<< 16)⟩

def ofIndex (i : UInt8) : Color := ⟨i.toUInt32⟩

def red (c : Color) : UInt8 := c.word.toUInt8

/-- The green channel, the second byte of the word. -/
def green (c : Color) : UInt8 := (c.word >>> 8).toUInt8

def blue (c : Color) : UInt8 := (c.word >>> 16).toUInt8

/-- The palette index a pixel receives, the low byte of the word. -/
def index (c : Color) : UInt8 := c.word.toUInt8

/-- Is this the word that answers for a missing pixel? -/
def isInvalid (c : Color) : Bool := c == invalid

/-- A palette index survives the trip through a color word. -/
@[simp] theorem index_ofIndex (i : UInt8) : (ofIndex i).index = i := by
  simp [ofIndex, index]

/-- The color of a pixel never collides with the invalid word. -/
theorem ofIndex_ne_invalid (i : UInt8) : ofIndex i ≠ invalid := by
  intro h
  have hw : i.toUInt32.toNat = (0xFFFFFFFF : UInt32).toNat := by
    rw [show i.toUInt32 = 0xFFFFFFFF from congrArg Color.word h]
  have hi := i.toNat_lt
  simp at hw
  omega

end Color

end Paintbox

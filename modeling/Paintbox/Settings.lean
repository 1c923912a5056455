/-!
# Settings

What a display is opened with: the size of its screen and how many device contexts and graphics
objects may be live at a time.

* `Settings.standard` — the size used when nothing else is asked for.
* `Settings.check` — the four ranges, tested in a fixed order; the first one that is left is the
  one reported.
* `OutOfRange.message` — the wording of a failed range.
-/

namespace Paintbox

/-- The size of a display. -/
structure Settings where
  /-- Screen width in pixels. -/
  width : Int
  /-- Screen height in pixels. -/
  height : Int
  /-- How many device contexts may be live at a time. -/
  maxContexts : Nat
  /-- How many graphics objects may be live at a time. -/
  maxObjects : Nat
deriving DecidableEq

/-- A setting that lies outside its range, with the value it was given. -/
inductive OutOfRange where
  | width (value : Int)
  | height (value : Int)
  | maxContexts (value : Nat)
  | maxObjects (value : Nat)
deriving DecidableEq

namespace Settings

/-- A screen of 640 by 480 pixels, 32 device contexts and 256 objects. -/
def standard : Settings := ⟨640, 480, 32, 256⟩

instance : Inhabited Settings := ⟨standard⟩

/-- The longest side a screen can have, since device coordinates are signed 16-bit. -/
def maxSide : Nat := 32767

/-- The most entries a table can have, one for every handle other than null. -/
def maxSlots : Nat := 65535

/-- Test width, height, context and object capacity, in this order. -/
def check (s : Settings) : Except OutOfRange Unit :=
  if s.width ≤ 0 ∨ s.width > maxSide then
    .error (.width s.width)
  else if s.height ≤ 0 ∨ s.height > maxSide then
    .error (.height s.height)
  else if s.maxContexts = 0 ∨ s.maxContexts > maxSlots then
    .error (.maxContexts s.maxContexts)
  else if s.maxObjects = 0 ∨ s.maxObjects > maxSlots then
    .error (.maxObjects s.maxObjects)
  else
    .ok ()

/-- All four settings are in range. -/
structure Valid (s : Settings) : Prop where
  width : 0 < s.width ∧ s.width ≤ maxSide
  height : 0 < s.height ∧ s.height ≤ maxSide
  maxContexts : 0 < s.maxContexts ∧ s.maxContexts ≤ maxSlots
  maxObjects : 0 < s.maxObjects ∧ s.maxObjects ≤ maxSlots

/-- The check passes exactly when all four settings are in range. -/
theorem check_eq_ok_iff (s : Settings) : s.check = .ok () ↔ s.Valid := by
  constructor
  · intro h
    unfold check at h
    split at h
    · cases h
    split at h
    · cases h
    split at h
    · cases h
    split at h
    · cases h
    constructor <;> omega
  · rintro ⟨hw, hh, hc, ho⟩
    unfold check
    rw [if_neg (by omega), if_neg (by omega), if_neg (by omega), if_neg (by omega)]

end Settings

namespace OutOfRange

def message : OutOfRange → String
  | width v => s!"screen width {v} out of range (1..={Settings.maxSide})"
  | height v => s!"screen height {v} out of range (1..={Settings.maxSide})"
  | maxContexts v => s!"max_dcs {v} out of range (1..={Settings.maxSlots})"
  | maxObjects v => s!"max_objects {v} out of range (1..={Settings.maxSlots})"

end OutOfRange

end Paintbox

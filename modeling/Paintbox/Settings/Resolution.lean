import Paintbox.Text.Blank
import Paintbox.Text.Numeral

/-!
# Resolutions

A resolution is a width and a height written as `640x480`: two positive numerals with a small
letter x between them.  Blanks around either numeral are allowed.

* `Resolution` — the two sides; `Resolution.parse` — the reading.
* `Resolution.Fault` — what can be wrong, tested from left to right, the signs last.
-/

namespace Paintbox

/-- A width and a height. -/
structure Resolution where
  width : Int
  height : Int
deriving DecidableEq

namespace Resolution

/-- What can be wrong with the text of a resolution. -/
inductive Fault where
  /-- There is not exactly one x. -/
  | form
  | width (fault : Numeral.Fault)
  | height (fault : Numeral.Fault)
  /-- A side is zero or negative. -/
  | notPositive
deriving DecidableEq

/-- The fault in words, the most general ones first. -/
def Fault.messages : Fault → List String
  | form => ["Resolution must be in WIDTHxHEIGHT format"]
  | width fault => ["Invalid width value", fault.message]
  | height fault => ["Invalid height value", fault.message]
  | notPositive => ["Resolution values must be positive"]

def parse (s : List Char) : Except Fault Resolution :=
  match Text.split 'x' s with
  | [left, right] =>
      match Numeral.parse Numeral.signed32 (Text.trim left) with
      | .error fault => .error (.width fault)
      | .ok width =>
          match Numeral.parse Numeral.signed32 (Text.trim right) with
          | .error fault => .error (.height fault)
          | .ok height =>
              if width ≤ 0 ∨ height ≤ 0 then .error .notPositive else .ok ⟨width, height⟩
  | _ => .error .form

end Resolution

end Paintbox

/-!
# Face names

A font keeps at most 31 bytes of its face name, and never part of a character.

* `FaceName.truncate` — the longest prefix of whole characters that fits.
-/

namespace Paintbox.FaceName

def limit : Nat := 31

/-- The longest prefix of whole characters that takes at most `room` bytes. -/
def fitting : (room : Nat) → List Char → List Char
  | _, [] => []
  | room, c :: cs => if c.utf8Size ≤ room then c :: fitting (room - c.utf8Size) cs else []

def truncate (name : String) : String := String.ofList (fitting limit name.toList)

end Paintbox.FaceName

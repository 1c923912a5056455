import Paintbox.Text.Blank

/-!
# Property files

A property file holds one `key = value` pair to a line.  A `#` starts a comment that runs to the
end of the line.  Lines without an equals sign or without a key say nothing.

* `Properties.ofLine?` — the pair on a line, if there is one.
* `Properties.parse` — the pairs of a text, in order.
-/

namespace Paintbox.Properties

def code (line : List Char) : List Char := line.takeWhile (· ≠ '#')

/-- The pair on a line.  Blanks around the key and around the value belong to neither. -/
def ofLine? (line : List Char) : Option (List Char × List Char) :=
  match Text.cut? '=' (Text.trim (code line)) with
  | none => none
  | some (key, value) =>
      if (Text.trim key).isEmpty then none else some (Text.trim key, Text.trim value)

/-- The pairs of a text.  A carriage return before the end of a line is a blank like any other. -/
def parse (s : List Char) : List (List Char × List Char) :=
  (Text.split '\n' s).filterMap ofLine?

end Paintbox.Properties

/-!
# Reports

What went wrong is reported from the most general statement down to its innermost cause.

* `Report` — the statements, outermost first.
* `Report.line` — all of them on one line.
* `Report.text` — the form in which a failed run ends.
-/

namespace Paintbox

/-- A failure and what caused it. -/
structure Report where
  /-- What failed. -/
  headline : String
  /-- Why, each cause followed by its own. -/
  causes : List String
deriving DecidableEq

namespace Report

def ofList : List String → Report
  | [] => ⟨"", []⟩
  | headline :: causes => ⟨headline, causes⟩

/-- The report with a more general statement in front. -/
def within (outer : String) (r : Report) : Report := ⟨outer, r.headline :: r.causes⟩

def line (r : Report) : String := ": ".intercalate (r.headline :: r.causes)

def numbered (i : Nat) (cause : String) : String := s!"\n    {i}: {cause}"

/-- The causes, one to a line.  They are numbered if there are several. -/
def causeLines : List String → String
  | [] => ""
  | [cause] => s!"\n\nCaused by:\n    {cause}"
  | causes => "\n\nCaused by:" ++ String.join (causes.mapIdx numbered)

def text (r : Report) : String := s!"Error: {r.headline}{causeLines r.causes}\n"

end Report

end Paintbox

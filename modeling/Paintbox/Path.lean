import Paintbox.Text.Blank

/-!
# Paths

A path says how to come to a place on a disk: one step after another, from the root or from where
one is.  What is found on the way is the disk's affair; here are the steps.

* `Location` — a place in the tree of directories.
* `Step`, `Step.leadFrom` — a step, and where it leads.
* `PathFault` — why nothing can be read or written where a path leads.
* `Path`, `Path.parse` — a path cut at its slashes.
* `Path.location` — where a path leads if nothing stands in its way.
-/

namespace Paintbox

/-- A place on a disk: the names that lead to it from the root, the last of them first.  The root
itself has none. -/
abbrev Location := List String

/-- A step of a path. -/
inductive Step where
  /-- A dot: no step at all. -/
  | stay
  /-- Two dots: to the directory around. -/
  | up
  | down (name : String)

namespace Step

def ofName (name : String) : Step :=
  if name = "." then stay else if name = ".." then up else down name

/-- Where a step leads from a place.  There is nothing around the root, so above it one is at the
root again. -/
def leadFrom (here : Location) : Step → Location
  | stay => here
  | up => here.tail
  | down name => name :: here

end Step

/-- Why nothing can be read or written where a path leads. -/
inductive PathFault where
  /-- Nothing is there. -/
  | missing
  /-- The path goes on behind something that is no directory. -/
  | notDirectory
  /-- The path leads to a directory. -/
  | isDirectory
  /-- A name on the path, or all of it, is longer than a disk takes. -/
  | tooLong
  /-- No file can be made there. -/
  | denied
  /-- The path leads to a device that is not connected. -/
  | noDevice
  /-- There is no room for what should be written. -/
  | noRoom
deriving DecidableEq

namespace PathFault

def code : PathFault → Nat
  | missing => 2
  | notDirectory => 20
  | isDirectory => 21
  | tooLong => 36
  | denied => 13
  | noDevice => 6
  | noRoom => 28

/-- A fault in words. -/
def words : PathFault → String
  | missing => "No such file or directory"
  | notDirectory => "Not a directory"
  | isDirectory => "Is a directory"
  | tooLong => "File name too long"
  | denied => "Permission denied"
  | noDevice => "No such device or address"
  | noRoom => "No space left on device"

def message (fault : PathFault) : String := s!"{fault.words} (os error {fault.code})"

end PathFault

/-- A path, cut at its slashes. -/
structure Path where
  /-- Does it start at the root? -/
  rooted : Bool
  steps : List Step
  /-- Does a slash follow its last step? -/
  slashed : Bool

namespace Path

def longest : Nat := 4095

def longestName : Nat := 255

/-- The path that is written so.  Several slashes are as good as one.  An empty text leads
nowhere. -/
def parse (text : String) : Except PathFault Path :=
  if longest < text.utf8ByteSize then
    .error .tooLong
  else if text = "" then
    .error .missing
  else
    let pieces := Text.split '/' text.toList
    .ok {
      rooted := pieces.head? = some []
      steps := (pieces.filter (· ≠ [])).map fun piece => .ofName (String.ofList piece)
      slashed := pieces.getLast? = some [] }

theorem slash_not_mem_name {text name : String} {path : Path} (h : parse text = .ok path)
    (hn : Step.down name ∈ path.steps) : '/' ∉ name.toList := by
  unfold parse at h
  split at h
  · cases h
  split at h
  · cases h
  cases h
  obtain ⟨piece, hp, hs⟩ := List.mem_map.mp hn
  have hp := Text.sep_not_mem_of_mem_split (List.mem_filter.mp hp).1
  unfold Step.ofName at hs
  split at hs
  · cases hs
  split at hs
  · cases hs
  cases hs
  simpa using hp

/-- Where a path starts, for one who is at a place. -/
def start (path : Path) (home : Location) : Location := if path.rooted then [] else home

/-- Where a path leads if every step of it can be taken. -/
def location (path : Path) (home : Location) : Location :=
  path.steps.foldl Step.leadFrom (path.start home)

/-- A single name leads to the place with that name, with a slash behind it or without one. -/
theorem location_down (name : String) (slashed : Bool) (home : Location) :
    location ⟨false, [.down name], slashed⟩ home = name :: home := rfl

end Path

end Paintbox

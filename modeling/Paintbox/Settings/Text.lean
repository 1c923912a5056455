import Paintbox.Settings
import Paintbox.Settings.Properties
import Paintbox.Settings.Resolution

/-!
# Settings as text

A property file changes settings one pair at a time.  A key is recognised in any mixture of small
and capital letters; other keys are passed over.  The first malformed value ends the reading, and
ranges are tested once, at the end.

* `Settings.Key` — the recognised keys.
* `Settings.assign` — what a pair does.
* `Settings.ofText` — what a whole text does to the settings it starts from.
* `Settings.Fault` — what can be wrong with a text.
-/

namespace Paintbox.Settings

/-- A recognised key. -/
inductive Key where
  | width
  | height
  | resolution
  | maxContexts
  | maxObjects
deriving DecidableEq

namespace Key

def name : Key → String
  | width => "screen_width"
  | height => "screen_height"
  | resolution => "resolution"
  | maxContexts => "max_dcs"
  | maxObjects => "max_objects"

def all : List Key := [width, height, resolution, maxContexts, maxObjects]

/-- The key that is written so, apart from the size of ASCII letters. -/
def ofName? (s : List Char) : Option Key :=
  all.find? fun key => key.name.toList == s.map Char.toLower

end Key

/-- What can be wrong with the text of settings. -/
inductive Fault where
  /-- The value of a key is no numeral of its range. -/
  | numeral (key : Key) (fault : Numeral.Fault)
  | resolution (fault : Resolution.Fault)
  | range (which : OutOfRange)
deriving DecidableEq

/-- The fault in words, the most general ones first. -/
def Fault.messages : Fault → List String
  | numeral key fault => [s!"Invalid {key.name} value", fault.message]
  | resolution fault => fault.messages
  | range which => [which.message]

def number (key : Key) (r : Numeral.Range) (value : List Char) : Except Fault Int :=
  match Numeral.parse r value with
  | .ok n => .ok n
  | .error fault => .error (.numeral key fault)

/-- The settings with the size of the screen replaced. -/
def withSize (s : Settings) (size : Resolution) : Settings :=
  { s with width := size.width, height := size.height }

def set (s : Settings) (key : Key) (value : List Char) : Except Fault Settings :=
  match key with
  | .width => (number .width Numeral.signed32 value).map fun n => { s with width := n }
  | .height => (number .height Numeral.signed32 value).map fun n => { s with height := n }
  | .resolution =>
      match Resolution.parse value with
      | .ok size => .ok (s.withSize size)
      | .error fault => .error (.resolution fault)
  | .maxContexts =>
      (number .maxContexts Numeral.unsigned64 value).map fun n => { s with maxContexts := n.toNat }
  | .maxObjects =>
      (number .maxObjects Numeral.unsigned64 value).map fun n => { s with maxObjects := n.toNat }

def assign (s : Settings) (pair : List Char × List Char) : Except Fault Settings :=
  match Key.ofName? pair.1 with
  | some key => s.set key pair.2
  | none => .ok s

def checked (s : Settings) : Except OutOfRange Settings :=
  match s.check with
  | .ok () => .ok s
  | .error which => .error which

/-- What a text makes of the settings it starts from. -/
def ofText (text : String) (base : Settings) : Except Fault Settings := do
  let s ← (Properties.parse text.toList).foldlM assign base
  match s.checked with
  | .ok s => .ok s
  | .error which => .error (.range which)

end Paintbox.Settings

import Paintbox.Text.Numeral

/-!
# The command line

The program takes options only.  An option is written in full after two hyphens or as one letter
after a single hyphen; its value follows as the next word or is attached, after an equals sign or,
behind a letter, directly.  A lone `--` ends the options.

* `OptionName` — the options that take a value; `Options` — their values.
* `Refusal` — why a command line is not taken; asking for help or for the version is one reason.
* `CommandLine.Reading` — how far the reading has come.  The value of an option is looked at no
  sooner than the next option begins or the words end, so a word that is no option at all is
  reported before a bad value in front of it.
* `CommandLine.parse` — the reading.
-/

namespace Paintbox

/-- An option that takes a value. -/
inductive OptionName where
  | width
  | height
  | res
  | config
  | logLevel
  | out
deriving DecidableEq

namespace OptionName

/-- The option that is written so after two hyphens. -/
def ofLong? (s : List Char) : Option OptionName :=
  if s = "width".toList then some width
  else if s = "height".toList then some height
  else if s = "res".toList then some res
  else if s = "config".toList then some config
  else if s = "log-level".toList then some logLevel
  else if s = "out".toList then some out
  else none

def ofLetter? (c : Char) : Option OptionName :=
  if c = 'r' then some res
  else if c = 'c' then some config
  else if c = 'l' then some logLevel
  else if c = 'o' then some out
  else none

end OptionName

/-- Why a command line is not taken. -/
inductive Refusal where
  | missingRequiredArgument
  | unknownArgument
  /-- A value is of the wrong form. -/
  | valueValidation
  /-- A value is missing, or empty where it must not be. -/
  | invalidValue
  /-- An option is given twice. -/
  | argumentConflict
  /-- Something is attached to an option that takes no value. -/
  | tooManyValues
  | displayHelp
  | displayVersion
deriving DecidableEq

def Refusal.label : Refusal → String
  | missingRequiredArgument => "MissingRequiredArgument"
  | unknownArgument => "UnknownArgument"
  | valueValidation => "ValueValidation"
  | invalidValue => "InvalidValue"
  | argumentConflict => "ArgumentConflict"
  | tooManyValues => "TooManyValues"
  | displayHelp => "DisplayHelp"
  | displayVersion => "DisplayVersion"

/-- The values given so far. -/
structure Draft where
  width : Option Int
  height : Option Int
  res : Option String
  config : Option String
  logLevel : Option Int
  out : Option String
deriving DecidableEq

/-- The values of a command line.  Where the picture goes is the one value that must be given. -/
structure Options where
  width : Option Int
  height : Option Int
  res : Option String
  config : Option String
  logLevel : Option Int
  out : String
deriving DecidableEq

namespace Draft

def empty : Draft := ⟨none, none, none, none, none, none⟩

def has (d : Draft) : OptionName → Bool
  | .width => d.width.isSome
  | .height => d.height.isSome
  | .res => d.res.isSome
  | .config => d.config.isSome
  | .logLevel => d.logLevel.isSome
  | .out => d.out.isSome

def number (value : List Char) : Except Refusal Int :=
  match Numeral.parse Numeral.signed32 value with
  | .ok n => .ok n
  | .error _ => .error .valueValidation

def path (value : List Char) : Except Refusal String :=
  if value.isEmpty then .error .invalidValue else .ok (String.ofList value)

def give (d : Draft) (name : OptionName) (value : List Char) : Except Refusal Draft :=
  match name with
  | .width => (number value).map fun n => { d with width := some n }
  | .height => (number value).map fun n => { d with height := some n }
  | .res => .ok { d with res := some (String.ofList value) }
  | .config => (path value).map fun p => { d with config := some p }
  | .logLevel => (number value).map fun n => { d with logLevel := some n }
  | .out => (path value).map fun p => { d with out := some p }

/-- Settle an option.  That it has a value is tested first, then that it is not given twice, then
the value. -/
def settle (d : Draft) (name : OptionName) (value : Option (List Char)) : Except Refusal Draft :=
  match value with
  | none => .error .invalidValue
  | some v => if d.has name then .error .argumentConflict else d.give name v

def finish (d : Draft) : Except Refusal Options :=
  match d.out with
  | some out => .ok ⟨d.width, d.height, d.res, d.config, d.logLevel, out⟩
  | none => .error .missingRequiredArgument

end Draft

namespace CommandLine

/-- How far the reading of a command line has come. -/
structure Reading where
  /-- The options that are settled. -/
  settled : Draft
  /-- The option that was read last, with the word after it if there has been one. -/
  pending : Option (OptionName × Option (List Char))
  /-- Have the options been ended by a lone `--`? -/
  ended : Bool

def Reading.begin : Reading := ⟨.empty, none, false⟩

def Reading.settle (r : Reading) : Except Refusal Draft :=
  match r.pending with
  | none => .ok r.settled
  | some (name, value) => r.settled.settle name value

/-- An option begins, with its value attached or still to come. -/
def Reading.option (r : Reading) (name : OptionName) (attached : Option (List Char)) :
    Except Refusal Reading := do
  let d ← r.settle
  match attached with
  | some value => return ⟨← d.settle name (some value), none, false⟩
  | none => return ⟨d, some (name, none), false⟩

/-- A question to be answered instead of a run: whatever comes after it is not read. -/
def Reading.ask (r : Reading) (question : Refusal) : Except Refusal Reading := do
  let _ ← r.settle
  throw question

def Reading.long (r : Reading) (word : List Char) : Except Refusal Reading :=
  let name := word.takeWhile (· ≠ '=')
  let attached := if '=' ∈ word then some (word.dropWhile (· ≠ '=')).tail else none
  match OptionName.ofLong? name with
  | some option => r.option option attached
  | none =>
      if name = "help".toList ∨ name = "version".toList then
        if attached.isSome then throw .tooManyValues
        else r.ask (if name = "help".toList then .displayHelp else .displayVersion)
      else
        throw .unknownArgument

/-- The value behind a letter: an equals sign in front of it is left out, and nothing at all is no
value. -/
def attachedToLetter : List Char → Option (List Char)
  | [] => none
  | '=' :: value => some value
  | value => some value

/-- A letter after one hyphen, and what is behind it in the same word. -/
def Reading.letter (r : Reading) (c : Char) (rest : List Char) : Except Refusal Reading :=
  match OptionName.ofLetter? c with
  | some option => r.option option (attachedToLetter rest)
  | none =>
      if c = 'h' then r.ask .displayHelp
      else if c = 'V' then r.ask .displayVersion
      else throw .unknownArgument

/-- A word that is no option: it is the value of the pending option, if that still lacks one. -/
def Reading.value (r : Reading) (word : List Char) : Except Refusal Reading :=
  match r.pending with
  | some (name, none) => .ok { r with pending := some (name, some word) }
  | _ => throw .unknownArgument

def Reading.word (r : Reading) (w : List Char) : Except Refusal Reading :=
  if r.ended then
    throw .unknownArgument
  else
    match w with
    | ['-', '-'] => .ok { r with ended := true }
    | '-' :: '-' :: rest => r.long rest
    | '-' :: c :: rest => r.letter c rest
    | other => r.value other

/-- Read a command line, which does not include the name of the program. -/
def parse (words : List String) : Except Refusal Options := do
  let r ← words.foldlM (fun r w => r.word w.toList) Reading.begin
  let d ← r.settle
  d.finish

end CommandLine

end Paintbox

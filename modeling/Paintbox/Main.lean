import Paintbox.Program

/-!
# Running the program on the disk

The outer layer: it reads and writes files and prints, and decides nothing.
-/

namespace Paintbox.Disk

def describe : IO.Error → String
  | .noFileOrDirectory _ code details => s!"{details} (os error {code})"
  | .inappropriateType _ code details => s!"{details} (os error {code})"
  | .permissionDenied _ code details => s!"{details} (os error {code})"
  | .invalidArgument _ code details => s!"{details} (os error {code})"
  | .noSuchThing _ code details => s!"{details} (os error {code})"
  | .resourceExhausted _ code details => s!"{details} (os error {code})"
  | .resourceBusy code details => s!"{details} (os error {code})"
  | .unsupportedOperation code details => s!"{details} (os error {code})"
  | .hardwareFault code details => s!"{details} (os error {code})"
  | .otherError code details => s!"{details} (os error {code})"
  | e => e.toString

def find (path : String) : IO FileContents := do
  try
    return .bytes (← IO.FS.readBinFile path)
  catch
    | .noFileOrDirectory .. => return .missing
    | e => return .unreadable (describe e)

def fail (report : Report) : IO UInt32 := do
  IO.eprint report.text
  return 1

/-- Draw the picture that the options ask for and write it. -/
def render (options : Options) : IO UInt32 := do
  let found ← match options.config with
    | some path => find path
    | none => pure .missing
  match Program.draw .addressSpace options fun _ => found with
  | .error report => fail report
  | .ok picture =>
      match ← (IO.FS.Handle.mk options.out .write).toBaseIO with
      | .error e => fail (Program.unwritable options.out (describe e))
      | .ok file =>
          try
            file.write (Png.encode picture)
            file.flush
            return 0
          catch e =>
            if Program.notices picture then fail (Program.unwritable options.out (describe e))
            else return 0

end Paintbox.Disk

def main (args : List String) : IO UInt32 := do
  match Paintbox.Plan.ofWords args with
  | .print text => IO.print text; return 0
  | .refuse why => IO.eprintln s!"error: {why.label}"; return 2
  | .render options => Paintbox.Disk.render options

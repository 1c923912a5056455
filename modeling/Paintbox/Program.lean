import Paintbox.CommandLine
import Paintbox.Png
import Paintbox.Report
import Paintbox.Scene
import Paintbox.Settings.Text

/-!
# The program

The program draws the demo scene on a screen of the asked-for size and writes it as a picture.  All
that it decides is decided here; only the reading and writing of files is left to its surroundings.

* `Plan`, `Plan.ofWords` — what a command line asks for.
* `FileContents` — what its surroundings found where the settings should be.
* `Program.settings` — the settings in a file; `Options.applyTo` — what the options change in them.
* `Program.picture` — the scene on a screen of these settings.
* `Program.draw` — all of it, from the options to the picture.
* `Program.notices` — whether a failure to write the picture shows.
-/

namespace Paintbox

/-- What a command line asks for. -/
inductive Plan where
  /-- Print a text and do nothing else. -/
  | print (text : String)
  | refuse (why : Refusal)
  | render (options : Options)

/-- What was found where a file should be. -/
inductive FileContents where
  | missing
  | unreadable (why : String)
  | bytes (content : ByteArray)

namespace Program

def version : String := "gdi16 0.3.0\n"

def usage : String :=
  String.join [
    "Software 16-bit GDI renderer - draws a demo scene to PNG\n",
    "\n",
    "Usage: gdi16 [OPTIONS] --out <FILE>\n",
    "\n",
    "Options:\n",
    "      --width <PIXELS>      Screen width in pixels\n",
    "      --height <PIXELS>     Screen height in pixels\n",
    "  -r, --res <WIDTHxHEIGHT>  Screen resolution (e.g., 640x480); ",
    "overridden by --width/--height\n",
    "  -c, --config <FILE>       Property file with screen and table settings\n",
    "  -l, --log-level <LEVEL>   Log level (0 = nothing .. 6 = all)\n",
    "  -o, --out <FILE>          Output PNG path\n",
    "  -h, --help                Print help\n",
    "  -V, --version             Print version\n"]

end Program

/-- The plan of a command line, which does not include the name of the program. -/
def Plan.ofWords (words : List String) : Plan :=
  match CommandLine.parse words with
  | .ok options => .render options
  | .error .displayHelp => .print Program.usage
  | .error .displayVersion => .print Program.version
  | .error why => .refuse why

/-- The settings with the sides that the options name.  A resolution is read even when both of its
sides are named on their own. -/
def Options.applyTo (o : Options) (s : Settings) : Except Report Settings := do
  let sized ←
    match o.res with
    | none => .ok s
    | some text =>
        match Resolution.parse text.toList with
        | .ok size => .ok (s.withSize size)
        | .error fault =>
            .error ((Report.ofList fault.messages).within "Invalid resolution format")
  let merged := { sized with
    width := o.width.getD sized.width
    height := o.height.getD sized.height }
  match merged.checked with
  | .ok s => .ok s
  | .error which => .error ⟨"Invalid screen configuration", [which.message]⟩

namespace Program

/-- The settings in a file.  A file that is not there changes nothing. -/
def settings (path : String) (found : FileContents) : Except Report Settings :=
  let unreadable (why : String) : Except Report Settings :=
    .error ⟨s!"Failed to read config file {path}", [why]⟩
  match found with
  | .missing => .ok .standard
  | .unreadable why => unreadable why
  | .bytes content =>
      match String.fromUTF8? content with
      | none => unreadable "stream did not contain valid UTF-8"
      | some text =>
          match Settings.ofText text .standard with
          | .ok s => .ok s
          | .error fault =>
              .error ((Report.ofList fault.messages).within s!"Invalid config file {path}")

/-- The settings of a run: those of the file that the options name, if they name one, changed by
the options. -/
def settle (o : Options) (find : String → FileContents) : Except Report Settings := do
  let base ←
    match o.config with
    | none => .ok .standard
    | some path => settings path (find path)
  o.applyTo base

def picture (heap : Heap) (s : Settings) : Except Report Pixmap :=
  match Session.start heap s with
  | .error e => .error ⟨"Failed to initialize GDI", [e.message]⟩
  | .ok session =>
      let (drawn, session) := session.perform (Scene.render heap)
      match drawn, session.ask fun d => .ok d.screen with
      | .ok (), .ok screen => .ok screen
      | .error e, _ => .error ⟨"Failed to render demo scene", [e.message]⟩
      | .ok (), .error e => .error ⟨e.message, []⟩

def draw (heap : Heap) (o : Options) (find : String → FileContents) : Except Report Pixmap :=
  (settle o find).bind (picture heap)

/-- The report of a picture that could not be written. -/
def unwritable (path why : String) : Report := ⟨s!"Failed to write {path}", [why]⟩

/-- The file of a picture is gathered, and goes out as soon as there is more of it than so many
bytes. -/
def gathered : Nat := 8192

/-- Is the program told when a file has been opened but cannot take the picture?  What is still
gathered when the picture is done, and the chunk that ends the file, go out when nobody looks any
more.  So only a picture with a larger file is noticed. -/
def notices (p : Pixmap) : Bool := gathered < (Png.body p).size

end Program

end Paintbox

import Paintbox.Program
import Paintbox.Surroundings

/-!
# Folders held in memory

A folder in memory stands for the disk where a run of the program must leave none of its own
traces: it holds files, and it is itself a directory somewhere on a disk whose other directories can
be entered too.

* `Folder` — the files under their locations, and the place from which paths start.
* `Folder.holding` — a folder with some files, on a disk that holds nothing else but its own.
* `Folder.lookUp`, `Folder.follow` — what a name means in a directory, and what a path leads to.
* `Folder.read`, `Folder.write` — reading and writing, with the words in which a disk refuses.
* `Folder.run` — a whole run of the program, and the folder it leaves.
-/

namespace Paintbox

/-- What a file holds. -/
inductive FileEntry where
  | bytes (content : ByteArray)
  | picture (p : Pixmap)
  /-- Nothing, whatever is written to it. -/
  | void
  /-- Nothing, and it does not take anything. -/
  | full
  /-- It cannot be opened. -/
  | detached

/-- Files on a disk, under their locations. -/
structure Folder where
  /-- Where the folder is: paths that do not start at the root start here. -/
  home : Location
  files : List (Location × FileEntry)

namespace Folder

/-- Where a folder is when nothing else is said: in the directory for things that do not last.  A
folder that is made for one run has a name that nobody knows beforehand.  So its name here is one
that no path can spell, as it is a slash: two dots lead out of the folder, and nothing leads back
into it. -/
def usualHome : Location := ["/", "tmp"]

def fixtures : List (Location × FileEntry) :=
  let of (entry : FileEntry) (places : List Location) := places.map fun place => (place, entry)
  of .void Surroundings.sinks ++ of .full Surroundings.full ++
    of .detached Surroundings.detached ++ of (.bytes ByteArray.empty) Surroundings.texts ++
    of (.bytes ⟨#[0xFF]⟩) Surroundings.programs

/-- A folder with these files, each under its path.  A path that cannot be one is passed over. -/
def holding (files : List (String × ByteArray)) : Folder where
  home := usualHome
  files := fixtures ++ files.filterMap fun (name, content) =>
    (Path.parse name).toOption.map fun path => (path.location usualHome, .bytes content)

def file? (f : Folder) (place : Location) : Option FileEntry :=
  (f.files.find? fun file => file.1 == place).map (·.2)

/-- Is there a directory at a place?  Every directory around the folder or around a file of it is
one. -/
def hasDirectory (f : Folder) (place : Location) : Bool :=
  Surroundings.directories.contains place || place.isSuffixOf f.home ||
    f.files.any fun file => place.isSuffixOf file.1.tail

/-- What a name stands for. -/
inductive Found where
  | file (entry : FileEntry)
  | directory

def lookUp (f : Folder) (here : Location) (name : String) : Except PathFault Found :=
  if Path.longestName < name.utf8ByteSize then
    .error .tooLong
  else
    match f.file? (name :: here) with
    | some entry => .ok (.file entry)
    | none => if f.hasDirectory (name :: here) then .ok .directory else .error .missing

/-- The directory that a step leads to from a directory. -/
def enter (f : Folder) (here : Location) (step : Step) : Except PathFault Location :=
  match step with
  | .stay | .up => .ok (step.leadFrom here)
  | .down name =>
      match f.lookUp here name with
      | .ok .directory => .ok (step.leadFrom here)
      | .ok (.file _) => .error .notDirectory
      | .error fault => .error fault

/-- Where a path ends. -/
inductive Goal where
  /-- In a directory. -/
  | directory
  /-- At a name in a directory, which may stand for something or not. -/
  | name (here : Location) (name : String)

/-- Where a path ends, once every step before its last one has been taken. -/
def follow (f : Folder) (path : Path) : Except PathFault Goal := do
  let here ← path.steps.dropLast.foldlM f.enter (path.start f.home)
  match path.steps.getLast? with
  | some (.down name) => .ok (.name here name)
  | _ => .ok .directory

def fileAt (f : Folder) (text : String) : Except PathFault FileEntry := do
  let path ← Path.parse text
  match ← f.follow path with
  | .directory => .error .isDirectory
  | .name here name =>
      match ← f.lookUp here name with
      | .directory => .error .isDirectory
      | .file entry => if path.slashed then .error .notDirectory else .ok entry

def read (f : Folder) (path : String) : FileContents :=
  match f.fileAt path with
  | .ok (.bytes content) => .bytes content
  | .ok (.picture p) => .bytes (Png.encode p)
  | .ok .void | .ok .full => .bytes ByteArray.empty
  | .ok .detached => .unreadable PathFault.noDevice.message
  | .error .missing => .missing
  | .error fault => .unreadable fault.message

/-- The picture where a path leads, if there is one. -/
def picture? (f : Folder) (path : String) : Option Pixmap :=
  match f.fileAt path with
  | .ok (.picture p) => some p
  | _ => none

def put (f : Folder) (place : Location) (entry : FileEntry) : Folder :=
  { f with files := (place, entry) :: f.files.filter fun file => file.1 != place }

theorem file?_put (f : Folder) (place other : Location) (entry : FileEntry) :
    (f.put place entry).file? other = if other = place then some entry else f.file? other := by
  by_cases h : other = place
  · subst h
    simp [put, file?]
  · have kept (file : Location × FileEntry) :
        (!decide (file.1 = place) && decide (file.1 = other)) = (file.1 == other) := by
      by_cases h' : file.1 = other
      · simp [h', h]
      · simp [h']
    have first : (place == other) = false := by simpa using fun e : place = other => h e.symm
    simp [put, file?, if_neg h, first, List.find?_filter, kept]

/-- The folder with a picture where a path leads, or why it cannot be there.  A new file may be
made, but never a new directory, so a path that ends in a slash is refused before its last name is
looked at. -/
def write (f : Folder) (text : String) (p : Pixmap) : Except PathFault Folder := do
  let path ← Path.parse text
  match ← f.follow path with
  | .directory => .error .isDirectory
  | .name here name =>
      if path.slashed then
        .error .isDirectory
      else
        match f.lookUp here name with
        | .ok .directory => .error .isDirectory
        | .ok (.file .void) => .ok f
        | .ok (.file .full) => if Program.notices p then .error .noRoom else .ok f
        | .ok (.file .detached) => .error .noDevice
        | .ok (.file _) => .ok (f.put (name :: here) (.picture p))
        | .error .missing =>
            match Surroundings.refusal? here with
            | some fault => .error fault
            | none => .ok (f.put (name :: here) (.picture p))
        | .error fault => .error fault

/-- How a run of the program ends. -/
inductive Ending where
  /-- It ends well, having printed a text. -/
  | printed (text : String)
  /-- Its command line is refused. -/
  | refused (why : Refusal)
  | failed (report : Report)

/-- Run the program with the words of a command line. -/
def run (f : Folder) (heap : Heap) (words : List String) : Ending × Folder :=
  match Plan.ofWords words with
  | .print text => (.printed text, f)
  | .refuse why => (.refused why, f)
  | .render options =>
      match Program.draw heap options f.read with
      | .error report => (.failed report, f)
      | .ok p =>
          match f.write options.out p with
          | .ok f => (.printed "", f)
          | .error fault => (.failed (Program.unwritable options.out fault.message), f)

end Folder

end Paintbox

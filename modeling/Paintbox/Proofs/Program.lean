import Paintbox.Program
import Paintbox.Proofs.Display.Sound
import Paintbox.Proofs.Settings.Resolution

/-!
# The settings of a run

The settings of a run come from three places: what is standard, what a file says and what the
options say, and each of them overrides the one before.  They are tested twice.  What the file makes
of the standard is tested by itself, so that an option does not save a file with a side that is out
of range.  What the options make of the file is tested at the end, and only then: a resolution that
is out of range is saved by its sides, as long as it can be read at all.  After that a display of
these settings has nothing left to refuse.

* `Options.Supplied` — the text of the file, as the surroundings supply it.
* `Options.resolution`, `Options.merged` — what the options say, and what they make of a file.
* `Options.applyTo_eq_ok_iff`, `Program.settle_eq_ok_iff` — **the settings of a run**.
* `Session.start_of_valid` — a display of valid settings.
* `Program.settle_of_supplied` — all of it, with the ways to fail.
-/

namespace Paintbox

/-- What the surroundings supply to the options is the text of the file that they name, or none if
they name no file or that is not there. -/
inductive Options.Supplied (o : Options) (find : String → FileContents) : Option String → Prop where
  | unnamed (hunnamed : o.config = none) : Supplied o find none
  | missing {path : String} (hnamed : o.config = some path) (hmissing : find path = .missing) :
      Supplied o find none
  | text {path text : String} (hnamed : o.config = some path)
      (hfound : find path = .bytes text.toUTF8) : Supplied o find (some text)

/-- What a file makes of the standard by itself. -/
def Settings.ofFile : Option String → Except Settings.Fault Settings
  | none => .ok .standard
  | some text => Settings.ofText text .standard

namespace Options

/-- The resolution that the options name, if they name one. -/
def resolution (o : Options) : Except Resolution.Fault (Option Resolution) :=
  o.res.mapM fun text => Resolution.parse text.toList

/-- What the options make of a file.  Each side is the one that is named by itself, or else the one
of the resolution, or else the one of the file; the rest is the file's. -/
def merged (o : Options) (size : Option Resolution) (file : Settings) : Settings where
  width := (o.width.or (size.map (·.width))).getD file.width
  height := (o.height.or (size.map (·.height))).getD file.height
  maxContexts := file.maxContexts
  maxObjects := file.maxObjects

variable {o : Options} {find : String → FileContents} {file : Option String}
  {size : Option Resolution} {fault : Resolution.Fault} {base s : Settings}

/-! ## Options -/

lemma resolution_of_res {text : String} (hres : o.res = some text) :
    o.resolution = (Resolution.parse text.toList).map some := by
  rw [resolution, hres, Option.mapM_some]
  rfl

/-- Options whose resolution cannot be read lead to nothing, whatever sides they name. -/
lemma applyTo_of_error (hsize : o.resolution = .error fault) (base : Settings) :
    o.applyTo base
      = .error ((Report.ofList fault.messages).within "Invalid resolution format") := by
  cases hres : o.res with
  | none =>
      rw [resolution, hres] at hsize
      cases hsize
  | some text =>
      rw [resolution_of_res hres] at hsize
      cases hread : Resolution.parse text.toList with
      | ok size =>
          rw [hread] at hsize
          cases hsize
      | error fault =>
          rw [hread] at hsize
          cases hsize
          simp only [applyTo, hres, hread]
          rfl

/-- All other options are merged with the file, and what comes of it is tested. -/
lemma applyTo_of_ok (hsize : o.resolution = .ok size) (base : Settings) :
    o.applyTo base = ((o.merged size base).check.mapError fun which =>
      ⟨"Invalid screen configuration", [which.message]⟩).map fun _ => o.merged size base := by
  cases hres : o.res with
  | none =>
      rw [resolution, hres] at hsize
      cases hsize
      simp only [applyTo, hres, merged, Option.getD_or, Option.map_none, Option.getD_none]
      exact Settings.test_eq _ _
  | some text =>
      rw [resolution_of_res hres] at hsize
      cases hread : Resolution.parse text.toList with
      | error fault =>
          rw [hread] at hsize
          cases hsize
      | ok size =>
          rw [hread] at hsize
          cases hsize
          simp only [applyTo, hres, hread, merged, Option.getD_or, Option.map_some,
            Option.getD_some]
          exact Settings.test_eq _ _

/-- The options lead to the settings that they make of the file, if these are in range. -/
lemma applyTo_eq_ok_iff :
    o.applyTo base = .ok s ↔
      ∃ size, o.resolution = .ok size ∧ s = o.merged size base ∧ s.Valid := by
  cases hsize : o.resolution with
  | error fault =>
      rw [applyTo_of_error hsize]
      simp
  | ok size =>
      rw [applyTo_of_ok hsize, Settings.test_eq_ok_iff, Settings.check_eq_ok_iff]
      constructor
      · rintro ⟨rfl, hvalid⟩
        exact ⟨size, rfl, rfl, hvalid⟩
      · rintro ⟨_, ⟨⟩, rfl, hvalid⟩
        exact ⟨rfl, hvalid⟩

/-! ## The file -/

/-- Where the file is at fault the run is over, whatever the options say; otherwise they are applied
to what it makes of the standard. -/
lemma Supplied.settle (hfile : o.Supplied find file) :
    (∀ base, Settings.ofFile file = .ok base → Program.settle o find = o.applyTo base) ∧
      ∀ fault, Settings.ofFile file = .error fault →
        ∃ report, Program.settle o find = .error report := by
  cases hfile with
  | unnamed hunnamed =>
      refine ⟨?_, fun fault hfault => nomatch hfault⟩
      rintro base ⟨⟩
      rw [Program.settle, hunnamed]
      rfl
  | missing hnamed hmissing =>
      refine ⟨?_, fun fault hfault => nomatch hfault⟩
      rintro base ⟨⟩
      rw [Program.settle, hnamed]
      simp only [hmissing]
      rfl
  | @text path text hnamed hfound =>
      have hdecode : String.fromUTF8? text.toUTF8 = some text := dif_pos text.isValidUTF8
      refine ⟨fun base hbase => ?_, fun fault hfault => ?_⟩
      · rw [Settings.ofFile] at hbase
        rw [Program.settle, hnamed]
        simp only [hfound, Program.settings, hdecode, hbase]
        rfl
      · rw [Settings.ofFile] at hfault
        rw [Program.settle, hnamed]
        simp only [hfound, Program.settings, hdecode, hfault]
        exact ⟨_, rfl⟩

end Options

/-! ## The display -/

/-- The display of the given settings on a screen, with nothing open or made. -/
def Display.onScreen (settings : Settings) (screen : Pixmap) : Display where
  settings := settings
  screen := screen
  contexts := .empty .contexts settings.maxContexts
  objects := .empty .objects settings.maxObjects

variable {heap : Heap} {s : Settings}

/-- A display of valid settings is there as soon as its screen is. -/
lemma Session.start_of_valid (hs : s.Valid) :
    Session.start heap s = (Pixmap.create heap s.width s.height).map
      fun screen => ⟨some (Display.onScreen s screen)⟩ := by
  rw [Session.start, Display.open, (s.check_eq_ok_iff).mpr hs]
  cases Pixmap.create heap s.width s.height <;> rfl

/-- A screen of positive sides is refused for its size in memory or not at all. -/
lemma Pixmap.create_ne_invalidArgument {width height : ℤ} (hw : 0 < width) (hh : 0 < height)
    (why : BadArgument) : Pixmap.create heap width height ≠ .error (.invalidArgument why) := by
  rw [create_of_pos heap hw hh]
  split_ifs <;> simp

namespace Program

open Options

variable {o : Options} {find : String → FileContents} {file : Option String}

lemma settle_eq_ok_iff (hfile : o.Supplied find file) :
    settle o find = .ok s ↔
      ∃ base size, Settings.ofFile file = .ok base ∧ o.resolution = .ok size ∧
        s = o.merged size base ∧ s.Valid := by
  obtain ⟨hgood, hbad⟩ := hfile.settle
  cases hbase : Settings.ofFile file with
  | error fault =>
      obtain ⟨report, hreport⟩ := hbad fault hbase
      rw [hreport]
      simp
  | ok base =>
      rw [hgood base hbase, applyTo_eq_ok_iff]
      simp

/-- **The settings of a run.**  Whatever is in the file, if there is one, and whatever resolution
and sides are named: a run gets settings whose capacities are those of the file and whose sides are
the ones that are named, or else those of the resolution, or else those of the file.  It fails
exactly if the file is at fault by itself, or a resolution is named that cannot be read, even if
both sides are named, too, or what they make together is out of range.  A display of the settings
of a run comes into being with its screen, wherever that is kept, and the screen is never refused as
a bad argument. -/
theorem settle_of_supplied (hfile : o.Supplied find file) :
    (∀ s, settle o find = .ok s ↔
      ∃ base size, Settings.ofFile file = .ok base ∧ o.resolution = .ok size ∧
        s = o.merged size base ∧ s.Valid) ∧
    ((∃ report, settle o find = .error report) ↔
      (∃ fault, Settings.ofFile file = .error fault) ∨ (∃ fault, o.resolution = .error fault) ∨
        ∃ base size, Settings.ofFile file = .ok base ∧ o.resolution = .ok size ∧
          ¬ (o.merged size base).Valid) ∧
    ∀ s, settle o find = .ok s → ∀ heap : Heap,
      Session.start heap s = (Pixmap.create heap s.width s.height).map
          (fun screen => ⟨some (Display.onScreen s screen)⟩) ∧
        ∀ why, Pixmap.create heap s.width s.height ≠ .error (.invalidArgument why) := by
  refine ⟨fun s => settle_eq_ok_iff hfile, ?_, fun s hs heap => ?_⟩
  · rw [exists_error_iff]
    simp only [settle_eq_ok_iff hfile]
    cases Settings.ofFile file with
    | error fault => simp
    | ok base =>
        cases o.resolution with
        | error fault => simp
        | ok size => simp
  · obtain ⟨-, -, -, -, -, hvalid⟩ := (settle_eq_ok_iff hfile).mp hs
    exact ⟨Session.start_of_valid hvalid,
      Pixmap.create_ne_invalidArgument hvalid.width.1 hvalid.height.1⟩

/-- A resolution with a width that no screen has is saved by a width by itself.  One with no width
is not, and neither is a file with such a width. -/
theorem settle_of_supplied_saved :
    settle ⟨some 320, none, some "100000x200", some "a.cfg", none, "a.png"⟩
        (fun _ => .bytes "max_dcs = 4".toUTF8) = .ok ⟨320, 200, 4, 256⟩ ∧
      (∃ report, settle ⟨some 320, some 200, some "0x200", none, none, "a.png"⟩
        (fun _ => .missing) = .error report) ∧
      ∃ report, settle ⟨some 320, some 200, none, some "a.cfg", none, "a.png"⟩
        (fun _ => .bytes "screen_width = 100000".toUTF8) = .error report := by
  refine ⟨?_, ?_, ?_⟩
  · refine ((settle_of_supplied (.text rfl rfl)).1 _).mpr
      ⟨⟨640, 480, 4, 256⟩, some ⟨100000, 200⟩, ?_, rfl, rfl, (Settings.check_eq_ok_iff _).mp rfl⟩
    rfl
  · exact (settle_of_supplied (.unnamed rfl)).2.1.mpr (Or.inr (Or.inl ⟨.notPositive, rfl⟩))
  · exact (settle_of_supplied (.text rfl rfl)).2.1.mpr (Or.inl ⟨.range (.width 100000), rfl⟩)

end Program

end Paintbox

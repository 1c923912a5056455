import Paintbox.Proofs.Settings.Written

/-!
# Settings in any layout

Settings that have been written down are read back, however they were laid out: in any order, with
keys in capital letters or in small ones, with blanks wherever a line has room for them, before
comments and among lines that say nothing.

* `Settings.Gap`, `Settings.Remark`, `Settings.LineEnd` — what may stand around the words of a line.
* `Settings.Entry` — a line before its comment: a setting, words without an equals sign, or an
  equals sign behind something that is not a key.
* `Settings.Layout` — the lines of a text, and `Settings.Layout.text` — the text, when certain
  settings are written in that layout.
* `Settings.Entry.ofLine?_text` — **what is read from a line**, and what it asks for:
  `Settings.Entry.wellFormed_of_pair?`, `Settings.Entry.bind_pair?`.
* `Settings.Layout.parse_text` — the lines of a text are read one by one.
* **`Settings.ofText_layout`** — settings that pass their check are read back from every layout that
  has a line for each of them.
-/

namespace Paintbox.Settings

open Text

/-! ## Lines -/

/-- A text on one line, without a comment. -/
def Quiet (s : List Char) : Prop := ∀ ch ∈ s, ch ≠ '#' ∧ ch ≠ '\n'

/-- Blanks that do not end a line. -/
def Gap := { s : List Char // ∀ ch ∈ s, isBlank ch = true ∧ ch ≠ '\n' }

def Gap.none : Gap := ⟨[], List.forall_mem_nil _⟩

/-- The text of a comment, which ends with its line. -/
def Remark := { s : List Char // '\n' ∉ s }

/-- The two ways to end a line. -/
inductive LineEnd where
  | lf
  | crlf

def LineEnd.text : LineEnd → List Char
  | lf => ['\n']
  | crlf => ['\r', '\n']

/-- A line before its comment. -/
inductive Entry where
  /-- A setting.  The key may be written in capital letters and in small ones, and there may be
  blanks around it and around the value. -/
  | setting (key : Key) (spelling : List Char)
      (spelled : spelling.map Char.toLower = key.name.toList) (lead gap gap' tail : Gap)
  /-- Words without an equals sign, or blanks, or nothing at all. -/
  | words (words : List Char) (quiet : Quiet words) (mute : '=' ∉ words)
  /-- An equals sign with something before it that is not a recognised key, or with nothing. -/
  | stray (before after : List Char) (quiet : Quiet (before ++ '=' :: after)) (mute : '=' ∉ before)
      (unknown : ∀ key : Key, (trim before).map Char.toLower ≠ key.name.toList)

namespace Entry

def key? : Entry → Option Key
  | setting key .. => some key
  | _ => none

/-- The entry when certain settings are written down. -/
def text (c : Settings) : Entry → List Char
  | setting key spelling _ lead gap gap' tail =>
      (lead.val ++ (spelling ++ gap.val)) ++ '=' :: (gap'.val ++ (key.written c ++ tail.val))
  | .words s .. => s
  | stray before after .. => before ++ '=' :: after

/-- The pair that the entry is. -/
def pair? (c : Settings) : Entry → Option (List Char × List Char)
  | setting key spelling .. => some (spelling, key.written c)
  | .words .. => Option.none
  | stray before after .. =>
      if (trim before).isEmpty then Option.none else some (trim before, trim after)

end Entry

/-- A line, with a comment or without one. -/
structure Line where
  entry : Entry
  remark : Option Remark

def Line.text (c : Settings) (line : Line) : List Char :=
  line.entry.text c ++ line.remark.elim [] fun remark => '#' :: remark.val

/-- The lines of a text.  The last one has no end, and may well be empty. -/
structure Layout where
  lines : List (Line × LineEnd)
  last : Line

namespace Layout

def text (layout : Layout) (c : Settings) : List Char :=
  (layout.lines.flatMap fun (line, lineEnd) => line.text c ++ lineEnd.text) ++ layout.last.text c

def entries (layout : Layout) : List Entry :=
  layout.lines.map (·.1.entry) ++ [layout.last.entry]

/-- The keys that have a line. -/
def keys (layout : Layout) : List Key := layout.entries.filterMap Entry.key?

end Layout

/-! ## What is read from a line -/

variable {key : Key} {spelling : List Char} {pair : List Char × List Char} {c : Settings}

lemma Gap.blank (gap : Gap) : ∀ ch ∈ gap.val, isBlank ch = true := fun ch hch =>
  (gap.property ch hch).1

lemma Gap.quiet (gap : Gap) : Quiet gap.val := by
  refine fun ch hch => ⟨?_, (gap.property ch hch).2⟩
  rintro rfl
  exact absurd (gap.blank _ hch) (by decide)

lemma Gap.equals_notMem (gap : Gap) : '=' ∉ gap.val := fun hin =>
  absurd (gap.blank _ hin) (by decide)

lemma Plain.quiet {s : List Char} (hs : Plain s) : Quiet s := by
  refine fun ch hch => ⟨(hs ch hch).2.2, ?_⟩
  rintro rfl
  exact absurd (hs _ hch).1 (by decide)

lemma Quiet.append {s s' : List Char} (hs : Quiet s) (hs' : Quiet s') : Quiet (s ++ s') :=
  List.forall_mem_append.mpr ⟨hs, hs'⟩

lemma Entry.quiet_text (hc : c.Valid) (entry : Entry) : Quiet (entry.text c) := by
  cases entry with
  | setting key spelling hspelled lead gap gap' tail =>
      have hleft := lead.quiet.append ((plain_of_spelled hspelled).quiet.append gap.quiet)
      have hright := gap'.quiet.append ((plain_written hc key).quiet.append tail.quiet)
      exact hleft.append (List.forall_mem_cons.mpr ⟨by decide, hright⟩)
  | words s hquiet hmute => exact hquiet
  | stray before after hquiet hmute hunknown => exact hquiet

lemma code_of_quiet {s : List Char} (hs : Quiet s) : Properties.code s = s :=
  List.takeWhile_eq_self_iff.mpr fun ch hch => decide_eq_true (hs ch hch).1

lemma code_append_hash {s : List Char} (hs : Quiet s) (remark : List Char) :
    Properties.code (s ++ '#' :: remark) = s := by
  rw [Properties.code, List.takeWhile_append_of_pos fun ch hch => decide_eq_true (hs ch hch).1,
    List.takeWhile_cons_of_neg (by decide), List.append_nil]

/-- The comment of a line does not matter, and neither do blanks before its end. -/
lemma ofLine?_line (hc : c.Valid) (line : Line) (gap : Gap) :
    Properties.ofLine? (line.text c ++ gap.val) = Properties.ofLine? (line.entry.text c) := by
  have hentry := line.entry.quiet_text hc
  have hcode : trim (Properties.code (line.text c ++ gap.val))
      = trim (Properties.code (line.entry.text c)) := by
    rw [Line.text, code_of_quiet hentry]
    cases line.remark with
    | none =>
        rw [Option.elim_none, List.append_nil, code_of_quiet (hentry.append gap.quiet)]
        exact trim_padded (a := []) (List.forall_mem_nil _) gap.blank _
    | some remark =>
        rw [Option.elim_some, List.append_assoc, List.cons_append, code_append_hash hentry]
  rw [Properties.ofLine?, hcode, Properties.ofLine?]

/-- The pair on a line with an equals sign. -/
lemma ofLine?_equals {l r : List Char} (hl : '=' ∉ l) (hquiet : Quiet (l ++ '=' :: r)) :
    Properties.ofLine? (l ++ '=' :: r)
      = if (trim l).isEmpty then none else some (trim l, trim r) := by
  have hstart : '=' ∉ trimStart l := fun hin => hl ((List.dropWhile_suffix isBlank).subset hin)
  rw [Properties.ofLine?, code_of_quiet hquiet, trim_append_cons (by decide),
    cut?_append_cons hstart]
  simp only [trim_trimStart, trim_trimEnd]

/-- **What is read from a line is what was written there.** -/
lemma Entry.ofLine?_text (hc : c.Valid) (entry : Entry) :
    Properties.ofLine? (entry.text c) = entry.pair? c := by
  have hquiet := entry.quiet_text hc
  cases entry with
  | setting key spelling hspelled lead gap gap' tail =>
      have hspelling := plain_of_spelled hspelled
      have hkey : trim (lead.val ++ (spelling ++ gap.val)) = spelling := by
        rw [trim_padded lead.blank gap.blank, hspelling.trim_eq]
      have hvalue : trim (gap'.val ++ (key.written c ++ tail.val)) = key.written c := by
        rw [trim_padded gap'.blank tail.blank, (plain_written hc key).trim_eq]
      have hequals : '=' ∉ lead.val ++ (spelling ++ gap.val) := by
        simp only [List.mem_append, not_or]
        exact ⟨lead.equals_notMem, fun hin => (hspelling _ hin).2.1 rfl, gap.equals_notMem⟩
      have hnonempty : spelling.isEmpty = false := by
        cases spelling with
        | nil => cases key <;> cases hspelled
        | cons ch s => rfl
      rw [text, ofLine?_equals hequals hquiet, hkey, hvalue, hnonempty]
      rfl
  | words s hwords hmute =>
      have hequals : '=' ∉ trim s := fun hin => hmute (mem_of_mem_trim hin)
      rw [text, Properties.ofLine?, code_of_quiet hwords, cut?_of_notMem hequals]
      rfl
  | stray before after _ hmute hunknown => exact ofLine?_equals hmute hquiet

/-- A pair on a line has an unknown key or a value that its key can have. -/
lemma Entry.wellFormed_of_pair? (hc : c.Valid) (entry : Entry) (hpair : entry.pair? c = some pair) :
    WellFormed pair := by
  cases entry with
  | setting key spelling hspelled =>
      cases hpair
      intro key' hkey'
      obtain rfl := Option.some.inj ((ofName?_of_spelled hspelled).symm.trans hkey')
      exact takes_written hc key
  | words => cases hpair
  | stray before after _ _ hunknown =>
      rw [pair?] at hpair
      split_ifs at hpair
      cases hpair
      intro key hkey
      rw [ofName?_eq_none hunknown] at hkey
      cases hkey

/-- A line asks for the settings of its key, if it has one, and otherwise for nothing. -/
lemma Entry.bind_pair? (hc : c.Valid) (entry : Entry) {α : Type} (field : Change → Option α)
    (hnone : field {} = none) :
    ((entry.pair? c).bind fun pair => field (Change.ofPair pair))
      = entry.key?.bind fun key => field (Change.part c key) := by
  cases entry with
  | setting key spelling hspelled =>
      rw [pair?, Option.bind_some, Change.ofPair, ofName?_of_spelled hspelled, Option.elim_some,
        ofValue_written hc]
      rfl
  | words => rfl
  | stray before after _ _ hunknown =>
      rw [pair?]
      split_ifs
      · rfl
      · rw [Option.bind_some, Change.ofPair, ofName?_eq_none hunknown]
        exact hnone

/-! ## Texts -/

lemma Line.quiet_text (hc : c.Valid) (line : Line) (gap : Gap) : '\n' ∉ line.text c ++ gap.val := by
  rw [Line.text, List.mem_append, List.mem_append]
  rintro ((hin | hin) | hin)
  · exact (line.entry.quiet_text hc _ hin).2 rfl
  · cases hremark : line.remark with
    | none =>
        rw [hremark] at hin
        cases hin
    | some remark =>
        rw [hremark, Option.elim_some, List.mem_cons] at hin
        exact hin.elim (by decide) remark.property
  · exact (gap.property _ hin).2 rfl

/-- The end of a line is a line feed behind blanks. -/
lemma LineEnd.exists_gap (lineEnd : LineEnd) :
    ∃ gap : Gap, lineEnd.text = gap.val ++ ['\n'] := by
  cases lineEnd with
  | lf => exact ⟨.none, rfl⟩
  | crlf => exact ⟨⟨['\r'], List.forall_mem_singleton.mpr ⟨rfl, by decide⟩⟩, rfl⟩

/-- **The lines of a text are read one by one.** -/
lemma Layout.parse_text (hc : c.Valid) (layout : Layout) :
    Properties.parse (layout.text c) = layout.entries.filterMap (Entry.pair? c) := by
  obtain ⟨lines, last⟩ := layout
  rw [List.filterMap_eq_flatMap_toList]
  induction lines with
  | nil =>
      have hlast : '\n' ∉ last.text c ++ [] := last.quiet_text hc .none
      have hread : Properties.ofLine? (last.text c ++ []) = _ := ofLine?_line hc last .none
      rw [List.append_nil] at hlast hread
      show Properties.parse (last.text c) = [last.entry].flatMap _
      rw [Properties.parse_of_notMem hlast, hread, last.entry.ofLine?_text hc,
        List.flatMap_singleton]
  | cons first lines ih =>
      obtain ⟨line, lineEnd⟩ := first
      obtain ⟨gap, hgap⟩ := lineEnd.exists_gap
      have htext : Layout.text ⟨(line, lineEnd) :: lines, last⟩ c
          = (line.text c ++ gap.val) ++ '\n' :: Layout.text ⟨lines, last⟩ c := by
        simp only [Layout.text, List.flatMap_cons, hgap, List.append_assoc, List.cons_append,
          List.nil_append]
      have hentries : Layout.entries ⟨(line, lineEnd) :: lines, last⟩
          = line.entry :: Layout.entries ⟨lines, last⟩ := rfl
      rw [htext, Properties.parse_append, ih, Properties.parse_of_notMem (line.quiet_text hc gap),
        ofLine?_line hc line gap, line.entry.ofLine?_text hc, hentries, List.flatMap_cons]

/-- Each setting that has a line has a last value, which is the one that was written down. -/
lemma Layout.last_parse_text (hc : c.Valid) (layout : Layout) {α : Type} (field : Change → Option α)
    (hnone : field {} = none) {value : α}
    (hvalue : ∀ key, field (Change.part c key) ∈ [none, some value])
    (hkeys : ∃ key ∈ layout.keys, field (Change.part c key) = some value) (default : α) :
    Settings.last field default (Properties.parse (layout.text c)) = value := by
  have hvalues :
      (Properties.parse (layout.text c)).filterMap (fun pair => field (Change.ofPair pair))
        = layout.keys.filterMap fun key => field (Change.part c key) := by
    rw [layout.parse_text hc, List.filterMap_filterMap, Layout.keys, List.filterMap_filterMap]
    exact List.filterMap_congr fun entry _ => entry.bind_pair? hc field hnone
  have hall : ∀ v ∈ layout.keys.filterMap fun key => field (Change.part c key), v = value := by
    intro v hv
    obtain ⟨key, -, hwritten⟩ := List.mem_filterMap.mp hv
    have hsame := hvalue key
    rw [hwritten] at hsame
    simpa using hsame
  obtain ⟨key, hkey, hwritten⟩ := hkeys
  have hne : layout.keys.filterMap (fun key => field (Change.part c key)) ≠ [] :=
    List.ne_nil_of_mem (List.mem_filterMap.mpr ⟨key, hkey, hwritten⟩)
  -- which line is the last one does not matter, since all of them have the same value
  rw [Settings.last, hvalues, List.getLast?_eq_some_getLast hne, Option.getD_some]
  exact hall _ (List.getLast_mem hne)

/-- **Settings are read back from any layout.**  Take settings that pass their check, whatever the
settings that the text starts from.  Write them down in a layout with lines for width and height, or
one for the resolution, and for the numbers of contexts and of objects, in any order and among any
other lines.  What is made of this text are the settings that were written down. -/
theorem ofText_layout (c base : Settings) (hc : c.check = .ok ()) (layout : Layout)
    (hsize : .resolution ∈ layout.keys ∨ .width ∈ layout.keys ∧ .height ∈ layout.keys)
    (hcontexts : .maxContexts ∈ layout.keys) (hobjects : .maxObjects ∈ layout.keys) :
    ofText (String.ofList (layout.text c)) base = .ok c := by
  have hvalid := (check_eq_ok_iff c).mp hc
  have hwell : ∀ pair ∈ Properties.parse (layout.text c), WellFormed pair := by
    intro pair hpair
    rw [layout.parse_text hvalid] at hpair
    obtain ⟨entry, -, hread⟩ := List.mem_filterMap.mp hpair
    exact entry.wellFormed_of_pair? hvalid hread
  have hread : (Properties.parse (String.ofList (layout.text c)).toList).foldlM assign base
      = .ok (latest base (Properties.parse (layout.text c))) := by
    rw [String.toList_ofList]
    exact foldlM_assign hwell base
  have hwidth := layout.last_parse_text hvalid Change.width rfl
    (fun key => by cases key <;> simp [Change.part])
    (hsize.elim (fun hin => ⟨_, hin, rfl⟩) fun hin => ⟨_, hin.1, rfl⟩)
  have hheight := layout.last_parse_text hvalid Change.height rfl
    (fun key => by cases key <;> simp [Change.part])
    (hsize.elim (fun hin => ⟨_, hin, rfl⟩) fun hin => ⟨_, hin.2, rfl⟩)
  have hmaxContexts := layout.last_parse_text hvalid Change.maxContexts rfl
    (fun key => by cases key <;> simp [Change.part]) ⟨_, hcontexts, rfl⟩
  have hmaxObjects := layout.last_parse_text hvalid Change.maxObjects rfl
    (fun key => by cases key <;> simp [Change.part]) ⟨_, hobjects, rfl⟩
  have hlatest : latest base (Properties.parse (layout.text c)) = c := by
    rw [latest, hwidth, hheight, hmaxContexts, hmaxObjects]
  rw [hlatest] at hread
  exact (ofText_eq_ok_iff_of_ok hread).mpr ⟨rfl, hc⟩

/-- A comment, a comment with an equals sign, an empty key, a key that nobody knows and a line
without an equals sign are in the way.  Some lines end with a carriage return, too, and the last one
has no end. -/
theorem ofText_layout_littered :
    ∃ layout : Layout,
      String.ofList (layout.text ⟨7, 5, 3, 65535⟩)
        = "#\r\n\tRESOLUTION=7x5 # = \n= 9\ncolor= 1\nmax_dcs\r\nMax_DCs = 3\nmax_objects=65535"
      ∧ ofText (String.ofList (layout.text ⟨7, 5, 3, 65535⟩)) ⟨1, 1, 1, 1⟩
        = .ok ⟨7, 5, 3, 65535⟩ := by
  have hspace : ∀ ch ∈ [' '], isBlank ch = true ∧ ch ≠ '\n' := by simp [isBlank]
  let layout : Layout :=
    { lines := [
        (⟨.words [] (by simp [Quiet]) (by simp), some ⟨[], by simp⟩⟩, .crlf),
        (⟨.setting .resolution "RESOLUTION".toList rfl ⟨['\t'], by simp [isBlank]⟩ .none .none
          ⟨[' '], hspace⟩, some ⟨" = ".toList, by decide⟩⟩, .lf),
        (⟨.stray [] " 9".toList (by simp [Quiet]) (by simp) (by intro key; cases key <;> decide),
          none⟩, .lf),
        (⟨.stray "color".toList " 1".toList (by simp [Quiet]) (by simp)
          (by intro key; cases key <;> decide), none⟩, .lf),
        (⟨.words "max_dcs".toList (by simp [Quiet]) (by simp), none⟩, .crlf),
        (⟨.setting .maxContexts "Max_DCs".toList rfl .none ⟨[' '], hspace⟩ ⟨[' '], hspace⟩ .none,
          none⟩, .lf)]
      last := ⟨.setting .maxObjects "max_objects".toList rfl .none .none .none .none, none⟩ }
  have hkeys : layout.keys = [.resolution, .maxContexts, .maxObjects] := rfl
  refine ⟨layout, rfl, ofText_layout ⟨7, 5, 3, 65535⟩ ⟨1, 1, 1, 1⟩ rfl layout ?_ ?_ ?_⟩
  · exact Or.inl (hkeys ▸ by decide)
  · exact hkeys ▸ by decide
  · exact hkeys ▸ by decide

end Paintbox.Settings

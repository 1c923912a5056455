import Paintbox.Proofs.Text.Numeral
import Paintbox.Proofs.Text.Pieces
import Paintbox.Settings.Text

/-!
# What a text makes of settings

The pairs of a text are taken one after the other.  The first one whose value is malformed is the
end of it.  If there is none, then each setting has the last value that it has been given, and only
this is tested for its range.

* `Resolution.Denotes`, `Settings.WellFormed` — the values that can be read.
* `Settings.Change` — what a pair asks for.
* `Settings.assign_of_wellFormed`, `Settings.exists_fault` — **what one pair does**: the change that
  it asks for, or a fault that does not depend on the settings.
* `Settings.latest`, `Settings.foldlM_assign` — the last values, and that pairs lead to them.
* `Properties.parse_append`, `Properties.parse_of_notMem` — the pairs of two texts, one below the
  other, and those of one line.
* **`Settings.ofText_of_pairs`** — what is made of a text as a whole, and of two of them.
-/

namespace Paintbox

open Numeral (signed32 unsigned64)

/-! ## Values -/

/-- The text stands for the resolution: there is one small letter x, and on either side of it a
positive number. -/
def Resolution.Denotes (s : List Char) (size : Resolution) : Prop :=
  ∃ left right, s = left ++ 'x' :: right ∧ 'x' ∉ left ∧ 'x' ∉ right ∧
    Numeral.Denotes signed32 (Text.trim left) size.width ∧
    Numeral.Denotes signed32 (Text.trim right) size.height ∧ 0 < size.width ∧ 0 < size.height

lemma Resolution.parse_eq_ok_iff {s : List Char} {size : Resolution} :
    Resolution.parse s = .ok size ↔ Denotes s size := by
  constructor
  · intro hread
    unfold Resolution.parse at hread
    split at hread
    · rename_i left right hpieces
      obtain ⟨htext, hleft, hright⟩ := Text.split_eq_pair_iff.mp hpieces
      split at hread
      · cases hread
      rename_i width hwidth
      split at hread
      · cases hread
      rename_i height hheight
      split_ifs at hread with hsign
      cases hread
      rw [not_or, Int.not_le, Int.not_le] at hsign
      exact ⟨left, right, htext, hleft, hright, Numeral.parse_eq_ok_iff.mp hwidth,
        Numeral.parse_eq_ok_iff.mp hheight, hsign⟩
    · cases hread
  · rintro ⟨left, right, htext, hleft, hright, hwidth, hheight, hsign⟩
    rw [Resolution.parse, Text.split_eq_pair_iff.mpr ⟨htext, hleft, hright⟩]
    simp only [Numeral.parse_eq_ok_iff.mpr hwidth, Numeral.parse_eq_ok_iff.mpr hheight]
    rw [if_neg (by omega)]

namespace Settings

/-- The value is one that the key can have. -/
def Key.Takes (key : Key) (value : List Char) : Prop :=
  match key with
  | .width | .height => ∃ n, Numeral.Denotes signed32 value n
  | .resolution => ∃ size, Resolution.Denotes value size
  | .maxContexts | .maxObjects => ∃ n, Numeral.Denotes unsigned64 value n

/-- The key of the pair is not a recognised one, or its value is one that the key can have. -/
def WellFormed (pair : List Char × List Char) : Prop :=
  ∀ key, Key.ofName? pair.1 = some key → key.Takes pair.2

/-! ## Changes -/

/-- New values for some of the settings. -/
structure Change where
  width : Option Int := none
  height : Option Int := none
  maxContexts : Option Nat := none
  maxObjects : Option Nat := none

namespace Change

def apply (change : Change) (s : Settings) : Settings where
  width := change.width.getD s.width
  height := change.height.getD s.height
  maxContexts := change.maxContexts.getD s.maxContexts
  maxObjects := change.maxObjects.getD s.maxObjects

/-- What a key with a value asks for. -/
def ofValue (value : List Char) : Key → Change
  | .width => { width := (Numeral.parse signed32 value).toOption }
  | .height => { height := (Numeral.parse signed32 value).toOption }
  | .resolution => {
      width := (Resolution.parse value).toOption.map (·.width)
      height := (Resolution.parse value).toOption.map (·.height) }
  | .maxContexts => { maxContexts := (Numeral.parse unsigned64 value).toOption.map (·.toNat) }
  | .maxObjects => { maxObjects := (Numeral.parse unsigned64 value).toOption.map (·.toNat) }

/-- What a pair asks for; nothing, if the key is not a recognised one. -/
def ofPair (pair : List Char × List Char) : Change :=
  (Key.ofName? pair.1).elim {} (ofValue pair.2)

end Change

variable {key : Key} {value : List Char} {pair : List Char × List Char}
  {before after pairs : List (List Char × List Char)} {s base : Settings}

/-- A value that the key can have is set. -/
lemma set_of_takes (hvalue : key.Takes value) :
    s.set key value = .ok ((Change.ofValue value key).apply s) := by
  cases key with
  | width | height | maxContexts | maxObjects =>
      obtain ⟨n, hn⟩ := hvalue
      have hread := Numeral.parse_eq_ok_iff.mpr hn
      simp only [set, number, Change.ofValue, hread]
      rfl
  | resolution =>
      obtain ⟨size, hsize⟩ := hvalue
      have hread := Resolution.parse_eq_ok_iff.mpr hsize
      simp only [set, Change.ofValue, hread]
      rfl

/-- Any other value is a fault, which one does not depend on the settings. -/
lemma exists_fault_of_not_takes (hvalue : ¬ key.Takes value) :
    ∃ fault, ∀ s : Settings, s.set key value = .error fault := by
  cases key with
  | width | height =>
      cases hread : Numeral.parse signed32 value with
      | ok n => exact absurd ⟨n, Numeral.parse_eq_ok_iff.mp hread⟩ hvalue
      | error fault =>
          simp only [set, number, hread]
          exact ⟨_, fun _ => rfl⟩
  | maxContexts | maxObjects =>
      cases hread : Numeral.parse unsigned64 value with
      | ok n => exact absurd ⟨n, Numeral.parse_eq_ok_iff.mp hread⟩ hvalue
      | error fault =>
          simp only [set, number, hread]
          exact ⟨_, fun _ => rfl⟩
  | resolution =>
      cases hread : Resolution.parse value with
      | ok size => exact absurd ⟨size, Resolution.parse_eq_ok_iff.mp hread⟩ hvalue
      | error fault =>
          simp only [set, hread]
          exact ⟨_, fun _ => rfl⟩

/-- A well-formed pair does what it asks for. -/
lemma assign_of_wellFormed (hpair : WellFormed pair) (s : Settings) :
    assign s pair = .ok ((Change.ofPair pair).apply s) := by
  rw [assign, Change.ofPair]
  cases hkey : Key.ofName? pair.1 with
  | none => rfl
  | some key => exact set_of_takes (hpair key hkey)

/-- A malformed pair is a fault, which one does not depend on the settings. -/
lemma exists_fault (hpair : ¬ WellFormed pair) :
    ∃ fault, ∀ s : Settings, assign s pair = .error fault := by
  simp only [WellFormed, not_forall] at hpair
  obtain ⟨key, hkey, hvalue⟩ := hpair
  obtain ⟨fault, hfault⟩ := exists_fault_of_not_takes hvalue
  refine ⟨fault, fun s => ?_⟩
  rw [assign, hkey]
  exact hfault s

/-- Whether a pair is well-formed is found out by trying it. -/
instance (pair : List Char × List Char) : Decidable (WellFormed pair) :=
  decidable_of_iff ((assign .standard pair).isOk = true) <| by
    constructor
    · intro hok
      by_contra hpair
      obtain ⟨fault, hfault⟩ := exists_fault hpair
      rw [hfault] at hok
      cases hok
    · intro hpair
      rw [assign_of_wellFormed hpair]
      rfl

/-! ## The last values -/

/-- The last value that a pair has for some setting, or else the one from before. -/
def last {α : Type} (field : Change → Option α) (default : α)
    (pairs : List (List Char × List Char)) : α :=
  (pairs.filterMap fun pair => field (Change.ofPair pair)).getLast?.getD default

/-- Each setting has the last value that a pair has for it, or else the one from before. -/
def latest (base : Settings) (pairs : List (List Char × List Char)) : Settings where
  width := last Change.width base.width pairs
  height := last Change.height base.height pairs
  maxContexts := last Change.maxContexts base.maxContexts pairs
  maxObjects := last Change.maxObjects base.maxObjects pairs

lemma last_cons {α : Type} (field : Change → Option α) (default : α)
    (pair : List Char × List Char) (pairs : List (List Char × List Char)) :
    last field default (pair :: pairs)
      = last field ((field (Change.ofPair pair)).getD default) pairs := by
  cases hvalue : field (Change.ofPair pair) with
  | none => simp only [last, List.filterMap_cons, hvalue, Option.getD_none]
  | some a =>
      simp only [last, List.filterMap_cons, hvalue, List.getLast?_cons, Option.getD_some]

lemma latest_cons (base : Settings) (pair : List Char × List Char)
    (pairs : List (List Char × List Char)) :
    latest base (pair :: pairs) = latest ((Change.ofPair pair).apply base) pairs := by
  simp only [latest, last_cons, Change.apply]

/-- Well-formed pairs lead to the last values. -/
lemma foldlM_assign (hpairs : ∀ pair ∈ pairs, WellFormed pair) (base : Settings) :
    pairs.foldlM assign base = .ok (latest base pairs) := by
  induction pairs generalizing base with
  | nil => rfl
  | cons pair pairs ih =>
      rw [List.forall_mem_cons] at hpairs
      rw [List.foldlM_cons, assign_of_wellFormed hpairs.1, latest_cons, ← ih hpairs.2]
      rfl

/-- The first malformed pair is the end of it, whatever pairs follow. -/
lemma exists_fault_foldlM (hbefore : ∀ q ∈ before, WellFormed q) (hpair : ¬ WellFormed pair)
    (base : Settings) :
    ∃ fault, (∀ s : Settings, assign s pair = .error fault) ∧
      ∀ after, (before ++ pair :: after).foldlM assign base = .error fault := by
  obtain ⟨fault, hfault⟩ := exists_fault hpair
  refine ⟨fault, hfault, fun after => ?_⟩
  rw [List.foldlM_append, foldlM_assign hbefore]
  show (pair :: after).foldlM assign (latest base before) = _
  rw [List.foldlM_cons, hfault]
  rfl

end Settings

/-! ## Texts -/

/-- The pairs of two texts, one below the other, are those of the first and those of the second. -/
lemma Properties.parse_append (a b : List Char) :
    Properties.parse (a ++ '\n' :: b) = Properties.parse a ++ Properties.parse b := by
  rw [Properties.parse, Text.split_append_cons, List.filterMap_append]
  rfl

/-- A line by itself has the pair that is on it. -/
lemma Properties.parse_of_notMem {s : List Char} (hs : '\n' ∉ s) :
    Properties.parse s = (Properties.ofLine? s).toList := by
  rw [Properties.parse, Text.split_of_notMem hs, List.filterMap_eq_flatMap_toList,
    List.flatMap_singleton]

namespace Settings

variable {text : String} {base s c : Settings} {fault : Fault}
  {before after pairs : List (List Char × List Char)}

lemma parse_below (text later : String) :
    Properties.parse (text ++ "\n" ++ later).toList
      = Properties.parse text.toList ++ Properties.parse later.toList := by
  rw [String.toList_append, String.toList_append, List.append_assoc]
  exact Properties.parse_append _ _

lemma ofText_of_error (hread : (Properties.parse text.toList).foldlM assign base = .error fault) :
    ofText text base = .error fault := by
  rw [ofText, hread]
  rfl

/-- To test settings is to check them and to keep them. -/
lemma test_eq {ε : Type} (s : Settings) (f : OutOfRange → ε) :
    (match s.checked with
      | .ok s => .ok s
      | .error which => .error (f which)) = (s.check.mapError f).map fun _ => s := by
  rw [checked]
  cases s.check <;> rfl

lemma test_eq_ok_iff {ε : Type} {f : OutOfRange → ε} :
    ((s.check.mapError f).map fun _ => s) = .ok c ↔ c = s ∧ s.check = .ok () := by
  cases s.check with
  | ok _ => simp [Except.mapError, Except.map, eq_comm]
  | error which => simp [Except.mapError, Except.map]

/-- What the pairs lead to is tested for its range. -/
lemma ofText_of_ok (hread : (Properties.parse text.toList).foldlM assign base = .ok s) :
    ofText text base = (s.check.mapError Fault.range).map fun _ => s := by
  rw [ofText, hread]
  exact test_eq s Fault.range

lemma ofText_eq_ok_iff_of_ok
    (hread : (Properties.parse text.toList).foldlM assign base = .ok s) :
    ofText text base = .ok c ↔ c = s ∧ s.check = .ok () := by
  rw [ofText_of_ok hread, test_eq_ok_iff]

/-- A text that gives settings gives those that its pairs lead to. -/
lemma foldlM_of_ofText (hc : ofText text base = .ok c) :
    (Properties.parse text.toList).foldlM assign base = .ok c := by
  cases hread : (Properties.parse text.toList).foldlM assign base with
  | error fault =>
      rw [ofText_of_error hread] at hc
      cases hc
  | ok s => rw [((ofText_eq_ok_iff_of_ok hread).mp hc).1]

/-- **The last values win, and the first fault.**  Take the pairs of a text in their order.  If the
value of a pair with a recognised key is malformed, then the first such pair decides: the answer is
its fault, which does not depend on the settings, whatever text follows below.  If there is no such
pair, each setting gets the last value that a pair has for it, and otherwise stays what it was.  The
answer is these settings exactly if they pass their check, and otherwise that they do not; a value
that has been overwritten is not tested.  So two texts, one below the other, are taken one after the
other, if the first one is good. -/
theorem ofText_of_pairs (text : String) (base : Settings) :
    (∀ before pair after, Properties.parse text.toList = before ++ pair :: after →
      (∀ q ∈ before, WellFormed q) → ¬ WellFormed pair →
        ∃ fault, (∀ s : Settings, s.assign pair = .error fault) ∧
          ofText text base = .error fault ∧
          ∀ later, ofText (text ++ "\n" ++ later) base = .error fault) ∧
    ((∀ pair ∈ Properties.parse text.toList, WellFormed pair) →
      (∀ c, ofText text base = .ok c ↔
        c = latest base (Properties.parse text.toList) ∧ c.check = .ok ()) ∧
      ∀ which, (latest base (Properties.parse text.toList)).check = .error which →
        ofText text base = .error (.range which)) ∧
    ∀ c later, ofText text base = .ok c →
      ofText (text ++ "\n" ++ later) base = ofText later c := by
  refine ⟨?_, ?_, ?_⟩
  · intro before pair after hpairs hbefore hpair
    obtain ⟨fault, hfault, hread⟩ := exists_fault_foldlM hbefore hpair base
    refine ⟨fault, hfault, ofText_of_error ?_, fun later => ofText_of_error ?_⟩
    · rw [hpairs, hread]
    · rw [parse_below, hpairs, List.append_assoc, List.cons_append, hread]
  · intro hpairs
    have hread := foldlM_assign hpairs base
    refine ⟨fun c => ?_, fun which hwhich => ?_⟩
    · rw [ofText_eq_ok_iff_of_ok hread]
      constructor
      · rintro ⟨rfl, hcheck⟩
        exact ⟨rfl, hcheck⟩
      · rintro ⟨rfl, hcheck⟩
        exact ⟨rfl, hcheck⟩
    · rw [ofText_of_ok hread, hwhich]
      rfl
  · intro c later hc
    rw [ofText, ofText, parse_below, List.foldlM_append, foldlM_of_ofText hc]
    rfl

/-- A width that is out of range is overwritten.  A number of contexts that is out of range is not
looked at, since the height below it is malformed, and neither is the last line. -/
theorem ofText_of_pairs_overwritten :
    ofText "screen_width = 70000\r\nRESOLUTION = 320x200 # small" .standard
        = .ok ⟨320, 200, 32, 256⟩ ∧
      ofText "max_dcs = 0\nscreen_height = 2OO\nmax_dcs = many" .standard
        = .error (.numeral .height .invalidDigit) := by
  constructor
  · have hpairs := (ofText_of_pairs "screen_width = 70000\r\nRESOLUTION = 320x200 # small"
      .standard).2.1 (by decide +kernel)
    exact (hpairs.1 _).mpr ⟨rfl, rfl⟩
  · obtain ⟨fault, hfault, hread, -⟩ := (ofText_of_pairs
      "max_dcs = 0\nscreen_height = 2OO\nmax_dcs = many" .standard).1
      [("max_dcs".toList, ['0'])] ("screen_height".toList, "2OO".toList)
      [("max_dcs".toList, "many".toList)] rfl (by decide +kernel) (by decide +kernel)
    rw [hread, ← hfault .standard]
    rfl

end Settings

end Paintbox

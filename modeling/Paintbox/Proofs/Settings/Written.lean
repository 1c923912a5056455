import Paintbox.Proofs.Settings.Resolution

/-!
# Settings written down

Settings are written down as decimal numerals, the size of the screen also as one resolution.  What
is written for a key can be read again, and so can the name of the key in whatever letters.

* `Settings.Key.written` — what is written for a key; `Settings.Change.part` — what it stands for.
* `Settings.Plain` — characters that mean nothing on a line: `Settings.plain_of_spelled` for keys,
  `Settings.plain_written` for values.
* `Settings.ofName?_of_spelled` — a key is recognised in any letters.
* **`Settings.takes_written`**, **`Settings.ofValue_written`** — what is written for a key is read as
  what it stands for.
-/

namespace Paintbox.Settings

open Text
open Numeral (signed32 unsigned64)

/-- The text that is written for a key: the decimal digits of its setting, or two of them around a
small letter x. -/
def Key.written (c : Settings) : Key → List Char
  | .width => (toString c.width).toList
  | .height => (toString c.height).toList
  | .resolution => (toString c.width).toList ++ 'x' :: (toString c.height).toList
  | .maxContexts => (toString c.maxContexts).toList
  | .maxObjects => (toString c.maxObjects).toList

/-- The settings that a key stands for. -/
def Change.part (c : Settings) : Key → Change
  | .width => { width := some c.width }
  | .height => { height := some c.height }
  | .resolution => { width := some c.width, height := some c.height }
  | .maxContexts => { maxContexts := some c.maxContexts }
  | .maxObjects => { maxObjects := some c.maxObjects }

variable {ch : Char} {key : Key} {spelling : List Char} {c : Settings}

/-! ## Keys -/

/-- Characters that are neither blank nor mean anything on a line. -/
def Plain (s : List Char) : Prop := ∀ ch ∈ s, isBlank ch = false ∧ ch ≠ '=' ∧ ch ≠ '#'

instance (s : List Char) : Decidable (Plain s) := List.decidableBAll _ s

lemma Plain.trim_eq {s : List Char} (hs : Plain s) : trim s = s :=
  trim_of_solid fun ch hch => (hs ch hch).1

lemma plain_name (key : Key) : Plain key.name.toList := by
  cases key <;> decide

/-- So is a name in whatever letters. -/
lemma plain_of_spelled (hspelled : spelling.map Char.toLower = key.name.toList) :
    Plain spelling := by
  have hname : ∀ ch ∈ spelling, ch.toLower = ch → ch ∈ key.name.toList := by
    intro ch hch hlower
    rw [← hspelled]
    exact List.mem_map.mpr ⟨ch, hch, hlower⟩
  refine fun ch hch => ⟨?_, ?_, ?_⟩
  · by_contra hblank
    rw [Bool.not_eq_false] at hblank
    have hplain := (plain_name key ch (hname ch hch (toLower_of_isBlank hblank))).1
    rw [hblank] at hplain
    cases hplain
  · rintro rfl
    exact (plain_name key _ (hname _ hch rfl)).2.1 rfl
  · rintro rfl
    exact (plain_name key _ (hname _ hch rfl)).2.2 rfl

lemma ofName?_of_spelled (hspelled : spelling.map Char.toLower = key.name.toList) :
    Key.ofName? spelling = some key := by
  rw [Key.ofName?, hspelled]
  cases key <;> decide

lemma ofName?_eq_none (hunknown : ∀ key : Key, spelling.map Char.toLower ≠ key.name.toList) :
    Key.ofName? spelling = none := by
  refine List.find?_eq_none.mpr fun key _ hkey => hunknown key ?_
  exact (eq_of_beq hkey).symm

/-! ## Values -/

lemma plain_digits {s : List Char} (hs : Numeral.Digits s) : Plain s := by
  intro ch hch
  have hdigit := Numeral.toNat_of_isDigit (hs.2 ch hch)
  refine ⟨isBlank_of_visible (by omega), ?_, ?_⟩
  · rintro rfl
    exact absurd hdigit (by decide)
  · rintro rfl
    exact absurd hdigit (by decide)

lemma plain_toString {i : ℤ} (hi : 0 < i) : Plain (toString i).toList :=
  plain_digits (Numeral.digits_toString hi.le)

/-- What is written for a key is plain. -/
lemma plain_written (hc : c.Valid) (key : Key) : Plain (key.written c) := by
  cases key with
  | width => exact plain_toString hc.width.1
  | height => exact plain_toString hc.height.1
  | resolution =>
      intro ch hch
      rcases List.mem_append.mp hch with hch | hch
      · exact plain_toString hc.width.1 ch hch
      · rcases List.mem_cons.mp hch with rfl | hch
        · decide
        · exact plain_toString hc.height.1 ch hch
  | maxContexts => exact plain_digits (Numeral.digits_repr c.maxContexts)
  | maxObjects => exact plain_digits (Numeral.digits_repr c.maxObjects)

lemma parse_side {i : ℤ} (hi : 0 < i ∧ i ≤ maxSide) :
    Numeral.parse signed32 (toString i).toList = .ok i :=
  Numeral.parse_toString hi.1.le (hi.2.trans (by decide))

lemma parse_slots {n : ℕ} (hn : 0 < n ∧ n ≤ maxSlots) :
    Numeral.parse unsigned64 (toString n).toList = .ok (n : ℤ) :=
  Numeral.parse_repr ((Int.ofNat_le.mpr hn.2).trans (by decide))

lemma parse_resolution (hc : c.Valid) :
    Resolution.parse (Key.resolution.written c) = .ok ⟨c.width, c.height⟩ := by
  have hside : (maxSide : ℤ) ≤ 2147483647 := by decide
  rw [Key.written, ← Resolution.toList_format]
  exact Resolution.parse_format ⟨hc.width.1, hc.width.2.trans hside⟩
    ⟨hc.height.1, hc.height.2.trans hside⟩

/-- What is written for a key is a value that the key can have. -/
lemma takes_written (hc : c.Valid) (key : Key) : key.Takes (key.written c) := by
  cases key with
  | width => exact ⟨_, Numeral.parse_eq_ok_iff.mp (parse_side hc.width)⟩
  | height => exact ⟨_, Numeral.parse_eq_ok_iff.mp (parse_side hc.height)⟩
  | resolution => exact ⟨_, Resolution.parse_eq_ok_iff.mp (parse_resolution hc)⟩
  | maxContexts => exact ⟨_, Numeral.parse_eq_ok_iff.mp (parse_slots hc.maxContexts)⟩
  | maxObjects => exact ⟨_, Numeral.parse_eq_ok_iff.mp (parse_slots hc.maxObjects)⟩

/-- **What is written for a key asks for the settings that the key stands for.** -/
lemma ofValue_written (hc : c.Valid) (key : Key) :
    Change.ofValue (key.written c) key = Change.part c key := by
  cases key with
  | width => rw [Change.ofValue, Key.written, parse_side hc.width]; rfl
  | height => rw [Change.ofValue, Key.written, parse_side hc.height]; rfl
  | resolution => rw [Change.ofValue, parse_resolution hc]; rfl
  | maxContexts => rw [Change.ofValue, Key.written, parse_slots hc.maxContexts]; rfl
  | maxObjects => rw [Change.ofValue, Key.written, parse_slots hc.maxObjects]; rfl

end Paintbox.Settings

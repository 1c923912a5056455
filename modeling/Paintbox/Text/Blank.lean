/-!
# Blank characters, and cutting text at characters

Text is handled as a list of characters.

* `Text.isBlank` — the Unicode property `White_Space`.
* `Text.trim` — a text without the blanks at its two ends.
* `Text.split` — the pieces between the occurrences of a character.
* `Text.cut?` — what is before and after the first occurrence of a character.
-/

namespace Paintbox.Text

/-- The characters with the property `White_Space`. -/
def isBlank (c : Char) : Bool :=
  let n := c.toNat
  (9 ≤ n && n ≤ 13) || n == 0x20 || n == 0x85 || n == 0xA0 || n == 0x1680 ||
    (0x2000 ≤ n && n ≤ 0x200A) || n == 0x2028 || n == 0x2029 || n == 0x202F || n == 0x205F ||
    n == 0x3000

/-- What the ASCII alphabet calls white space is blank. -/
theorem isBlank_of_isWhitespace {c : Char} (h : c.isWhitespace = true) : isBlank c = true := by
  simp only [Char.isWhitespace, Bool.or_eq_true, decide_eq_true_eq] at h
  rcases h with ((rfl | rfl) | rfl) | rfl <;> rfl

def trimStart (s : List Char) : List Char := s.dropWhile isBlank

def trimEnd (s : List Char) : List Char := (s.reverse.dropWhile isBlank).reverse

/-- The text without the blanks at its start and its end. -/
def trim (s : List Char) : List Char := trimEnd (trimStart s)

/-- The pieces between the occurrences of a character: one more than there are occurrences. -/
def split (sep : Char) : List Char → List (List Char)
  | [] => [[]]
  | c :: cs =>
      if c = sep then
        [] :: split sep cs
      else
        match split sep cs with
        | [] => [[c]]
        | piece :: pieces => (c :: piece) :: pieces

/-- A text has one piece more than it has separators. -/
theorem length_split (sep : Char) (s : List Char) :
    (split sep s).length = s.count sep + 1 := by
  induction s with
  | nil => rfl
  | cons c cs ih =>
      by_cases h : c = sep
      · simp [split, h, ih]
      · rw [split, if_neg h, List.count_cons_of_ne h, ← ih]
        split <;> simp_all

theorem sep_not_mem_of_mem_split {sep : Char} {s piece : List Char}
    (h : piece ∈ split sep s) : sep ∉ piece := by
  induction s generalizing piece with
  | nil => simp_all [split]
  | cons c cs ih =>
      rw [split] at h
      split at h
      · rcases List.mem_cons.mp h with rfl | h
        · exact List.not_mem_nil
        · exact ih h
      · rename_i hc
        split at h
        · simp_all [Ne.symm hc]
        · rename_i first rest hs
          rcases List.mem_cons.mp h with rfl | h
          · have := ih (hs ▸ List.mem_cons_self)
            simp_all [Ne.symm hc]
          · exact ih (hs ▸ List.mem_cons_of_mem first h)

/-- What is before the first occurrence of a character, and what is after it. -/
def cut? (sep : Char) (s : List Char) : Option (List Char × List Char) :=
  if sep ∈ s then some (s.takeWhile (· ≠ sep), (s.dropWhile (· ≠ sep)).tail) else none

end Paintbox.Text

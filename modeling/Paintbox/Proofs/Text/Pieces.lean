import Mathlib
import Paintbox.Text.Blank

/-!
# Texts put together and taken apart

A text that is put together from pieces with a character between them comes apart into these pieces
again, and blanks that are put around a text are taken off again.

* `Text.split_append_cons`, `Text.split_of_notMem`, `Text.split_eq_pair_iff` — pieces.
* `Text.isBlank_of_visible` — which characters are not blank.
* `Text.trim_padded`, `Text.exists_padding` — **blanks around a text do not matter**, and nothing else
  is trimmed off; `Text.trim_of_solid` — a text without blanks is left alone.
* `Text.trim_append_cons` — the two parts around a character are trimmed on their own.
* `Text.cut?_append_cons` — what is before the first occurrence of a character, and what is after.
-/

namespace Paintbox.Text

variable {sep c : Char} {s a b l r : List Char}

/-! ## Pieces -/

lemma split_ne_nil (sep : Char) (s : List Char) : split sep s ≠ [] := by
  intro hnil
  have hlength := length_split sep s
  rw [hnil] at hlength
  cases hlength

/-- The pieces of a text with a separator in it are those before it and those after it. -/
lemma split_append_cons (sep : Char) (a b : List Char) :
    split sep (a ++ sep :: b) = split sep a ++ split sep b := by
  induction a with
  | nil => exact if_pos rfl
  | cons c a ih =>
      rw [List.cons_append, split, split]
      split_ifs with hc
      · rw [ih, List.cons_append]
      · obtain ⟨piece, pieces, hpieces⟩ := List.exists_cons_of_ne_nil (split_ne_nil sep a)
        rw [ih, hpieces, List.cons_append]
        rfl

lemma split_of_notMem (hs : sep ∉ s) : split sep s = [s] := by
  induction s with
  | nil => rfl
  | cons c s ih =>
      rw [List.mem_cons, not_or] at hs
      rw [split, if_neg (Ne.symm hs.1), ih hs.2]

/-- The pieces with the separator between them are the text. -/
lemma intercalate_split (sep : Char) (s : List Char) : [sep].intercalate (split sep s) = s := by
  induction s with
  | nil => rfl
  | cons c s ih =>
      obtain ⟨piece, pieces, hpieces⟩ := List.exists_cons_of_ne_nil (split_ne_nil sep s)
      rw [hpieces] at ih
      rw [split]
      split_ifs with hc
      · rw [hpieces, hc, List.intercalate_cons_cons, ih]
        rfl
      · rw [hpieces]
        -- the first piece grows at its front, whether it is the last one or not
        cases pieces with
        | nil => exact congrArg (c :: ·) ih
        | cons next pieces =>
            rw [List.intercalate_cons_cons] at ih ⊢
            exact congrArg (c :: ·) ih

/-- There are two pieces if there is one separator. -/
lemma split_eq_pair_iff :
    split sep s = [l, r] ↔ s = l ++ sep :: r ∧ sep ∉ l ∧ sep ∉ r := by
  constructor
  · intro hpieces
    have htext := intercalate_split sep s
    rw [hpieces] at htext
    refine ⟨?_, sep_not_mem_of_mem_split (s := s) (hpieces ▸ List.mem_cons_self),
      sep_not_mem_of_mem_split (s := s) (hpieces ▸ .tail _ (.head _))⟩
    rw [← htext, List.intercalate_cons_cons, List.intercalate_singleton, List.append_assoc,
      List.singleton_append]
  · rintro ⟨rfl, hl, hr⟩
    rw [split_append_cons, split_of_notMem hl, split_of_notMem hr]
    rfl

/-! ## Blanks -/

/-- The visible ASCII characters are not blank. -/
lemma isBlank_of_visible (hc : 33 ≤ c.toNat ∧ c.toNat ≤ 126) : isBlank c = false := by
  simp only [isBlank, Bool.or_eq_false_iff, Bool.and_eq_false_iff, decide_eq_false_iff_not,
    beq_eq_false_iff_ne]
  omega

/-- Blanks have no capital form. -/
lemma toLower_of_isBlank (hc : isBlank c = true) : c.toLower = c := by
  rw [Char.toLower, dif_neg]
  rintro ⟨hlow, hhigh⟩
  have hcapital : 65 ≤ c.toNat ∧ c.toNat ≤ 90 := ⟨hlow, hhigh⟩
  rw [isBlank_of_visible (by omega)] at hc
  cases hc

lemma trimStart_append (ha : ∀ c ∈ a, isBlank c = true) (s : List Char) :
    trimStart (a ++ s) = trimStart s :=
  List.dropWhile_append_of_pos ha

lemma trimEnd_append (hb : ∀ c ∈ b, isBlank c = true) (s : List Char) :
    trimEnd (s ++ b) = trimEnd s := by
  rw [trimEnd, List.reverse_append,
    List.dropWhile_append_of_pos fun c hc => hb c (List.mem_reverse.mp hc), trimEnd]

/-- Nothing is taken off behind a character that is not blank. -/
lemma trimStart_append_cons (hc : isBlank c = false) (l r : List Char) :
    trimStart (l ++ c :: r) = trimStart l ++ c :: r := by
  rw [trimStart, trimStart, List.dropWhile_append]
  split_ifs with hl
  · rw [List.isEmpty_iff.mp hl, List.dropWhile_cons_of_neg (by rw [hc]; exact Bool.false_ne_true),
      List.nil_append]
  · rfl

/-- Nothing is taken off before a character that is not blank. -/
lemma trimEnd_append_cons (hc : isBlank c = false) (l r : List Char) :
    trimEnd (l ++ c :: r) = l ++ c :: trimEnd r := by
  have hstart := trimStart_append_cons hc r.reverse l.reverse
  rw [trimEnd, List.reverse_append, List.reverse_cons, List.append_assoc, List.singleton_append]
  rw [trimStart] at hstart
  rw [hstart, List.reverse_append, List.reverse_cons, List.reverse_reverse, List.append_assoc,
    List.singleton_append, trimStart, trimEnd]

/-- The two ends may be trimmed in either order. -/
lemma trimStart_trimEnd (s : List Char) : trimStart (trimEnd s) = trimEnd (trimStart s) := by
  have hparts : s.takeWhile isBlank ++ trimStart s = s := List.takeWhile_append_dropWhile
  have hblank : ∀ c ∈ s.takeWhile isBlank, isBlank c = true := fun c hc => List.mem_takeWhile_imp hc
  cases hrest : trimStart s with
  | nil =>
      rw [hrest, List.append_nil] at hparts
      have hend : trimEnd s = [] := by
        rw [← hparts, ← List.nil_append (s.takeWhile isBlank), trimEnd_append hblank]
        rfl
      rw [hend]
      rfl
  | cons c rest =>
      have hc : isBlank c = false := by
        have hhead := List.head?_dropWhile_not isBlank s
        rwa [← trimStart, hrest] at hhead
      have hkeep : trimStart (c :: trimEnd rest) = c :: trimEnd rest :=
        trimStart_append_cons hc [] _
      have hend : trimEnd (c :: rest) = c :: trimEnd rest := trimEnd_append_cons hc [] rest
      rw [← hparts, hrest, trimEnd_append_cons hc, trimStart_append hblank, hkeep, hend]

/-- **Blanks around a text do not matter.** -/
lemma trim_padded (ha : ∀ c ∈ a, isBlank c = true) (hb : ∀ c ∈ b, isBlank c = true)
    (s : List Char) : trim (a ++ (s ++ b)) = trim s := by
  rw [trim, trimStart_append ha, ← trimStart_trimEnd, trimEnd_append hb, trimStart_trimEnd, trim]

/-- What is trimmed off a text are the blanks around it. -/
lemma exists_padding (s : List Char) :
    ∃ a b, (∀ c ∈ a, isBlank c = true) ∧ (∀ c ∈ b, isBlank c = true) ∧ s = a ++ (trim s ++ b) := by
  refine ⟨s.takeWhile isBlank, ((trimStart s).reverse.takeWhile isBlank).reverse,
    fun c hc => List.mem_takeWhile_imp hc,
    fun c hc => List.mem_takeWhile_imp (List.mem_reverse.mp hc), ?_⟩
  have hend : trim s ++ ((trimStart s).reverse.takeWhile isBlank).reverse = trimStart s := by
    rw [trim, trimEnd, ← List.reverse_append, List.takeWhile_append_dropWhile, List.reverse_reverse]
  rw [hend, trimStart, List.takeWhile_append_dropWhile]

lemma trim_trimStart (s : List Char) : trim (trimStart s) = trim s := by
  rw [trim, trimStart, trimStart, List.dropWhile_idempotent]
  rfl

lemma trim_trimEnd (s : List Char) : trim (trimEnd s) = trim s := by
  rw [trim, trimStart_trimEnd, trimEnd, trimEnd, List.reverse_reverse, List.dropWhile_idempotent]
  rfl

/-- The two parts around a character that is not blank are trimmed on the outside. -/
lemma trim_append_cons (hc : isBlank c = false) (l r : List Char) :
    trim (l ++ c :: r) = trimStart l ++ c :: trimEnd r := by
  rw [trim, trimStart_append_cons hc, trimEnd_append_cons hc]

lemma trimStart_of_solid (hs : ∀ c ∈ s, isBlank c = false) : trimStart s = s := by
  cases s with
  | nil => rfl
  | cons c s => exact trimStart_append_cons (hs c List.mem_cons_self) [] s

/-- A text without blanks is left alone. -/
lemma trim_of_solid (hs : ∀ c ∈ s, isBlank c = false) : trim s = s := by
  have hback : s.reverse.dropWhile isBlank = s.reverse :=
    trimStart_of_solid fun c hc => hs c (List.mem_reverse.mp hc)
  rw [trim, trimStart_of_solid hs, trimEnd, hback, List.reverse_reverse]

lemma mem_of_mem_trim (hc : c ∈ trim s) : c ∈ s := by
  rw [trim, trimEnd, List.mem_reverse] at hc
  have hin := (List.dropWhile_suffix isBlank).subset hc
  rw [List.mem_reverse] at hin
  exact (List.dropWhile_suffix isBlank).subset hin

/-! ## Cuts -/

lemma cut?_append_cons (hl : sep ∉ l) (r : List Char) :
    cut? sep (l ++ sep :: r) = some (l, r) := by
  have hkeep : ∀ c ∈ l, decide (c ≠ sep) = true := fun c hc =>
    decide_eq_true fun hsame => hl (hsame ▸ hc)
  rw [cut?, if_pos (List.mem_append_right _ List.mem_cons_self),
    List.takeWhile_append_of_pos hkeep, List.dropWhile_append_of_pos hkeep]
  simp

lemma cut?_of_notMem (hs : sep ∉ s) : cut? sep s = none := if_neg hs

end Paintbox.Text

import Paintbox.Proofs.Settings.Text

/-!
# How a resolution is written

A resolution is read by cutting its text at the letter x, trimming the two pieces and reading each
of them as a number with a sign.  What can be read in this way is told here without any of it, as a
text that is put together from blanks, signs and digits.  In particular no minus sign leads to a
resolution, not even before a zero, and leading zeros do no harm, however many there are.

* `exists_error_iff` — to fail is not to succeed.
* `Resolution.Side`, `Resolution.Written` — **the texts of a resolution**.
* `Resolution.side_iff` — a side of one is a positive number with blanks around it.
* `Resolution.written_iff_denotes` — what is written is what the text stands for.
* `Resolution.format`, `Resolution.parse_format` — two numbers with a letter x between them.
* `Resolution.parse_iff_written` — exactly the texts of a resolution are read.
-/

namespace Paintbox

/-- Where nothing is answered there is an error. -/
lemma exists_error_iff {ε α : Type} {x : Except ε α} :
    (∃ e, x = .error e) ↔ ¬ ∃ a, x = .ok a := by
  cases x with
  | ok a => simp
  | error e => simp

namespace Resolution

open Numeral (signed32 Digits)

/-- The text of one side: decimal digits with blanks around them, with a plus sign in front or
without.  Their number is positive and fits into a signed word of 32 bits. -/
inductive Side : List Char → ℤ → Prop where
  | mk {before sign digits after : List Char}
      (hbefore : ∀ c ∈ before, Text.isBlank c = true) (hsign : sign = [] ∨ sign = ['+'])
      (hdigits : Digits digits) (hafter : ∀ c ∈ after, Text.isBlank c = true)
      (hpos : 1 ≤ Nat.ofDigitChars 10 digits 0) (hle : Nat.ofDigitChars 10 digits 0 ≤ 2147483647) :
      Side (before ++ (sign ++ digits ++ after)) (Nat.ofDigitChars 10 digits 0)

/-- The text of a resolution: it has one small letter x, and the sides on either side of it. -/
def Written (s : List Char) (size : Resolution) : Prop :=
  s.count 'x' = 1 ∧
    ∃ left right, s = left ++ 'x' :: right ∧ Side left size.width ∧ Side right size.height

/-- Two numbers with a letter x between them. -/
def format (w h : ℤ) : String := s!"{w}x{h}"

variable {s sign digits : List Char} {n w h : ℤ} {size : Resolution}

/-! ## Sides -/

/-- There is no blank in a numeral. -/
lemma trim_numeral (hsign : sign = [] ∨ sign = ['+']) (hdigits : Digits digits) :
    Text.trim (sign ++ digits) = sign ++ digits := by
  refine Text.trim_of_solid fun c hc => Text.isBlank_of_visible ?_
  rcases List.mem_append.mp hc with hc | hc
  · rcases hsign with rfl | rfl
    · cases hc
    · rw [List.mem_singleton.mp hc]
      decide
  · have hdigit := Numeral.toNat_of_isDigit (hdigits.2 c hc)
    omega

/-- A side is a positive number with blanks around it. -/
lemma side_iff : Side s n ↔ Numeral.Denotes signed32 (Text.trim s) n ∧ 0 < n := by
  constructor
  · rintro ⟨hbefore, hsign, hdigits, hafter, hpos, hle⟩
    rw [Text.trim_padded hbefore hafter, trim_numeral hsign hdigits]
    refine ⟨⟨?_, signed32.low_le.trans (Int.natCast_nonneg _), Int.ofNat_le.mpr hle⟩, by omega⟩
    rcases hsign with rfl | rfl
    · exact .plain hdigits
    · exact .plus hdigits
  · rintro ⟨⟨hspells, -, hhigh⟩, hpos⟩
    have hle : n ≤ 2147483647 := hhigh
    obtain ⟨before, after, hbefore, hafter, htext⟩ := Text.exists_padding s
    generalize Text.trim s = numeral at hspells htext
    rw [htext]
    cases hspells with
    | plain hdigits =>
        exact .mk hbefore (Or.inl rfl) hdigits hafter (by omega) (by omega)
    | plus hdigits =>
        exact .mk hbefore (Or.inr rfl) hdigits hafter (by omega) (by omega)
    | minus hdigits _ =>
        -- the negative of a natural number is not positive
        omega

/-! ## Resolutions -/

/-- What is written is what the text stands for. -/
lemma written_iff_denotes : Written s size ↔ Denotes s size := by
  constructor
  · rintro ⟨hcount, left, right, rfl, hleft, hright⟩
    rw [List.count_append, List.count_cons_self] at hcount
    obtain ⟨hwidth, hw⟩ := side_iff.mp hleft
    obtain ⟨hheight, hh⟩ := side_iff.mp hright
    exact ⟨left, right, rfl, List.count_eq_zero.mp (by omega), List.count_eq_zero.mp (by omega),
      hwidth, hheight, hw, hh⟩
  · rintro ⟨left, right, rfl, hleft, hright, hwidth, hheight, hw, hh⟩
    refine ⟨?_, left, right, rfl, side_iff.mpr ⟨hwidth, hw⟩, side_iff.mpr ⟨hheight, hh⟩⟩
    rw [List.count_append, List.count_cons_self, List.count_eq_zero.mpr hleft,
      List.count_eq_zero.mpr hright]

/-- There is no letter x in a number. -/
lemma x_notMem_toString (hn : 0 ≤ n) : 'x' ∉ (toString n).toList := fun hx =>
  absurd (Numeral.toNat_of_isDigit ((Numeral.digits_toString hn).2 _ hx)) (by decide)

lemma trim_toString (hn : 0 ≤ n) : Text.trim (toString n).toList = (toString n).toList :=
  trim_numeral (Or.inl rfl) (Numeral.digits_toString hn)

lemma toList_format (w h : ℤ) :
    (format w h).toList = (toString w).toList ++ 'x' :: (toString h).toList := by
  simp only [format, String.toList_append]
  exact List.append_assoc _ _ _

/-- Two positive numbers with a letter x between them are read as a resolution. -/
lemma parse_format (hw : 1 ≤ w ∧ w ≤ 2147483647) (hh : 1 ≤ h ∧ h ≤ 2147483647) :
    parse (format w h).toList = .ok ⟨w, h⟩ := by
  have hpos : 0 ≤ w ∧ 0 ≤ h := by omega
  rw [toList_format]
  refine parse_eq_ok_iff.mpr ⟨_, _, rfl, x_notMem_toString hpos.1, x_notMem_toString hpos.2, ?_, ?_,
    hw.1, hh.1⟩
  · rw [trim_toString hpos.1]
    exact Numeral.parse_eq_ok_iff.mp (Numeral.parse_toString hpos.1 hw.2)
  · rw [trim_toString hpos.2]
    exact Numeral.parse_eq_ok_iff.mp (Numeral.parse_toString hpos.2 hh.2)

/-- **Exactly the texts of a resolution are read**, and as what they are written for: one small
letter x, and on either side of it decimal digits whose number is from 1 to 2147483647, with a plus
sign in front or without, and with blanks around them.  Every other text is an error.  So two such
numbers with a letter x between them can be read again. -/
theorem parse_iff_written (s : String) (w h : ℤ) :
    (∀ size, parse s.toList = .ok size ↔ Written s.toList size) ∧
    ((∃ fault, parse s.toList = .error fault) ↔ ¬ ∃ size, Written s.toList size) ∧
    (1 ≤ w ∧ w ≤ 2147483647 → 1 ≤ h ∧ h ≤ 2147483647 →
      parse (format w h).toList = .ok ⟨w, h⟩) := by
  have hread : ∀ size, parse s.toList = .ok size ↔ Written s.toList size := fun size =>
    parse_eq_ok_iff.trans written_iff_denotes.symm
  refine ⟨hread, ?_, parse_format⟩
  rw [exists_error_iff, exists_congr hread]

/-- A sign, zeros in front and blanks of several kinds do no harm; a capital letter does, and so
does the first number that is too large. -/
theorem parse_iff_written_padded :
    Written "\t+00640 x\u2003480\u00A0".toList ⟨640, 480⟩ ∧
      (¬ ∃ size, Written "640X480".toList size) ∧
      (¬ ∃ size, Written "2147483648x1".toList size) ∧
      parse (format 2147483647 1).toList = .ok ⟨2147483647, 1⟩ := by
  refine ⟨?_, ?_, ?_, ?_⟩
  · exact ((parse_iff_written "\t+00640 x\u2003480\u00A0" 1 1).1 _).mp rfl
  · exact (parse_iff_written "640X480" 1 1).2.1.mp ⟨.form, rfl⟩
  · exact (parse_iff_written "2147483648x1" 1 1).2.1.mp ⟨.width .tooLarge, rfl⟩
  · exact (parse_iff_written "" 2147483647 1).2.2 (by decide) (by decide)

end Resolution

end Paintbox

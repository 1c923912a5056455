import Mathlib
import Paintbox.Text.Utf8

/-!
# What broken text is read as

A reader of bytes that should be UTF-8 keeps a few bits and a range for the next byte.  What it
reads can be said without them, by the encodings of characters alone: from left to right, the bytes
are either the encoding of a character, or a start of one that is not gone on with, or a byte that
starts none; and each of the last two becomes a replacement character.

* `Utf8.Starts`, `Utf8.BrokenOff` — starts of characters, and those that break off.
* `Utf8.Lossy` — **how bytes are read**.
* `Utf8.Lead`, `Utf8.lead_begin` — what a first byte begins.
* `Utf8.Completes`, `Utf8.completes_of_encode`, `Utf8.encode_of_completes` — the bytes that a reader
  inside a character waits for are those that the encoding of the character has left.
* `Utf8.Inside` — the bytes that have brought a reader into a character;
  `Utf8.Inside.starts_append_iff` — its range tells the bytes that the character goes on with.
* `Utf8.lossy_iff` — bytes are read in one way, and the reader finds it.
-/

namespace Paintbox.Utf8

open String (utf8EncodeChar)

/-! ## How bytes are read -/

/-- The bytes are a start of the encoding of some character. -/
def Starts (bytes : List UInt8) : Prop := ∃ c, bytes <+: utf8EncodeChar c

/-- The bytes start a character, which the rest does not go on with. -/
structure BrokenOff (start rest : List UInt8) : Prop where
  nonempty : start ≠ []
  starts : Starts start
  incomplete : ∀ c, utf8EncodeChar c ≠ start
  ends : ∀ b ∈ rest.head?, ¬ Starts (start ++ [b])

/-- How bytes are read that need not be well-formed. -/
inductive Lossy : List UInt8 → List Char → Prop where
  | nil : Lossy [] []
  | character (c : Char) {rest : List UInt8} {chars : List Char} (hrest : Lossy rest chars) :
      Lossy (utf8EncodeChar c ++ rest) (c :: chars)
  /-- A byte that starts no character. -/
  | stray {b : UInt8} {rest : List UInt8} {chars : List Char} (hb : ¬ Starts [b])
      (hrest : Lossy rest chars) : Lossy (b :: rest) ('\uFFFD' :: chars)
  /-- As much of a character as there is. -/
  | broken {start rest : List UInt8} {chars : List Char} (hstart : BrokenOff start rest)
      (hrest : Lossy rest chars) : Lossy (start ++ rest) ('\uFFFD' :: chars)

/-! ## First bytes -/

/-- What a first byte begins.  After four of them not every byte may follow that could otherwise:
the encoding would be longer than needed, that of a surrogate, or beyond the last code point. -/
inductive Lead (b : UInt8) : List Char × Reader → Prop where
  | single (hb : b.toNat < 0x80) : Lead b ([Char.ofNat b.toNat], .idle)
  | stray (hb : 0x80 ≤ b.toNat ∧ b.toNat < 0xC2 ∨ 0xF5 ≤ b.toNat) : Lead b ([replacement], .idle)
  | two {bits : ℕ} {low high : UInt8} (hb : 0xC2 ≤ b.toNat ∧ b.toNat < 0xE0)
      (hbits : b.toNat = bits + 0xC0) (hlow : low.toNat = 0x80) (hhigh : high.toNat = 0xBF) :
      Lead b ([], .within bits 0 low high)
  | three {bits : ℕ} {low high : UInt8} (hb : b.toNat < 0xF0) (hbits : b.toNat = bits + 0xE0)
      (hlow : low.toNat = if bits = 0 then 0xA0 else 0x80)
      (hhigh : high.toNat = if bits = 0xD then 0x9F else 0xBF) :
      Lead b ([], .within bits 1 low high)
  | four {bits : ℕ} {low high : UInt8} (hb : b.toNat < 0xF5) (hbits : b.toNat = bits + 0xF0)
      (hlow : low.toNat = if bits = 0 then 0x90 else 0x80)
      (hhigh : high.toNat = if bits = 4 then 0x8F else 0xBF) :
      Lead b ([], .within bits 2 low high)

lemma lead_begin (b : UInt8) : Lead b (begin b) := by
  unfold begin
  simp only [UInt8.lt_iff_toNat_lt, ← UInt8.toNat_inj, UInt8.reduceToNat]
  split_ifs with h₁ h₂ h₃ h₄ h₅ h₆ h₇ h₈ h₉
  · exact .single h₁
  · exact .stray (by omega)
  · exact .two (by omega) (by omega) rfl rfl
  · exact .three (by omega) (by omega) rfl rfl
  · exact .three (by omega) (by omega) rfl rfl
  · exact .three (by omega) (by omega) (by rw [if_neg (by omega)]; rfl)
      (by rw [if_neg (by omega)]; rfl)
  · exact .four (by omega) (by omega) rfl rfl
  · exact .four (by omega) (by omega) (by rw [if_neg (by omega)]; rfl)
      (by rw [if_neg (by omega)]; rfl)
  · exact .four (by omega) (by omega) rfl rfl
  · exact .stray (by omega)

/-! ## Encodings -/

lemma toNat_ofNat_of_valid {n : ℕ} (h : n.isValidChar) : (Char.ofNat n).val.toNat = n := by
  rw [Char.ofNat, dif_pos h]
  rfl

/-- A byte that is made of a small number. -/
lemma toNat_ofNat_of_lt {n : ℕ} (h : n < 256) : (UInt8.ofNat n).toNat = n := by
  rw [UInt8.toNat_ofNat', Nat.mod_eq_of_lt h]

lemma encode_one {n : ℕ} (h : n < 0x80) : utf8EncodeChar (Char.ofNat n) = [UInt8.ofNat n] := by
  have hn := toNat_ofNat_of_valid (n := n) (.inl (by omega))
  simp only [utf8EncodeChar, hn]
  rw [if_pos (by omega)]

lemma encode_two {n : ℕ} (h : 0x80 ≤ n ∧ n < 0x800) :
    utf8EncodeChar (Char.ofNat n) = [UInt8.ofNat (n / 64 + 0xC0), UInt8.ofNat (n % 64 + 0x80)] := by
  have hn := toNat_ofNat_of_valid (n := n) (.inl (by omega))
  simp only [utf8EncodeChar, hn]
  rw [if_neg (by omega), if_pos (by omega), Nat.mod_eq_of_lt (a := n / 64) (by omega)]

lemma encode_three {n : ℕ} (h : 0x800 ≤ n ∧ n < 0x10000) (hvalid : n.isValidChar) :
    utf8EncodeChar (Char.ofNat n)
      = [UInt8.ofNat (n / 4096 + 0xE0), UInt8.ofNat (n / 64 % 64 + 0x80),
          UInt8.ofNat (n % 64 + 0x80)] := by
  have hn := toNat_ofNat_of_valid hvalid
  simp only [utf8EncodeChar, hn]
  rw [if_neg (by omega), if_neg (by omega), if_pos (by omega),
    Nat.mod_eq_of_lt (a := n / 4096) (by omega)]

lemma encode_four {n : ℕ} (h : 0x10000 ≤ n ∧ n < 0x110000) :
    utf8EncodeChar (Char.ofNat n)
      = [UInt8.ofNat (n / 262144 + 0xF0), UInt8.ofNat (n / 4096 % 64 + 0x80),
          UInt8.ofNat (n / 64 % 64 + 0x80), UInt8.ofNat (n % 64 + 0x80)] := by
  have hn := toNat_ofNat_of_valid (n := n) (.inr (by omega))
  simp only [utf8EncodeChar, hn]
  rw [if_neg (by omega), if_neg (by omega), if_neg (by omega),
    Nat.mod_eq_of_lt (a := n / 262144) (by omega)]

/-! ## Completing a character -/

/-- The bytes complete the character that a reader is inside. -/
inductive Completes : Reader → List UInt8 → Char → Prop where
  | last {bits : ℕ} {low high b : UInt8} (hlow : low ≤ b) (hhigh : b ≤ high) :
      Completes (.within bits 0 low high) [b] (Char.ofNat (bits * 64 + (b.toNat - 0x80)))
  | next {bits left : ℕ} {low high b : UInt8} {rest : List UInt8} {c : Char} (hlow : low ≤ b)
      (hhigh : b ≤ high)
      (hrest : Completes (.within (bits * 64 + (b.toNat - 0x80)) left 0x80 0xBF) rest c) :
      Completes (.within bits (left + 1) low high) (b :: rest) c

namespace Completes

variable {bits left n : ℕ} {low high : UInt8} {rest : List UInt8} {c : Char}

/-- The byte that is made of the last six bits. -/
lemma of_last (hlow : low.toNat ≤ n % 64 + 0x80) (hhigh : n % 64 + 0x80 ≤ high.toNat) :
    Completes (.within (n / 64) 0 low high) [UInt8.ofNat (n % 64 + 0x80)] (Char.ofNat n) := by
  have hbyte : (UInt8.ofNat (n % 64 + 0x80)).toNat = n % 64 + 0x80 := toNat_ofNat_of_lt (by omega)
  have hn : n / 64 * 64 + n % 64 = n := by omega
  have hlast : Completes (.within (n / 64) 0 low high) [UInt8.ofNat (n % 64 + 0x80)] _ :=
    .last (by rwa [UInt8.le_iff_toNat_le, hbyte]) (by rwa [UInt8.le_iff_toNat_le, hbyte])
  rwa [hbyte, Nat.add_sub_cancel, hn] at hlast

/-- The byte that is made of the next six bits. -/
lemma of_next (hlow : low.toNat ≤ n % 64 + 0x80) (hhigh : n % 64 + 0x80 ≤ high.toNat)
    (hrest : Completes (.within n left 0x80 0xBF) rest c) :
    Completes (.within (n / 64) (left + 1) low high) (UInt8.ofNat (n % 64 + 0x80) :: rest) c := by
  have hbyte : (UInt8.ofNat (n % 64 + 0x80)).toNat = n % 64 + 0x80 := toNat_ofNat_of_lt (by omega)
  have hn : n / 64 * 64 + n % 64 = n := by omega
  refine .next (by rwa [UInt8.le_iff_toNat_le, hbyte]) (by rwa [UInt8.le_iff_toNat_le, hbyte]) ?_
  rwa [hbyte, Nat.add_sub_cancel, hn]

/-- Where nothing else is asked of them, any six bits will do. -/
lemma six_bits (n : ℕ) :
    (0x80 : UInt8).toNat ≤ n % 64 + 0x80 ∧ n % 64 + 0x80 ≤ (0xBF : UInt8).toNat := by
  simp only [UInt8.reduceToNat]
  omega

lemma eq_last (h : Completes (.within bits 0 low high) rest c) :
    ∃ b, rest = [b] ∧ low.toNat ≤ b.toNat ∧ b.toNat ≤ high.toNat ∧
      c = Char.ofNat (bits * 64 + (b.toNat - 0x80)) := by
  cases h with
  | last hlow hhigh => exact ⟨_, rfl, hlow, hhigh, rfl⟩

lemma eq_next (h : Completes (.within bits (left + 1) low high) rest c) :
    ∃ b tail, rest = b :: tail ∧ low.toNat ≤ b.toNat ∧ b.toNat ≤ high.toNat ∧
      Completes (.within (bits * 64 + (b.toNat - 0x80)) left 0x80 0xBF) tail c := by
  cases h with
  | next hlow hhigh hrest => exact ⟨_, _, rfl, hlow, hhigh, hrest⟩

end Completes

/-- The encoding of a character starts with a byte that begins it and completes it with the rest. -/
lemma completes_of_encode {b : UInt8} {tail : List UInt8} {c : Char}
    (h : utf8EncodeChar c = b :: tail) :
    (b.toNat < 0x80 ∧ tail = [] ∧ Char.ofNat b.toNat = c) ∨
      ∃ r, begin b = ([], r) ∧ Completes r tail c := by
  have hlead := lead_begin b
  have hvalid : c.val.toNat < 0xD800 ∨ 0xDFFF < c.val.toNat ∧ c.val.toNat < 0x110000 := c.valid
  have hc : Char.ofNat c.val.toNat = c := Char.ofNat_toNat c
  generalize c.val.toNat = n at hvalid hc
  subst hc
  generalize begin b = x at hlead
  by_cases h₁ : n < 0x80
  · rw [encode_one h₁] at h
    obtain ⟨rfl, rfl⟩ := List.cons.inj h
    rw [toNat_ofNat_of_lt (by omega)]
    exact Or.inl ⟨h₁, rfl, rfl⟩
  by_cases h₂ : n < 0x800
  · rw [encode_two ⟨by omega, h₂⟩] at h
    obtain ⟨hb, rfl⟩ := List.cons.inj h
    have hbn : b.toNat = n / 64 + 0xC0 := by rw [← hb, toNat_ofNat_of_lt (by omega)]
    cases hlead with
    | @two bits low high hb hbits hlow hhigh =>
        obtain rfl : bits = n / 64 := by omega
        exact Or.inr ⟨_, rfl, .of_last (by omega) (by omega)⟩
    | _ => omega
  by_cases h₃ : n < 0x10000
  · rw [encode_three ⟨by omega, h₃⟩ hvalid] at h
    obtain ⟨hb, rfl⟩ := List.cons.inj h
    have hbn : b.toNat = n / 4096 + 0xE0 := by rw [← hb, toNat_ofNat_of_lt (by omega)]
    cases hlead with
    | @three bits low high hb hbits hlow hhigh =>
        obtain rfl : bits = n / 64 / 64 := by omega
        have hlast := Completes.of_last (Completes.six_bits n).1 (Completes.six_bits n).2
        refine Or.inr ⟨_, rfl, .of_next ?_ ?_ hlast⟩
        · split_ifs at hlow <;> omega
        · split_ifs at hhigh <;> omega
    | _ => omega
  · rw [encode_four (by omega)] at h
    obtain ⟨hb, rfl⟩ := List.cons.inj h
    have hbn : b.toNat = n / 262144 + 0xF0 := by rw [← hb, toNat_ofNat_of_lt (by omega)]
    cases hlead with
    | @four bits low high hb hbits hlow hhigh =>
        obtain rfl : bits = n / 64 / 64 / 64 := by omega
        have hsecond : n / 4096 % 64 = n / 64 / 64 % 64 := by omega
        have hlast := Completes.of_last (Completes.six_bits n).1 (Completes.six_bits n).2
        have hthird := Completes.of_next (Completes.six_bits (n / 64)).1
          (Completes.six_bits (n / 64)).2 hlast
        rw [hsecond]
        refine Or.inr ⟨_, rfl, .of_next ?_ ?_ hthird⟩
        · split_ifs at hlow <;> omega
        · split_ifs at hhigh <;> omega
    | _ => omega

/-- What begins with a byte and is completed is the encoding of the character. -/
lemma encode_of_completes {b : UInt8} {r : Reader} {tail : List UInt8} {c : Char}
    (hbegin : begin b = ([], r)) (h : Completes r tail c) : utf8EncodeChar c = b :: tail := by
  have hlead := lead_begin b
  rw [hbegin] at hlead
  cases hlead with
  | two hb hbits hlow hhigh =>
    obtain ⟨b₁, rfl, hlow₁, hhigh₁, hc⟩ := h.eq_last
    rw [hc, encode_two (by omega)]
    simp only [List.cons.injEq, ← UInt8.toNat_inj, and_true]
    rw [toNat_ofNat_of_lt (by omega), toNat_ofNat_of_lt (by omega)]
    omega
  | @three bits low high hb hbits hlow hhigh =>
    obtain ⟨b₁, _, rfl, hlow₁, hhigh₁, hrest⟩ := h.eq_next
    obtain ⟨b₂, rfl, hlow₂, hhigh₂, hc⟩ := hrest.eq_last
    simp only [UInt8.reduceToNat] at hlow₂ hhigh₂
    have hfirst : 0x80 ≤ b₁.toNat ∧ b₁.toNat ≤ 0xBF ∧ (bits = 0 → 0xA0 ≤ b₁.toNat) ∧
        (bits = 0xD → b₁.toNat ≤ 0x9F) := by
      split_ifs at hlow hhigh <;> omega
    have hvalid : ((bits * 64 + (b₁.toNat - 0x80)) * 64 + (b₂.toNat - 0x80)).isValidChar := by
      unfold Nat.isValidChar
      omega
    rw [hc, encode_three (by omega) hvalid]
    simp only [List.cons.injEq, ← UInt8.toNat_inj, and_true]
    rw [toNat_ofNat_of_lt (by omega), toNat_ofNat_of_lt (by omega), toNat_ofNat_of_lt (by omega)]
    omega
  | @four bits low high hb hbits hlow hhigh =>
    obtain ⟨b₁, _, rfl, hlow₁, hhigh₁, hrest⟩ := h.eq_next
    obtain ⟨b₂, _, rfl, hlow₂, hhigh₂, hrest⟩ := hrest.eq_next
    obtain ⟨b₃, rfl, hlow₃, hhigh₃, hc⟩ := hrest.eq_last
    simp only [UInt8.reduceToNat] at hlow₂ hhigh₂ hlow₃ hhigh₃
    have hfirst : 0x80 ≤ b₁.toNat ∧ b₁.toNat ≤ 0xBF ∧ (bits = 0 → 0x90 ≤ b₁.toNat) ∧
        (bits = 4 → b₁.toNat ≤ 0x8F) := by
      split_ifs at hlow hhigh <;> omega
    rw [hc, encode_four (by omega)]
    simp only [List.cons.injEq, ← UInt8.toNat_inj, and_true]
    rw [toNat_ofNat_of_lt (by omega), toNat_ofNat_of_lt (by omega), toNat_ofNat_of_lt (by omega),
      toNat_ofNat_of_lt (by omega)]
    omega

/-! ## Inside a character -/

/-- The bytes have brought the reader into a character. -/
inductive Inside : List UInt8 → Reader → Prop where
  | first {b : UInt8} {r : Reader} (hb : begin b = ([], r)) : Inside [b] r
  | more {start : List UInt8} {bits left : ℕ} {low high b : UInt8}
      (hstart : Inside start (.within bits (left + 1) low high)) (hlow : low ≤ b)
      (hhigh : b ≤ high) :
      Inside (start ++ [b]) (.within (bits * 64 + (b.toNat - 0x80)) left 0x80 0xBF)

lemma Completes.head {bits left : ℕ} {low high b : UInt8} {tail : List UInt8} {c : Char}
    (h : Completes (.within bits left low high) (b :: tail) c) : low ≤ b ∧ b ≤ high := by
  cases h with
  | last hlow hhigh => exact ⟨hlow, hhigh⟩
  | next hlow hhigh _ => exact ⟨hlow, hhigh⟩

/-- Any character can be completed. -/
lemma exists_completes {low high : UInt8} (hrange : low ≤ high) (bits left : ℕ) :
    ∃ tail c, Completes (.within bits left low high) tail c := by
  induction left generalizing bits low high with
  | zero => exact ⟨_, _, .last UInt8.le_rfl hrange⟩
  | succ left ih =>
      obtain ⟨tail, c, h⟩ := @ih 0x80 0xBF (by decide) (bits * 64 + (low.toNat - 0x80))
      exact ⟨_, c, .next UInt8.le_rfl hrange h⟩

/-- A byte that begins a character without completing it. -/
lemma within_of_begin {b : UInt8} {r : Reader} (hb : begin b = ([], r)) :
    0x80 ≤ b.toNat ∧ ∃ bits left low high, r = .within bits left low high ∧ low ≤ high := by
  have hlead := lead_begin b
  rw [hb] at hlead
  cases hlead with
  | two hb hbits hlow hhigh =>
      refine ⟨by omega, _, _, _, _, rfl, ?_⟩
      rw [UInt8.le_iff_toNat_le, hlow, hhigh]
      decide
  | three hb hbits hlow hhigh =>
      refine ⟨by omega, _, _, _, _, rfl, ?_⟩
      rw [UInt8.le_iff_toNat_le]
      split_ifs at hlow hhigh <;> omega
  | four hb hbits hlow hhigh =>
      refine ⟨by omega, _, _, _, _, rfl, ?_⟩
      rw [UInt8.le_iff_toNat_le]
      split_ifs at hlow hhigh <;> omega

namespace Inside

variable {start tail rest : List UInt8} {r : Reader} {bits left : ℕ} {low high b : UInt8} {c : Char}

lemma exists_within (h : Inside start r) :
    ∃ bits left low high, r = .within bits left low high ∧ low ≤ high := by
  cases h with
  | first hb => exact (within_of_begin hb).2
  | more _ _ _ => exact ⟨_, _, _, _, rfl, by decide⟩

/-- What completes the character completes its encoding. -/
lemma encode_iff (h : Inside start r) : utf8EncodeChar c = start ++ tail ↔ Completes r tail c := by
  induction h generalizing tail with
  | @first b r hb =>
      refine ⟨fun hc => ?_, encode_of_completes hb⟩
      rcases completes_of_encode hc with ⟨hlt, -⟩ | ⟨r', hr', htail⟩
      · have hge := (within_of_begin hb).1
        omega
      · rw [hb] at hr'
        cases hr'
        exact htail
  | @more start bits left low high b hstart hlow hhigh ih =>
      rw [List.append_assoc, List.singleton_append, ih]
      constructor
      · intro hc
        cases hc with
        | next _ _ hrest => exact hrest
      · exact fun hrest => .next hlow hhigh hrest

/-- Bytes that have brought a reader into a character have not completed it. -/
lemma ne_encode (h : Inside start r) (c : Char) : utf8EncodeChar c ≠ start := by
  intro hc
  rw [← List.append_nil start, h.encode_iff] at hc
  cases hc

lemma ne_nil (h : Inside start r) : start ≠ [] := by
  cases h <;> simp

lemma starts (h : Inside start r) : Starts start := by
  obtain ⟨bits, left, low, high, rfl, hrange⟩ := h.exists_within
  obtain ⟨tail, c, hc⟩ := exists_completes hrange bits left
  exact ⟨c, tail, (h.encode_iff.mpr hc).symm⟩

/-- The range of a reader tells the bytes that the character goes on with. -/
lemma starts_append_iff (h : Inside start (.within bits left low high)) :
    Starts (start ++ [b]) ↔ low ≤ b ∧ b ≤ high := by
  constructor
  · rintro ⟨c, tail, hc⟩
    rw [List.append_assoc, List.singleton_append, eq_comm, h.encode_iff] at hc
    exact hc.head
  · rintro ⟨hlow, hhigh⟩
    cases left with
    | zero =>
        have hc := h.encode_iff.mpr (.last hlow hhigh)
        exact ⟨_, [], by rw [hc, List.append_nil]⟩
    | succ left => exact (more h hlow hhigh).starts

/-- As long as a character is not complete, its bytes bring the reader further into it. -/
lemma exists_of_completes {q : List UInt8} (h : Inside start r) (hc : Completes r (q ++ tail) c)
    (htail : tail ≠ []) : ∃ r', Inside (start ++ q) r' := by
  induction q generalizing start r with
  | nil => exact ⟨r, by rwa [List.append_nil]⟩
  | cons b q ih =>
      rw [List.cons_append] at hc
      generalize hbytes : q ++ tail = bytes at hc
      cases hc with
      | last hlow hhigh => exact absurd (List.append_eq_nil_iff.mp hbytes).2 htail
      | next hlow hhigh hrest =>
          obtain ⟨r', hr'⟩ := ih (more h hlow hhigh) (hbytes ▸ hrest)
          exact ⟨r', by rwa [List.append_assoc] at hr'⟩

/-- The reader goes where the bytes bring it. -/
lemma decodeFrom_append (h : Inside start r) (rest : List UInt8) :
    decodeFrom .idle (start ++ rest) = decodeFrom r rest := by
  induction h generalizing rest with
  | @first b r hb =>
      rw [List.singleton_append, decodeFrom, step, hb]
      rfl
  | @more start bits left low high b hstart hlow hhigh ih =>
      rw [List.append_assoc, ih, List.singleton_append, decodeFrom, step, if_pos ⟨hlow, hhigh⟩]
      rfl

end Inside

lemma BrokenOff.exists_inside {start rest : List UInt8} (h : BrokenOff start rest) :
    ∃ r, Inside start r := by
  obtain ⟨c, tail, hc⟩ := h.starts
  have htail : tail ≠ [] := by
    rintro rfl
    exact h.incomplete c (by rw [← hc, List.append_nil])
  cases start with
  | nil => exact absurd rfl h.nonempty
  | cons b q =>
      rw [List.cons_append] at hc
      rcases completes_of_encode hc.symm with ⟨-, hnil, -⟩ | ⟨r, hr, hcomp⟩
      · exact absurd (List.append_eq_nil_iff.mp hnil).2 htail
      · exact (Inside.first hr).exists_of_completes hcomp htail

/-! ## The reader -/

variable {bytes rest : List UInt8} {chars : List Char} {b : UInt8}

lemma decodeFrom_of_completes {r : Reader} {tail : List UInt8} {c : Char} (h : Completes r tail c) :
    decodeFrom r (tail ++ rest) = c :: decodeFrom .idle rest := by
  induction h with
  | last hlow hhigh =>
      rw [List.singleton_append, decodeFrom, step, if_pos ⟨hlow, hhigh⟩]
      rfl
  | next hlow hhigh _ ih =>
      rw [List.cons_append, decodeFrom, step, if_pos ⟨hlow, hhigh⟩]
      exact ih

/-- A byte that completes a character by itself. -/
lemma begin_of_lt (h : b.toNat < 0x80) : begin b = ([Char.ofNat b.toNat], .idle) := if_pos h

lemma decodeFrom_encode (c : Char) :
    decodeFrom .idle (utf8EncodeChar c ++ rest) = c :: decodeFrom .idle rest := by
  cases hbytes : utf8EncodeChar c with
  | nil =>
      have hlen := String.length_utf8EncodeChar c
      rw [hbytes] at hlen
      exact absurd hlen.symm c.utf8Size_pos.ne'
  | cons b tail =>
      rw [List.cons_append, decodeFrom, step]
      rcases completes_of_encode hbytes with ⟨hlt, rfl, rfl⟩ | ⟨r, hr, htail⟩
      · rw [begin_of_lt hlt]
        rfl
      · rw [hr]
        exact decodeFrom_of_completes htail

/-- A byte that starts no character. -/
lemma starts_singleton_iff : Starts [b] ↔ b.toNat < 0x80 ∨ ∃ r, begin b = ([], r) := by
  constructor
  · rintro ⟨c, tail, hc⟩
    rcases completes_of_encode hc.symm with ⟨hlt, -⟩ | ⟨r, hr, -⟩
    · exact Or.inl hlt
    · exact Or.inr ⟨r, hr⟩
  · rintro (hlt | ⟨r, hr⟩)
    · exact ⟨_, [], by rw [encode_one hlt, UInt8.ofNat_toNat, List.append_nil]⟩
    · exact (Inside.first hr).starts

lemma begin_of_not_starts (hb : ¬ Starts [b]) : begin b = ([replacement], .idle) := by
  rw [starts_singleton_iff, not_or, not_exists] at hb
  have hlead := lead_begin b
  generalize begin b = x at hlead hb ⊢
  cases hlead with
  | single h => exact absurd h hb.1
  | stray h => rfl
  | two | three | four => exact absurd rfl (hb.2 _)

/-- What the reader makes of bytes that it has not completed. -/
lemma decodeFrom_of_brokenOff {start : List UInt8} (h : BrokenOff start rest) :
    decodeFrom .idle (start ++ rest) = replacement :: decodeFrom .idle rest := by
  obtain ⟨r, hr⟩ := h.exists_inside
  obtain ⟨bits, left, low, high, rfl, -⟩ := hr.exists_within
  rw [hr.decodeFrom_append]
  cases rest with
  | nil => rfl
  | cons b rest =>
      have hout := h.ends b rfl
      rw [hr.starts_append_iff] at hout
      rw [decodeFrom, step, if_neg hout]
      rfl

lemma decode_of_lossy (h : Lossy bytes chars) : decode bytes = chars := by
  induction h with
  | nil => rfl
  | character c _ ih => rw [decode, decodeFrom_encode, ← decode, ih]
  | stray hb _ ih =>
      rw [decode, decodeFrom, step, begin_of_not_starts hb, ← ih]
      rfl
  | broken hstart _ ih =>
      rw [decode, decodeFrom_of_brokenOff hstart, ← decode, ih]
      rfl

/-- Wherever the reader stands, it goes on as bytes are read. -/
lemma lossy_decodeFrom (bytes : List UInt8) :
    Lossy bytes (decodeFrom .idle bytes) ∧
      ∀ start r, Inside start r → Lossy (start ++ bytes) (decodeFrom r bytes) := by
  induction bytes with
  | nil =>
      refine ⟨.nil, fun start r h => ?_⟩
      obtain ⟨bits, left, low, high, rfl, -⟩ := h.exists_within
      exact .broken ⟨h.ne_nil, h.starts, h.ne_encode, fun _ hb => nomatch hb⟩ .nil
  | cons b rest ih =>
      have hidle : Lossy (b :: rest) (decodeFrom .idle (b :: rest)) := by
        rw [decodeFrom, step]
        by_cases hlt : b.toNat < 0x80
        · have hone : utf8EncodeChar (Char.ofNat b.toNat) = [b] := by
            rw [encode_one hlt, UInt8.ofNat_toNat]
          rw [begin_of_lt hlt]
          have hchar := Lossy.character (Char.ofNat b.toNat) ih.1
          rwa [hone] at hchar
        by_cases hr : ∃ r, begin b = ([], r)
        · obtain ⟨r, hr⟩ := hr
          rw [hr]
          exact ih.2 [b] r (.first hr)
        · have hstray : ¬ Starts [b] := by
            rw [starts_singleton_iff]
            tauto
          rw [begin_of_not_starts hstray]
          exact .stray hstray ih.1
      refine ⟨hidle, fun start r h => ?_⟩
      obtain ⟨bits, left, low, high, rfl, -⟩ := h.exists_within
      rw [decodeFrom, step]
      by_cases hb : low ≤ b ∧ b ≤ high
      · rw [if_pos hb]
        cases left with
        | zero =>
            have hc := h.encode_iff.mpr (.last hb.1 hb.2)
            have hchar := Lossy.character (Char.ofNat (bits * 64 + (b.toNat - 0x80))) ih.1
            rwa [hc, List.append_assoc] at hchar
        | succ left =>
            have hmore := ih.2 _ _ (.more h hb.1 hb.2)
            rwa [List.append_assoc] at hmore
      · rw [if_neg hb]
        refine .broken ⟨h.ne_nil, h.starts, h.ne_encode, ?_⟩ hidle
        rintro _ ⟨⟩
        rwa [h.starts_append_iff]

/-- **Bytes are read in one way**, and the reader finds it. -/
theorem lossy_iff : Lossy bytes chars ↔ decode bytes = chars :=
  ⟨decode_of_lossy, fun h => h ▸ (lossy_decodeFrom bytes).1⟩

example : Lossy [0xE2, 0x82, 0x41, 0xFF] ['\uFFFD', 'A', '\uFFFD'] := lossy_iff.mpr (by decide)

end Paintbox.Utf8

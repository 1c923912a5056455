import Paintbox.Proofs.Pixmap.Pixels
import Paintbox.Proofs.Transfer.Pixels

/-!
# Text on a picture

Which bytes of a text are drawn, where their ink can be, and how large the text says it is.  A cell
takes its place from the number of bytes before it and from nothing else, so a text may be drawn in
pieces: each of them starts where the one before has ended, also if that is right of the picture,
where drawing stops early.

* `Lettering.IsSpan` — the bytes that are drawn, told by what they are rather than by how they are
  found; `Lettering.isSpan_span`, `Lettering.IsSpan.eq_span`.
* `Lettering.Inked.covers`, `Lettering.Inked.printable` — ink is in the cells of printable
  characters.
* `Lettering.extent_of_lt` — the extent of a text that fits into memory.
* `Pixmap.inked_of_text` — where a text can have changed the picture.
* `Pixmap.text_append` — **a text drawn in two pieces**.
-/

namespace Paintbox

namespace Lettering

/-! ## The bytes that are drawn -/

/-- The bytes `drawn` are the start of a text that is drawn: as many as the given length and the
text have, whatever they are, or those before the first zero byte if no length is given. -/
inductive IsSpan : (codes : List UInt8) → (len : Option ℕ) → (drawn : List UInt8) → Prop where
  | counted {drawn rest : List UInt8} {n : ℕ}
      (count : drawn.length = min n (drawn ++ rest).length) : IsSpan (drawn ++ rest) (some n) drawn
  | ended {drawn rest : List UInt8} (nonzero : 0 ∉ drawn) : IsSpan (drawn ++ 0 :: rest) none drawn
  | whole {drawn : List UInt8} (nonzero : 0 ∉ drawn) : IsSpan drawn none drawn

lemma isSpan_counted (codes : List UInt8) (n : ℕ) :
    IsSpan codes (some n) (span codes (some n)) := by
  have hsplit : codes.take n ++ codes.drop n = codes := List.take_append_drop n codes
  have hcount : IsSpan (codes.take n ++ codes.drop n) (some n) (codes.take n) :=
    .counted (by rw [hsplit, List.length_take])
  rwa [hsplit] at hcount

lemma isSpan_ended (codes : List UInt8) : IsSpan codes none (span codes none) := by
  have hsplit : span codes none ++ codes.dropWhile (· ≠ 0) = codes :=
    List.takeWhile_append_dropWhile
  have hnonzero : 0 ∉ span codes none := by
    intro hmem
    simpa using List.mem_takeWhile_imp hmem
  cases hrest : codes.dropWhile (· ≠ 0) with
  | nil =>
      rw [hrest, List.append_nil] at hsplit
      rw [hsplit] at hnonzero ⊢
      exact .whole hnonzero
  | cons c rest =>
      have hc : c = 0 := by
        have hhead := List.head?_dropWhile_not (· ≠ 0) codes
        rw [hrest] at hhead
        simpa using hhead
      have hended : IsSpan (span codes none ++ 0 :: rest) none (span codes none) :=
        .ended hnonzero
      rw [hrest, hc] at hsplit
      rwa [hsplit] at hended

lemma isSpan_span (codes : List UInt8) (len : Option ℕ) : IsSpan codes len (span codes len) := by
  cases len with
  | some n => exact isSpan_counted codes n
  | none => exact isSpan_ended codes

/-- No other bytes are drawn. -/
lemma IsSpan.eq_span {codes drawn : List UInt8} {len : Option ℕ}
    (hspan : IsSpan codes len drawn) : drawn = span codes len := by
  cases hspan with
  | @counted _ rest n count =>
      rw [span, List.take_eq_take_min, ← count, List.take_left]
  | @ended _ rest nonzero =>
      rw [span, List.takeWhile_append_of_pos, List.takeWhile_cons_of_neg, List.append_nil]
      · simp
      · intro c hc
        simpa using ne_of_mem_of_not_mem hc nonzero
  | whole nonzero =>
      symm
      rw [span, List.takeWhile_eq_self_iff]
      intro c hc
      simpa using ne_of_mem_of_not_mem hc nonzero

lemma length_span_le (codes : List UInt8) (len : Option ℕ) :
    (span codes len).length ≤ codes.length := by
  cases len with
  | none => exact (List.takeWhile_sublist _).length_le
  | some n => exact List.length_take_le' n codes

/-- A length that leaves nothing out. -/
lemma span_of_le {codes : List UInt8} {n : ℕ} (hn : codes.length ≤ n) :
    span codes (some n) = codes :=
  List.take_of_length_le hn

/-! ## Where the ink is -/

variable {x y X Y : ℤ} {codes : List UInt8}

/-- There is ink in the cells of a text only. -/
lemma Inked.covers (hink : Inked x y codes X Y) : Covers x y (8 * codes.length) 8 X Y := by
  obtain ⟨hx, hy, hyb, code, hcode, -⟩ := hink
  obtain ⟨hlt, -⟩ := List.getElem?_eq_some_iff.mp hcode
  rw [Covers]
  omega

/-- And there only in those of printable characters. -/
lemma Inked.printable (hink : Inked x y codes X Y) :
    ∃ code ∈ codes[((X - x) / 8).toNat]?, 32 ≤ code ∧ code ≤ 126 := by
  obtain ⟨-, -, -, code, hcode, hlow, hhigh, -⟩ := hink
  exact ⟨code, hcode, hlow, hhigh⟩

/-! ## Extents -/

/-- The extent of a text that fits into memory is that of its cells, cut off at the largest
width. -/
lemma extent_of_lt {count : ℕ} (hcount : count < 2 ^ 63) :
    extent count = (min ((Glyph.side : ℤ) * count) maxWidth, (Glyph.side : ℤ)) := by
  have hword : Int.bmod count longWords = count := by
    rw [Int.bmod_def, longWords]
    split <;> omega
  have hwidth : Int.bmod (min (count * (Glyph.side : ℤ)) maxWidth) words
      = min (count * (Glyph.side : ℤ)) maxWidth := by
    rw [Int.bmod_def, words, maxWidth, Glyph.side]
    split <;> omega
  rw [extent, hword, hwidth, mul_comm]

end Lettering

namespace Pixmap

/-- What a text has changed is ink on the picture. -/
lemma inked_of_text {p : Pixmap} {x y X Y : ℤ} {codes : List UInt8} {v : UInt8}
    (hchanged : (p.text x y codes v).get? X Y ≠ p.get? X Y) :
    Lettering.Inked x y codes X Y ∧ p.Contains X Y := by
  rw [get?_text] at hchanged
  exact changed_of_ne hchanged

/-! ## Texts in pieces -/

/-- Right of the picture nothing is drawn. -/
lemma text_of_right {p : Pixmap} {x : ℤ} (hright : p.width ≤ x) (y : ℤ) (codes : List UInt8)
    (v : UInt8) : p.text x y codes v = p := by
  cases codes with
  | nil => rfl
  | cons code codes => rw [text, if_pos hright]

/-- A text is drawn in two pieces as it is in one. -/
lemma text_append (y : ℤ) (a b : List UInt8) (v : UInt8) :
    ∀ (p : Pixmap) (x : ℤ), p.text x y (a ++ b) v
      = (p.text x y a v).text (x + Glyph.side * a.length) y b v := by
  induction a with
  | nil => intro p x; simp [text]
  | cons code a ih =>
      intro p x
      rw [List.cons_append, text, text]
      split_ifs with hright
      · -- neither the rest of the first piece nor the second one is drawn
        rw [text_of_right]
        have hside : (0 : ℤ) ≤ Glyph.side * (code :: a).length := by positivity
        omega
      · rw [ih, List.length_cons]
        congr 1
        push_cast
        ring

end Pixmap

end Paintbox

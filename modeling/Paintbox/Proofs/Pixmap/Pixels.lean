import Paintbox.Proofs.Pixmap.Plot

/-!
# Drawing, pixel by pixel

What a drawing makes of a pixel depends on where the pixel is and on what it was, and on nothing
else about the picture.  Clipping is not seen: a figure is told by the points that it covers on the
whole plane, and where they are not on the picture there is no pixel to change.

* `Pixmap.ext_get?` — a picture is its size and its pixels; `Pixmap.changed_of_ne`.
* `Pixmap.get?_plot`, `Pixmap.get?_line`, `Pixmap.get?_lines`, `Pixmap.get?_oval` — points in one
  color.
* `Pixmap.get?_fillBox`, `Pixmap.get?_invertBox` — boxes.
* `Glyph.Prints`, `Glyph.prints_iff` — the ink of the font, by its words and bits.
* `Lettering.Inked`, `Pixmap.get?_letter`, `Pixmap.get?_text` — **text, with the place of every
  glyph**.
-/

namespace Paintbox

namespace Pixmap

/-! ## A picture is its pixels -/

/-- A place among the bytes has a column and a row, its remainder and quotient by the width. -/
lemma contains_of_lt {p : Pixmap} {i : ℕ} (hi : i < p.data.size) :
    p.Contains (i % p.width : ℕ) (i / p.width : ℕ) := by
  have hrow : i / p.width < p.height := by
    rw [Nat.div_lt_iff_lt_mul p.width_pos, Nat.mul_comm, ← p.size_eq]
    exact hi
  exact ⟨Int.natCast_nonneg _, Int.ofNat_lt.mpr (Nat.mod_lt i p.width_pos),
    Int.natCast_nonneg _, Int.ofNat_lt.mpr hrow⟩

lemma offset_mod_div (p : Pixmap) (i : ℕ) : p.offset (i % p.width : ℕ) (i / p.width : ℕ) = i := by
  simp only [offset, Int.toNat_natCast]
  rw [Nat.mul_comm]
  exact Nat.div_add_mod i p.width

/-- Every byte is that of a pixel. -/
lemma exists_offset {p : Pixmap} {i : ℕ} (hi : i < p.data.size) :
    ∃ x y, p.Contains x y ∧ p.offset x y = i :=
  ⟨_, _, contains_of_lt hi, p.offset_mod_div i⟩

/-- Two pictures of one size with the same pixels are the same. -/
lemma ext_get? {p q : Pixmap} (hsize : p.SameSize q) (hget : ∀ x y, p.get? x y = q.get? x y) :
    p = q := by
  refine ext hsize.1 hsize.2 (ByteArray.ext (Array.ext_getElem? fun i => ?_))
  have hsizes : p.data.data.size = q.data.data.size :=
    p.size_eq.trans ((congrArg₂ (· * ·) hsize.1 hsize.2).trans q.size_eq.symm)
  by_cases hi : i < p.data.data.size
  · obtain ⟨x, y, hp, rfl⟩ := exists_offset (p := p) hi
    have hq : q.Contains x y := by rwa [Contains, ← hsize.1, ← hsize.2]
    have hoffset : p.offset x y = q.offset x y := by rw [offset, offset, hsize.1]
    have hsame := hget x y
    rwa [get?_eq_getElem? hp, get?_eq_getElem? hq, ← hoffset] at hsame
  · rw [Array.getElem?_eq_none (by omega), Array.getElem?_eq_none (by omega)]

/-- A pixel that is not what it was is one of those that were to change, and on the picture. -/
lemma changed_of_ne {p : Pixmap} {x y : Int} {f : UInt8 → UInt8} {area : Prop} [Decidable area]
    (hne : (if area then (p.get? x y).map f else p.get? x y) ≠ p.get? x y) :
    area ∧ p.Contains x y := by
  split_ifs at hne with harea
  · refine ⟨harea, ?_⟩
    by_contra hout
    rw [get?_eq_none hout] at hne
    exact hne rfl
  · exact absurd rfl hne

/-! ## Points -/

lemma get?_plot (points : List (Int × Int)) (v : UInt8) (x y : Int) :
    ∀ p : Pixmap, (p.plot points v).get? x y
      = if (x, y) ∈ points then (p.get? x y).map fun _ => v else p.get? x y := by
  induction points with
  | nil =>
      intro p
      rw [if_neg (by simp)]
      rfl
  | cons q points ih =>
      intro p
      have hcons : p.plot (q :: points) v = (p.put q.1 q.2 v).plot points v := rfl
      rw [hcons, ih, get?_put]
      by_cases hq : x = q.1 ∧ y = q.2
      · obtain ⟨rfl, rfl⟩ := hq
        rw [if_pos (And.intro rfl rfl), if_pos List.mem_cons_self]
        split_ifs
        · rw [Option.map_map]
          rfl
        · rfl
      · have hne : (x, y) ≠ q := by
          rintro rfl
          exact hq ⟨rfl, rfl⟩
        rw [if_neg hq]
        simp only [List.mem_cons, hne, false_or]

lemma get?_line (p : Pixmap) (s : Segment) (v : UInt8) (x y : Int) :
    (p.line s v).get? x y
      = if (x, y) ∈ s.points then (p.get? x y).map fun _ => v else p.get? x y := by
  rw [line_eq_plot, get?_plot]

lemma get?_oval (p : Pixmap) (o : Oval) (v : UInt8) (x y : Int) :
    (p.oval o v).get? x y
      = if (x, y) ∈ o.points then (p.get? x y).map fun _ => v else p.get? x y := by
  rw [oval_eq_plot, get?_plot]

/-- Segments in one color are the points of all of them. -/
lemma lines_eq_plot (segments : List Segment) (v : UInt8) (p : Pixmap) :
    p.lines segments v = p.plot (segments.flatMap Segment.points) v := by
  rw [lines, plot, List.foldl_flatMap]
  congr 1
  funext p s
  exact line_eq_plot p s v

lemma get?_lines (p : Pixmap) (segments : List Segment) (v : UInt8) (x y : Int) :
    (p.lines segments v).get? x y
      = if (x, y) ∈ segments.flatMap Segment.points then (p.get? x y).map fun _ => v
        else p.get? x y := by
  rw [lines_eq_plot, get?_plot]

/-- The segments of a path. -/
def pathSegments (points : List (Int × Int)) (closed : Bool) : List Segment :=
  legs points ++ if closed then closing points else []

lemma path_eq_lines (p : Pixmap) (points : List (Int × Int)) (v : UInt8) (closed : Bool) :
    p.path points v closed = p.lines (pathSegments points closed) v := by
  cases closed with
  | false => simp [path, pathSegments]
  | true => simp [path, pathSegments, lines, List.foldl_append]

/-! ## Boxes -/

/-- Does the point lie in the box that ends before `right` and `bottom`? -/
def InBox (left top right bottom x y : Int) : Prop := left ≤ x ∧ x < right ∧ top ≤ y ∧ y < bottom

instance (left top right bottom x y : Int) : Decidable (InBox left top right bottom x y) :=
  inferInstanceAs (Decidable (left ≤ x ∧ x < right ∧ top ≤ y ∧ y < bottom))

/-- Cutting a box off at the edges of the picture loses no pixel. -/
lemma get?_alter_clamped (p : Pixmap) (left top right bottom : Int)
    (f : Int → Int → UInt8 → UInt8) (x y : Int) :
    (p.alter (max left 0) (max top 0) (min right p.width) (min bottom p.height) f).get? x y
      = if InBox left top right bottom x y then (p.get? x y).map (f x y) else p.get? x y := by
  rw [get?_alter]
  by_cases hin : p.Contains x y
  · simp only [Contains] at hin
    by_cases hbox : InBox left top right bottom x y
    · rw [if_pos hbox, if_pos (by simp only [InBox] at hbox; omega)]
    · rw [if_neg hbox, if_neg (by simp only [InBox] at hbox; omega)]
  · rw [get?_eq_none hin]
    simp

lemma get?_fillBox (p : Pixmap) (left top right bottom : Int) (v : UInt8) (x y : Int) :
    (p.fillBox left top right bottom v).get? x y
      = if InBox left top right bottom x y then (p.get? x y).map fun _ => v else p.get? x y :=
  get?_alter_clamped p left top right bottom _ x y

lemma get?_invertBox (p : Pixmap) (left top right bottom : Int) (x y : Int) :
    (p.invertBox left top right bottom).get? x y
      = if InBox left top right bottom x y then (p.get? x y).map (· ^^^ 0xFF) else p.get? x y :=
  get?_alter_clamped p left top right bottom _ x y

end Pixmap

/-! ## Text -/

namespace Glyph

/-- Has the font ink in column `col` of row `row` for a code?  Each code from 32 to 126 has a word of
its own in the font.  The bytes of the word, from the most significant one on, are the rows, and the
bits of a byte, again from the most significant one on, are the columns. -/
def Prints (code : UInt8) (col row : ℕ) : Prop :=
  32 ≤ code.toNat ∧ code.toNat ≤ 126 ∧ ∃ word ∈ font[code.toNat - 32]?,
    (word.toNat / 256 ^ (7 - row) % 256).testBit (7 - col) = true

instance (code : UInt8) (col row : ℕ) : Decidable (Prints code col row) :=
  inferInstanceAs (Decidable (_ ∧ _ ∧ ∃ word ∈ font[code.toNat - 32]?, _))

/-- A bit of a word is a bit of one of its bytes. -/
lemma testBit_byte (n : ℕ) {col row : ℕ} (hcol : col < 8) (hrow : row < 8) :
    (n / 256 ^ (7 - row) % 256).testBit (7 - col) = n.testBit (63 - (8 * row + col)) := by
  have hbyte : 256 ^ (7 - row) = 2 ^ (8 * (7 - row)) := by rw [pow_mul]; rfl
  have hplace : 8 * (7 - row) + (7 - col) = 63 - (8 * row + col) := by omega
  rw [hbyte, show 256 = 2 ^ 8 from rfl, Nat.testBit_mod_two_pow, Nat.testBit_div_two_pow,
    decide_eq_true (by omega), Bool.true_and, Nat.add_comm, hplace]

lemma ink_eq_testBit (g : Glyph) {col row : ℕ} (hcol : col < 8) (hrow : row < 8) :
    g.ink col row = g.bits.toNat.testBit (63 - (8 * row + col)) := by
  have hshift : (UInt64.ofNat (63 - (8 * row + col))).toNat % 64 = 63 - (8 * row + col) := by
    rw [UInt64.toNat_ofNat']
    omega
  rw [ink, Nat.testBit_eq_decide_div_mod_eq, Bool.eq_iff_iff, beq_iff_eq, ← UInt64.toNat_inj,
    UInt64.toNat_and, UInt64.toNat_shiftRight, hshift, Nat.shiftRight_eq_div_pow]
  simp

/-- What the font says is what the glyph of a code shows. -/
lemma prints_iff {code : UInt8} {col row : ℕ} (hcol : col < 8) (hrow : row < 8) :
    Prints code col row ↔ (ofCode code).ink col row = true := by
  have hrange : firstCode ≤ code ∧ code ≤ lastCode ↔ 32 ≤ code.toNat ∧ code.toNat ≤ 126 := Iff.rfl
  rw [Prints, ofCode, ← and_assoc]
  split_ifs with hcode
  · have hindex : (code - firstCode).toNat = code.toNat - 32 := UInt8.toNat_sub_of_le _ _ hcode.1
    have hlt : code.toNat - 32 < font.size := by
      have hsize : font.size = 95 := rfl
      have := (hrange.mp hcode).2
      omega
    rw [and_iff_right (hrange.mp hcode), Array.getElem?_eq_getElem hlt, hindex,
      Array.getD_eq_getD_getElem?, Array.getElem?_eq_getElem hlt]
    simp only [Option.mem_some_iff, exists_eq_left', Option.getD_some, testBit_byte _ hcol hrow,
      ink_eq_testBit _ hcol hrow]
  · rw [hrange] at hcode
    simp only [hcode, false_and, ink_blank, Bool.false_eq_true]

/-- Is there ink at a point of the plane, if the cell of the glyph starts at `x`, `y`? -/
def InkAt (g : Glyph) (x y X Y : Int) : Prop :=
  (x ≤ X ∧ X < x + side ∧ y ≤ Y ∧ Y < y + side) ∧ g.ink (X - x).toNat (Y - y).toNat = true

instance (g : Glyph) (x y X Y : Int) : Decidable (g.InkAt x y X Y) :=
  inferInstanceAs (Decidable (_ ∧ _))

end Glyph

namespace Lettering

/-- Is there ink at a point of the plane, if the first cell of the text starts at `x`, `y`?  Cells are
eight pixels wide and tall.  The character there is found by the number of cells in between, and the
column by what is left. -/
def Inked (x y : Int) (codes : List UInt8) (X Y : Int) : Prop :=
  x ≤ X ∧ y ≤ Y ∧ Y < y + 8 ∧ ∃ code ∈ codes[((X - x) / 8).toNat]?,
    Glyph.Prints code ((X - x) % 8).toNat (Y - y).toNat

instance (x y : Int) (codes : List UInt8) (X Y : Int) : Decidable (Inked x y codes X Y) :=
  inferInstanceAs (Decidable (_ ∧ _ ∧ _ ∧ ∃ code ∈ codes[((X - x) / 8).toNat]?, _))

lemma not_inked_nil (x y X Y : Int) : ¬ Inked x y [] X Y := by
  rintro ⟨-, -, -, code, hcode, -⟩
  simp at hcode

/-- The ink of a text is that of its first glyph and that of the rest, one cell on. -/
lemma inked_cons (x y : Int) (code : UInt8) (codes : List UInt8) (X Y : Int) :
    Inked x y (code :: codes) X Y
      ↔ (Glyph.ofCode code).InkAt x y X Y ∨ Inked (x + Glyph.side) y codes X Y := by
  have hside : (Glyph.side : Int) = 8 := rfl
  simp only [Inked, Glyph.InkAt, hside]
  by_cases hcell : X < x + 8
  · -- in the first cell
    by_cases hx : x ≤ X
    · have hdiv : ((X - x) / 8).toNat = 0 := by omega
      have hmod : (X - x) % 8 = X - x := by omega
      rw [hdiv, hmod]
      simp only [List.getElem?_cons_zero, Option.mem_some_iff, exists_eq_left']
      constructor
      · rintro ⟨-, hy, hyb, hink⟩
        rw [Glyph.prints_iff (by omega) (by omega)] at hink
        exact Or.inl ⟨⟨hx, hcell, hy, hyb⟩, hink⟩
      · rintro (⟨⟨-, -, hy, hyb⟩, hink⟩ | ⟨hbeyond, -⟩)
        · rw [← Glyph.prints_iff (by omega) (by omega)] at hink
          exact ⟨hx, hy, hyb, hink⟩
        · omega
    · refine iff_of_false (fun h => hx h.1) ?_
      rintro (⟨⟨hx', -⟩, -⟩ | ⟨hbeyond, -⟩)
      · exact hx hx'
      · omega
  · -- right of the first cell
    have hdiv : ((X - x) / 8).toNat = ((X - (x + 8)) / 8).toNat + 1 := by omega
    have hmod : (X - x) % 8 = (X - (x + 8)) % 8 := by omega
    rw [hdiv, hmod, List.getElem?_cons_succ]
    constructor
    · rintro ⟨-, hy, hyb, hink⟩
      exact Or.inr ⟨by omega, hy, hyb, hink⟩
    · rintro (⟨⟨-, hin, -⟩, -⟩ | ⟨-, hy, hyb, hink⟩)
      · exact absurd hin hcell
      · exact ⟨by omega, hy, hyb, hink⟩

end Lettering

namespace Pixmap

/-- One row of a glyph, as far as column `n`. -/
lemma get?_letterRow (p : Pixmap) (x y : Int) (g : Glyph) (v : UInt8) (row n : ℕ) (X Y : Int) :
    (n.fold (fun col _ p => if g.ink col row then p.put (x + col) (y + row) v else p) p).get? X Y
      = if (x ≤ X ∧ X < x + n ∧ Y = y + row) ∧ g.ink (X - x).toNat row = true then
          (p.get? X Y).map fun _ => v
        else p.get? X Y := by
  induction n with
  | zero => rw [if_neg (by omega)]; rfl
  | succ n ih =>
      rw [Nat.fold_succ]
      by_cases hhere : X = x + n ∧ Y = y + row
      · obtain ⟨rfl, rfl⟩ := hhere
        have hcol : (x + n - x).toNat = n := by omega
        rw [if_neg (by omega)] at ih
        rw [hcol]
        by_cases hink : g.ink n row = true
        · rw [if_pos hink, get?_put, if_pos ⟨rfl, rfl⟩, ih, if_pos ⟨by omega, hink⟩]
        · rw [if_neg hink, ih, if_neg (fun h => hink h.2)]
      · have hput : (if g.ink n row then (n.fold (fun col _ p =>
            if g.ink col row then p.put (x + col) (y + row) v else p) p).put (x + n) (y + row) v
            else n.fold (fun col _ p =>
              if g.ink col row then p.put (x + col) (y + row) v else p) p).get? X Y
            = (n.fold (fun col _ p =>
              if g.ink col row then p.put (x + col) (y + row) v else p) p).get? X Y := by
          split_ifs
          · rw [get?_put, if_neg hhere]
          · rfl
        rw [hput, ih]
        refine if_congr (and_congr_left fun _ => ?_) rfl rfl
        omega

lemma get?_letter (p : Pixmap) (x y : Int) (g : Glyph) (v : UInt8) (X Y : Int) :
    (p.letter x y g v).get? X Y
      = if g.InkAt x y X Y then (p.get? X Y).map fun _ => v else p.get? X Y := by
  have hrows : ∀ n : ℕ, (n.fold (fun row _ p => Glyph.side.fold (fun col _ p =>
      if g.ink col row then p.put (x + col) (y + row) v else p) p) p).get? X Y
        = if (x ≤ X ∧ X < x + Glyph.side ∧ y ≤ Y ∧ Y < y + n) ∧
            g.ink (X - x).toNat (Y - y).toNat = true then (p.get? X Y).map fun _ => v
          else p.get? X Y := by
    intro n
    induction n with
    | zero => rw [if_neg (by omega)]; rfl
    | succ n ih =>
        rw [Nat.fold_succ, get?_letterRow]
        by_cases hrow : Y = y + n
        · have hn : (Y - y).toNat = n := by omega
          rw [if_neg (by omega)] at ih
          rw [ih, hn]
          refine if_congr (and_congr_left fun _ => ?_) rfl rfl
          omega
        · rw [ih, if_neg (fun h => hrow h.1.2.2)]
          refine if_congr (and_congr_left fun _ => ?_) rfl rfl
          omega
  exact hrows Glyph.side

/-- A text changes the pixels where it has ink.  It stops at the first cell right of the picture,
where there is no pixel to change. -/
lemma get?_text (y : Int) (v : UInt8) (X Y : Int) (codes : List UInt8) :
    ∀ (p : Pixmap) (x : Int), (p.text x y codes v).get? X Y
      = if Lettering.Inked x y codes X Y then (p.get? X Y).map fun _ => v else p.get? X Y := by
  induction codes with
  | nil =>
      intro p x
      rw [if_neg (Lettering.not_inked_nil x y X Y)]
      rfl
  | cons code codes ih =>
      intro p x
      rw [text]
      split_ifs with hright hink hink
      · have hout : ¬ p.Contains X Y := by
          rintro ⟨-, hX, -⟩
          have := hink.1
          omega
        rw [get?_eq_none hout, Option.map_none]
      · rfl
      · rw [ih, get?_letter]
        rcases (Lettering.inked_cons x y code codes X Y).mp hink with hfirst | hrest
        · rw [if_pos hfirst, Option.map_map]
          split_ifs <;> rfl
        · rw [if_pos hrest]
          split_ifs
          · rw [Option.map_map]; rfl
          · rfl
      · have hnot := (Lettering.inked_cons x y code codes X Y).not.mp hink
        rw [ih, get?_letter, if_neg fun h => hnot (Or.inr h), if_neg fun h => hnot (Or.inl h)]

end Pixmap

end Paintbox

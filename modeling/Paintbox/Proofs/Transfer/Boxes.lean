import Paintbox.Proofs.Pixmap.Pixels
import Paintbox.Proofs.Transfer.Pixels

/-!
# Boxes as transfers

To fill or to invert a box is also a transfer of a pattern to a box of its size.  The two go about
it differently: a box is cut off at the edges of the picture by its loops, whatever its corners are,
while a transfer finds the visible part of a box first, if there is one, and samples a source for
it.  Here it is seen that both come by the same pixels, those of the picture that lie in the box,
and by each of them once.

* `Pixmap.cells`, `Pixmap.alter_eq_foldl` — the points of a box, and the loops over it as one pass
  through them.
* `Pixmap.patternTransfer_eq_alter` — **the visible part of a box is the box cut off at the edges**.
* `Pixmap.boxes_eq_patternTransfer` — filling and inverting as transfers, and what they come by.
-/

namespace Paintbox

/-- To invert a byte is to flip all of its bits. -/
lemma xor_ones_eq_not (v : UInt8) : v ^^^ 0xFF = ~~~v :=
  UInt8.eq_of_toBitVec_eq BitVec.xor_allOnes

lemma xor_ones_ne (v : UInt8) : v ^^^ 0xFF ≠ v := by
  intro h
  have hones : v ^^^ (v ^^^ 0xFF) = v ^^^ v := congrArg (v ^^^ ·) h
  rw [← UInt8.xor_assoc, UInt8.xor_self, UInt8.zero_xor] at hones
  exact absurd hones (by decide)

namespace Pixmap

/-! ## One pass through a box -/

/-- The points of a box, row by row. -/
def cells (x0 y0 x1 y1 : ℤ) : List (ℤ × ℤ) :=
  (List.range (y1 - y0).toNat).flatMap fun j : ℕ =>
    (List.range (x1 - x0).toNat).map fun i : ℕ => (x0 + i, y0 + j)

variable {x0 y0 x1 y1 : ℤ}

lemma mem_cells {x y : ℤ} : (x, y) ∈ cells x0 y0 x1 y1 ↔ InBox x0 y0 x1 y1 x y := by
  simp only [cells, List.mem_flatMap, List.mem_map, List.mem_range, Prod.mk.injEq, InBox]
  constructor
  · rintro ⟨j, hj, i, hi, rfl, rfl⟩
    omega
  · rintro ⟨hx, hx1, hy, hy1⟩
    exact ⟨(y - y0).toNat, by omega, (x - x0).toNat, by omega, by omega, by omega⟩

/-- No point of a box is listed twice. -/
lemma nodup_cells : (cells x0 y0 x1 y1).Nodup := by
  rw [cells, List.nodup_flatMap]
  constructor
  · intro j _
    refine List.nodup_range.map fun i i' h => ?_
    simpa using congrArg Prod.fst h
  · refine List.nodup_range.imp fun {j j'} hne pt hpt hpt' => ?_
    -- points of different rows differ in their second coordinate
    obtain ⟨i, -, rfl⟩ := List.mem_map.mp hpt
    obtain ⟨i', -, h⟩ := List.mem_map.mp hpt'
    have hrow : y0 + (j' : ℤ) = y0 + j := congrArg Prod.snd h
    omega

lemma fold_eq_foldl_range {β : Type} (n : ℕ) (f : ℕ → β → β) (b : β) :
    n.fold (fun i _ b => f i b) b = (List.range n).foldl (fun b i => f i b) b := by
  induction n with
  | zero => rfl
  | succ n ih => rw [Nat.fold_succ, ih, List.range_succ, List.foldl_append]; rfl

/-- The loops over the rows and columns of a box come by its points one after the other. -/
lemma alter_eq_foldl (p : Pixmap) (f : ℤ → ℤ → UInt8 → UInt8) :
    p.alter x0 y0 x1 y1 f
      = (cells x0 y0 x1 y1).foldl (fun q pt => q.modify pt.1 pt.2 (f pt.1 pt.2)) p := by
  rw [alter, cells, List.foldl_flatMap, fold_eq_foldl_range]
  congr 1
  funext q j
  rw [alterRow, List.foldl_map, fold_eq_foldl_range]

/-- The points of the picture that lie in a box, row by row. -/
def cellsOn (p : Pixmap) (left top right bottom : ℤ) : List (ℤ × ℤ) :=
  cells (max left 0) (max top 0) (min right p.width) (min bottom p.height)

lemma mem_cellsOn {p : Pixmap} {left top right bottom x y : ℤ} :
    (x, y) ∈ p.cellsOn left top right bottom
      ↔ InBox left top right bottom x y ∧ p.Contains x y := by
  rw [cellsOn, mem_cells, InBox, InBox, Contains]
  omega

/-! ## Boxes as transfers -/

/-- A transfer of the pattern finds the visible part of its box, which is the box cut off at the
edges of the picture, also where there is none. -/
lemma patternTransfer_eq_alter (p : Pixmap) (left top right bottom : ℤ) (op : RasterOp)
    (pattern : UInt8) :
    p.patternTransfer left top (right - left) (bottom - top) op pattern
      = p.alter (max left 0) (max top 0) (min right p.width) (min bottom p.height)
          fun _ _ old => op.apply old 0 pattern := by
  have hsize := sameSize_transfer p left top (right - left) (bottom - top) none (.shift 0 0) op
    pattern
  have hsize' := sameSize_alter p (max left 0) (max top 0) (min right p.width)
    (min bottom p.height) fun _ _ old => op.apply old 0 pattern
  refine ext_get? ⟨hsize.1.trans hsize'.1.symm, hsize.2.trans hsize'.2.symm⟩ fun x y => ?_
  rw [patternTransfer, bitTransfer, get?_transfer, get?_alter_clamped]
  have hbox : Covers left top (right - left) (bottom - top) x y
      ↔ InBox left top right bottom x y := by
    rw [Covers, InBox]
    omega
  simp only [hbox]
  rfl

lemma put_eq_modify (p : Pixmap) (x y : ℤ) (v : UInt8) : p.put x y v = p.modify x y fun _ => v :=
  rfl

/-- **To fill or to invert a box is a transfer.**  For all corners, in whatever order and however
far from the picture: filling a box is the transfer that copies the pattern to a box of its size,
inverting it is the transfer that inverts the destination, whatever the pattern.  All of them come
by the same points, those of the picture that lie in the box, by each of them once, and change it
there and nowhere else.  A filled pixel has the new color; an inverted one is another one than it
was. -/
theorem boxes_eq_patternTransfer (p : Pixmap) (left top right bottom : ℤ) (v : UInt8) :
    p.fillBox left top right bottom v
        = p.patternTransfer left top (right - left) (bottom - top) .patCopy v ∧
    (∀ pattern, p.invertBox left top right bottom
        = p.patternTransfer left top (right - left) (bottom - top) .dstInvert pattern) ∧
    (∃ visited : List (ℤ × ℤ), visited.Nodup ∧
      (∀ x y, (x, y) ∈ visited ↔ InBox left top right bottom x y ∧ p.Contains x y) ∧
      p.fillBox left top right bottom v = visited.foldl (fun q pt => q.put pt.1 pt.2 v) p ∧
      p.invertBox left top right bottom
        = visited.foldl (fun q pt => q.modify pt.1 pt.2 (· ^^^ 0xFF)) p ∧
      ∀ op pattern, p.patternTransfer left top (right - left) (bottom - top) op pattern
        = visited.foldl (fun q pt => q.modify pt.1 pt.2 fun old => op.apply old 0 pattern) p) ∧
    (∀ x y, (p.fillBox left top right bottom v).get? x y
      = if InBox left top right bottom x y then (p.get? x y).map fun _ => v else p.get? x y) ∧
    ∀ x y, (p.invertBox left top right bottom).get? x y ≠ p.get? x y
      ↔ InBox left top right bottom x y ∧ p.Contains x y := by
  refine ⟨?_, fun pattern => ?_, ⟨p.cellsOn left top right bottom, nodup_cells,
    fun x y => mem_cellsOn, ?_, ?_, fun op pattern => ?_⟩, p.get?_fillBox left top right bottom v,
    fun x y => ?_⟩
  · rw [patternTransfer_eq_alter]
    rfl
  · rw [patternTransfer_eq_alter, invertBox]
    simp only [xor_ones_eq_not, RasterOp.apply]
  · simp only [put_eq_modify]
    exact alter_eq_foldl p _
  · exact alter_eq_foldl p _
  · rw [patternTransfer_eq_alter]
    exact alter_eq_foldl p _
  · rw [get?_invertBox]
    constructor
    · exact changed_of_ne
    · rintro ⟨hbox, hin⟩ hsame
      rw [if_pos hbox, get?_eq_some hin] at hsame
      exact xor_ones_ne _ (Option.some.inj hsame)

end Pixmap

end Paintbox

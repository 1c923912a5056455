import Paintbox.Proofs.Transfer.Boxes

/-!
# Flipping bits

Inverting a box and the transfers that combine by exclusive or have one thing in common: what they
do to a pixel is to flip some of its bits, and which ones does not depend on the picture.  So two of
them do not get in each other's way, wherever their boxes overlap or are cut off, and one that is
done again takes back what it has done.  This is what rubber bands and cursors are drawn with.

The source of such a transfer is a picture of its own.  One that is read from the destination is not
a flip, since the second time there is another picture to read.

* `Flip`, `Flip.apply` — the operations, with all of their arguments.
* `Flip.mask` — which bits of a pixel are flipped, told by the arguments alone.
* `Flip.get?_apply` — **an operation is its mask**.
* `Flip.apply_apply`, `Flip.apply_comm` — an operation done twice, and two operations.
* `Flip.cancel_and_commute` — all of it, and any number of operations in any order.
-/

namespace Paintbox

/-- An operation on a picture that flips bits: to invert a box, by itself or as a transfer, or to
combine the pixels of a box with a pattern or with a source by exclusive or. -/
inductive Flip where
  | invertBox (left top right bottom : ℤ)
  | dstInvert (x y w h : ℤ) (pattern : UInt8)
  | patInvert (x y w h : ℤ) (pattern : UInt8)
  | bitTransfer (x y w h : ℤ) (source : Option Pixmap) (sx sy : ℤ) (pattern : UInt8)
  | stretchTransfer (x y w h : ℤ) (source : Option Pixmap) (sx sy sw sh : ℤ) (pattern : UInt8)

namespace Flip

def apply : Flip → Pixmap → Pixmap
  | invertBox left top right bottom, p => p.invertBox left top right bottom
  | dstInvert x y w h pattern, p => p.patternTransfer x y w h .dstInvert pattern
  | patInvert x y w h pattern, p => p.patternTransfer x y w h .patInvert pattern
  | bitTransfer x y w h source sx sy pattern, p =>
      p.bitTransfer x y w h source sx sy .srcInvert pattern
  | stretchTransfer x y w h source sx sy sw sh pattern, p =>
      p.stretchTransfer x y w h source sx sy sw sh .srcInvert pattern

/-- The bits that are flipped at a point. -/
def mask : Flip → (X Y : ℤ) → UInt8
  | invertBox left top right bottom, X, Y =>
      if Pixmap.InBox left top right bottom X Y then 0xFF else 0
  | dstInvert x y w h _, X, Y => if Covers x y w h X Y then 0xFF else 0
  | patInvert x y w h pattern, X, Y => if Covers x y w h X Y then pattern else 0
  | bitTransfer x y w h source sx sy _, X, Y =>
      if Covers x y w h X Y then sourceByte source (sx + (X - x)) (sy + (Y - y)) else 0
  | stretchTransfer x y w h source sx sy sw sh _, X, Y =>
      if Covers x y w h X Y then
        sourceByte source (sx + Mapping.scaled sw w (X - x)) (sy + Mapping.scaled sh h (Y - y))
      else 0

/-! ## An operation is its mask -/

lemma sameSize_apply (f : Flip) (p : Pixmap) : (f.apply p).SameSize p := by
  cases f with
  | invertBox left top right bottom => exact Pixmap.sameSize_invertBox p _ _ _ _
  | _ => exact Pixmap.sameSize_transfer p _ _ _ _ _ _ _ _

/-- To flip no bit where a point is outside of a box is to leave it alone. -/
lemma map_xor_ite (area : Prop) [Decidable area] (bits : UInt8) (pixel : Option UInt8) :
    pixel.map (· ^^^ if area then bits else 0)
      = if area then pixel.map (· ^^^ bits) else pixel := by
  split_ifs
  · rfl
  · simp only [UInt8.xor_zero, Option.map_id']

/-- **An operation is its mask.** -/
lemma get?_apply (f : Flip) (p : Pixmap) (X Y : ℤ) :
    (f.apply p).get? X Y = (p.get? X Y).map (· ^^^ f.mask X Y) := by
  cases f with
  | invertBox left top right bottom =>
      rw [mask, map_xor_ite]
      exact Pixmap.get?_invertBox p left top right bottom X Y
  | dstInvert x y w h pattern =>
      rw [mask, map_xor_ite]
      simp only [xor_ones_eq_not]
      exact Pixmap.get?_transfer p x y w h none _ .dstInvert pattern X Y
  | patInvert x y w h pattern =>
      rw [mask, map_xor_ite]
      exact Pixmap.get?_transfer p x y w h none _ .patInvert pattern X Y
  | bitTransfer x y w h source sx sy pattern =>
      rw [mask, map_xor_ite, apply, Pixmap.bitTransfer, Pixmap.get?_transfer, Mapping.locate_shift]
      rfl
  | stretchTransfer x y w h source sx sy sw sh pattern =>
      rw [mask, map_xor_ite, apply, Pixmap.stretchTransfer, Pixmap.get?_transfer]
      refine if_ctx_congr Iff.rfl (fun hcov => ?_) fun _ => rfl
      obtain ⟨hx, -, hy, -⟩ := hcov
      rw [Mapping.locate_of_nonneg _ (sub_nonneg.mpr hx) (sub_nonneg.mpr hy)]
      rfl

/-! ## One after the other -/

/-- Two operations one after the other flip the bits of both masks. -/
lemma get?_apply_apply (f g : Flip) (p : Pixmap) (X Y : ℤ) :
    (f.apply (g.apply p)).get? X Y = (p.get? X Y).map (· ^^^ (g.mask X Y ^^^ f.mask X Y)) := by
  simp only [get?_apply, Option.map_map, Function.comp_def, UInt8.xor_assoc]

lemma sameSize_apply_apply (f g : Flip) (p : Pixmap) : (f.apply (g.apply p)).SameSize p :=
  (f.sameSize_apply _).trans (g.sameSize_apply p)

/-- Bits that are flipped twice are what they were. -/
lemma apply_apply (f : Flip) (p : Pixmap) : f.apply (f.apply p) = p := by
  refine Pixmap.ext_get? (sameSize_apply_apply f f p) fun X Y => ?_
  rw [get?_apply_apply, UInt8.xor_self]
  simp only [UInt8.xor_zero, Option.map_id']

lemma apply_comm (f g : Flip) (p : Pixmap) : f.apply (g.apply p) = g.apply (f.apply p) := by
  have hsize := sameSize_apply_apply f g p
  have hsize' := sameSize_apply_apply g f p
  refine Pixmap.ext_get? ⟨hsize.1.trans hsize'.1.symm, hsize.2.trans hsize'.2.symm⟩ fun X Y => ?_
  rw [get?_apply_apply, get?_apply_apply, UInt8.xor_comm]

instance : RightCommutative fun (p : Pixmap) (f : Flip) => f.apply p :=
  ⟨fun p f g => apply_comm g f p⟩

/-- **Flips cancel and commute.**  On every picture and with all arguments, boxes that overlap or
are cut off included: to invert a box, to transfer the pattern with the destination or the pattern
inverted, and to transfer from a separate source, or from none, by exclusive or, at the same size or
scaled, flips the bits of a mask that does not depend on the picture.  So the same operation a
second time brings the picture back, and two operations give the same picture in either order.  By
that any number of them may be done in any order. -/
theorem cancel_and_commute (f g : Flip) (p : Pixmap) :
    ((f.apply p).SameSize p ∧
        ∀ X Y, (f.apply p).get? X Y = (p.get? X Y).map (· ^^^ f.mask X Y)) ∧
      f.apply (f.apply p) = p ∧
      f.apply (g.apply p) = g.apply (f.apply p) ∧
      ∀ flips flips' : List Flip, flips.Perm flips' →
        flips.foldl (fun p f => f.apply p) p = flips'.foldl (fun p f => f.apply p) p :=
  ⟨⟨f.sameSize_apply p, f.get?_apply p⟩, f.apply_apply p, f.apply_comm g p,
    fun _ _ hperm => hperm.foldl_eq p⟩

/-- The two boxes share one pixel, and both are cut off: inverting the first one before and
after the second one is combined with a pattern is to do the latter alone. -/
theorem cancel_and_commute_overlapping :
    [Flip.invertBox (-1) (-1) 2 1, .patInvert 1 0 5 5 3, .invertBox (-1) (-1) 2 1].foldl
        (fun p f => f.apply p) (Pixmap.blank 2 2 Nat.zero_lt_two Nat.zero_lt_two)
      = (Flip.patInvert 1 0 5 5 3).apply (Pixmap.blank 2 2 Nat.zero_lt_two Nat.zero_lt_two) := by
  obtain ⟨-, hcancel, -, horder⟩ := cancel_and_commute (.invertBox (-1) (-1) 2 1)
    (.patInvert 1 0 5 5 3) (Pixmap.blank 2 2 Nat.zero_lt_two Nat.zero_lt_two)
  have hswap := horder [.invertBox (-1) (-1) 2 1, .patInvert 1 0 5 5 3, .invertBox (-1) (-1) 2 1]
    [.invertBox (-1) (-1) 2 1, .invertBox (-1) (-1) 2 1, .patInvert 1 0 5 5 3]
    ((List.Perm.swap _ _ _).cons _)
  rw [hswap, List.foldl_cons, List.foldl_cons, List.foldl_cons, List.foldl_nil, hcancel]

end Flip

end Paintbox

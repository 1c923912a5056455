import Paintbox.Proofs.RasterOp.TruthTable
import Paintbox.Proofs.Session.Frame
import Paintbox.Proofs.Transfer.Pixels

/-!
# Block transfers and their reference

A block transfer between two contexts is told by the display before it: every pixel of the box that
lies on the destination is made, by the truth table of the code, from the pixel itself, a source
pixel and the pattern.  This is so also when the source is the destination, or draws on the same
screen, and however the two boxes overlap.

* `Display.sourceAt`, `Display.patternByte` — the bytes that go in besides the pixel itself.
* `Display.Transferred` — **the reference**: a display before and after a transfer.
* `Request.transferred_of_stroke` — a transfer through any mapping.
* `Request.transfers_eq_reference` — both kinds of transfers, with every code.
-/

namespace Paintbox

namespace Display

/-- The byte that is read through a context at a point: zero if the context is not there, and
outside of its picture. -/
def sourceAt (d : Display) (src : ContextHandle) (x y : Int) : UInt8 :=
  match d.surface src with
  | .ok p => (p.get? x y).getD 0
  | .error _ => 0

/-- The low byte of the color of the brush in a context, whatever its style; zero if the slot holds
no live brush. -/
def patternByte (d : Display) (dc : DeviceContext) : UInt8 :=
  match d.objects.get? dc.selection.brush.code with
  | some (.brush brush) => brush.color.word.toUInt8
  | _ => 0

/-- The display `d'` is `d` after a transfer to a box of the context `dc` under `h`.  `sample` is
the source byte for every offset in the box, visible or not. -/
structure Transferred (d d' : Display) (h : ContextHandle) (dc : DeviceContext) (box : Box)
    (code : UInt32) (sample : Int → Int → UInt8) : Prop where
  /-- Nothing but the picture of the context has changed, and that keeps its size. -/
  frame : d.Confined d' h dc False
  pixels : ∃ p, d'.surface h = .ok p ∧ ∀ X Y, p.get? X Y =
    if Covers box.x.toInt box.y.toInt box.width.toInt box.height.toInt X Y then
      ((d.target dc).get? X Y).map fun old =>
        RasterOp.combined code old (sample (X - box.x.toInt) (Y - box.y.toInt)) (d.patternByte dc)
    else (d.target dc).get? X Y

variable {d : Display} {h src : ContextHandle} {dc : DeviceContext}

lemma pattern_eq_patternByte (d : Display) (dc : DeviceContext) :
    (d.inks dc).pattern = d.patternByte dc := by
  simp only [inks, patternByte, brush?]
  cases d.objects.get? dc.selection.brush.code with
  | none => rfl
  | some object => cases object <;> rfl

/-- The null handle stands for no source, any other for the picture that is read. -/
lemma exists_source (hsrc : src = .null ∨ ∃ dc', d.contexts.get? src.code = some dc') :
    ∃ source, d.source src = .ok source ∧ ∀ x y, sourceByte source x y = d.sourceAt src x y := by
  rcases hsrc with rfl | ⟨dc', hdc'⟩
  · exact ⟨none, rfl, fun x y => rfl⟩
  · refine ⟨some (d.target dc'), source_of_live hdc', fun x y => ?_⟩
    rw [sourceAt, surface_of_live hdc']
    rfl

end Display

namespace Request

open Display

variable {d : Display} {h src : ContextHandle} {dc : DeviceContext}

/-- A drawing whose stroke is a transfer leaves the display that the reference says. -/
lemma transferred_of_stroke (hdc : d.contexts.get? h.code = some dc)
    (hsrc : src = .null ∨ ∃ dc', d.contexts.get? src.code = some dc') {g : Drawing} {box : Box}
    {m : Mapping} {code : UInt32} {sample : Int → Int → UInt8}
    (hstroke : g.stroke d h = d.transferStroke h box src m (.ofCode code)) (hsettle : g.settle = id)
    (hsample : ∀ ix iy, 0 ≤ ix → 0 ≤ iy →
      d.sourceAt src (m.locate ix iy).1 (m.locate ix iy).2 = sample ix iy) :
    ∃ d', (Request.draw h g).perform ⟨some d⟩ = (.ok .done, ⟨some d'⟩) ∧
      d.Transferred d' h dc box code sample := by
  obtain ⟨source, hsource, hbyte⟩ := exists_source hsrc
  have hf : g.stroke d h = .ok fun p => p.transfer box.x.toInt box.y.toInt box.width.toInt
      box.height.toInt source m (.ofCode code) (d.inks dc).pattern := by
    rw [hstroke, transferStroke, context_eq_ok_iff.mpr hdc, hsource]
    rfl
  refine ⟨_, by rw [perform_draw, hf], ?_, ?_⟩
  · exact confined_drawn hdc (Drawing.sameSize_stroke hf) g.settle_eq fun _ => hsettle
  · rw [hsettle, drawn_id]
    refine ⟨_, surface_paint_self hdc _, fun X Y => ?_⟩
    rw [Pixmap.get?_transfer]
    split_ifs with hcov
    · obtain ⟨hx, -, hy, -⟩ := hcov
      have hoffset := hsample (X - box.x.toInt) (Y - box.y.toInt) (by omega) (by omega)
      simp only [hbyte, hoffset, RasterOp.apply_ofCode, pattern_eq_patternByte]
    · rfl

/-- **A block transfer is its reference.**  For a live destination, a source that is live or null,
any boxes and any code, the transfer succeeds, and the display after it is told pixel by pixel by
the display before it: a transfer of one size reads the source at the offset within the box, a
scaled one at the offset times the size of the source box, divided by the size of the box. -/
theorem transfers_eq_reference (hdc : d.contexts.get? h.code = some dc)
    (hsrc : src = .null ∨ ∃ dc', d.contexts.get? src.code = some dc') (box srcBox : Box)
    (sx sy : Int16) (code : UInt32) :
    (∃ d', (Request.draw h (.bitTransfer box src sx sy (.ofCode code))).perform ⟨some d⟩
        = (.ok .done, ⟨some d'⟩) ∧
      d.Transferred d' h dc box code fun ix iy =>
        d.sourceAt src (sx.toInt + ix) (sy.toInt + iy)) ∧
    (∃ d', (Request.draw h (.stretchTransfer box src srcBox (.ofCode code))).perform ⟨some d⟩
        = (.ok .done, ⟨some d'⟩) ∧
      d.Transferred d' h dc box code fun ix iy =>
        d.sourceAt src
          (srcBox.x.toInt + Mapping.scaled srcBox.width.toInt box.width.toInt ix)
          (srcBox.y.toInt + Mapping.scaled srcBox.height.toInt box.height.toInt iy)) := by
  refine ⟨?_, ?_⟩
  · refine transferred_of_stroke hdc hsrc rfl rfl fun ix iy _ _ => ?_
    rw [Mapping.locate_shift]
  · refine transferred_of_stroke hdc hsrc rfl rfl fun ix iy hx hy => ?_
    rw [Mapping.locate_of_nonneg _ hx hy]

/-- On a screen of three pixels with the first one set, two pixels are transferred one to the right:
the boxes overlap.  With another code the same two pixels are combined with the brush instead, which
has the color 15. -/
theorem transfers_eq_reference_overlapping :
    ∃ d dc, (Session.closed.run
        [.start .ample ⟨3, 1, 1, 1⟩, .openContext 7, .createBrush .hatched ⟨0x20F⟩,
          .selectObject ⟨1⟩ ⟨1⟩, .draw ⟨1⟩ (.dot ⟨0, 0⟩ .white)]).2 = ⟨some d⟩ ∧
      d.contexts.get? 1 = some dc ∧ d.patternByte dc = 15 ∧
      (∃ d', (Request.draw ⟨1⟩ (.bitTransfer ⟨1, 0, 2, 1⟩ ⟨1⟩ 0 0 (.ofCode 0x00CC0020))).perform
          ⟨some d⟩ = (.ok .done, ⟨some d'⟩) ∧
        d.Transferred d' ⟨1⟩ dc ⟨1, 0, 2, 1⟩ 0x00CC0020 fun ix iy =>
          d.sourceAt ⟨1⟩ ((0 : Int16).toInt + ix) ((0 : Int16).toInt + iy)) ∧
      ∃ d', (Request.draw ⟨1⟩ (.bitTransfer ⟨1, 0, 2, 1⟩ ⟨1⟩ 0 0 (.ofCode 0x005A0049))).perform
          ⟨some d⟩ = (.ok .done, ⟨some d'⟩) ∧
        d.Transferred d' ⟨1⟩ dc ⟨1, 0, 2, 1⟩ 0x005A0049 fun ix iy =>
          d.sourceAt ⟨1⟩ ((0 : Int16).toInt + ix) ((0 : Int16).toInt + iy) := by
  refine ⟨_, _, rfl, rfl, rfl, ?_, ?_⟩
  · exact (transfers_eq_reference rfl (Or.inr ⟨_, rfl⟩) ⟨1, 0, 2, 1⟩ ⟨0, 0, 0, 0⟩ 0 0 0x00CC0020).1
  · exact (transfers_eq_reference rfl (Or.inr ⟨_, rfl⟩) ⟨1, 0, 2, 1⟩ ⟨0, 0, 0, 0⟩ 0 0 0x005A0049).1

end Request

end Paintbox

import Paintbox.Proofs.Display.Drawn
import Paintbox.Session.Request

/-!
# Drawings as strokes

Whatever is drawn, drawing comes down to three things: it is refused, or else the picture of the
context is changed by some function, and the context by another one that at most moves its current
position.  The two functions do not depend on the picture that they are applied to.

* `Drawing.stroke` — what a drawing does to the picture of a context, or why it is refused.
* `Drawing.settle` — what it does to the registers of the context.
* `Drawing.on_perform` — **a drawing is its stroke**.
* `Drawing.sameSize_stroke` — a stroke changes pixels only.
* `Drawing.stroke_congr` — a stroke depends on the objects, the registers of its context, and the
  picture that it reads.
* `DeviceContext.Alike`, `Drawing.stroke_of_alike` — the registers that matter.
-/

namespace Paintbox

open DisplayAction Display

/-- Two contexts whose drawings look the same: equal in position, selection and text color. -/
structure DeviceContext.Alike (dc dc' : DeviceContext) : Prop where
  position : dc'.position = dc.position
  selection : dc'.selection = dc.selection
  textColor : dc'.textColor = dc.textColor

/-- Change a picture with an ink, if there is one. -/
def inked (ink : Option UInt8) (f : UInt8 → Pixmap → Pixmap) (p : Pixmap) : Pixmap :=
  ink.elim p fun v => f v p

/-- What a transfer does to the picture of a context, or why it is refused. -/
def Display.transferStroke (d : Display) (h : ContextHandle) (box : Box) (src : ContextHandle)
    (m : Mapping) (op : RasterOp) : Except Error (Pixmap → Pixmap) := do
  let dc ← d.context h
  let source ← d.source src
  return fun p => p.transfer box.x.toInt box.y.toInt box.width.toInt box.height.toInt source m op
    (d.inks dc).pattern

namespace Drawing

/-- What a drawing does to the picture of a context, or why it is refused. -/
def stroke (d : Display) (h : ContextHandle) : Drawing → Except Error (Pixmap → Pixmap)
  | .dot pt color => (d.context h).map fun _ p => p.put pt.x.toInt pt.y.toInt color.index
  | .line a b color => (d.context h).map fun _ p => p.line (segment a b) color.index
  | .lineTo b => (d.context h).map fun dc =>
      inked (d.inks dc).pen fun v p => p.line (segment dc.position b) v
  | .rectangle r => (d.context h).map fun dc p =>
      p.rectangle r.left.toInt r.top.toInt r.right.toInt r.bottom.toInt (d.inks dc).pen
        (d.inks dc).brush
  | .ellipse r => (d.context h).map fun dc =>
      inked (d.inks dc).pen fun v p =>
        p.oval (.inscribed r.left.toInt r.top.toInt r.right.toInt r.bottom.toInt) v
  | .path points closed =>
      if points.length < 2 then
        .error (.invalidArgument (.tooFewPoints points.length))
      else
        (d.context h).map fun dc =>
          inked (d.inks dc).pen fun v p => p.path (points.map Point.toPlane) v closed
  | .text pt codes len => (d.context h).map fun dc p =>
      p.text pt.x.toInt pt.y.toInt (Lettering.span codes len) (d.inks dc).text
  | .fillRect r brush => do
      let ink ← d.brushInk brush
      (d.context h).map fun _ => inked ink fun v p =>
        p.fillBox r.left.toInt r.top.toInt r.right.toInt r.bottom.toInt v
  | .frameRect r brush => do
      let ink ← d.brushInk brush
      (d.context h).map fun _ => inked ink fun v p =>
        p.frameBox r.left.toInt r.top.toInt r.right.toInt r.bottom.toInt v
  | .invertRect r => (d.context h).map fun _ p =>
      p.invertBox r.left.toInt r.top.toInt r.right.toInt r.bottom.toInt
  | .bitTransfer box src sx sy op => d.transferStroke h box src (.shift sx.toInt sy.toInt) op
  | .stretchTransfer box src srcBox op =>
      d.transferStroke h box src
        ⟨srcBox.x.toInt, srcBox.y.toInt, srcBox.width.toInt, srcBox.height.toInt,
          box.width.toInt, box.height.toInt⟩ op
  | .patternTransfer box op => (d.context h).map fun dc p =>
      p.patternTransfer box.x.toInt box.y.toInt box.width.toInt box.height.toInt op
        (d.inks dc).pattern

/-- What a drawing does to the registers of its context: only the line from the current position
moves that position. -/
def settle : Drawing → DeviceContext → DeviceContext
  | .lineTo b => fun dc => { dc with position := b }
  | _ => id

end Drawing

namespace Display

/-- A transfer is its stroke.  Where nothing is visible the stroke leaves the picture alone. -/
lemma on_transfer (dst : ContextHandle) (box : Box) (src : ContextHandle) (m : Mapping)
    (op : RasterOp) (d : Display) :
    (transfer dst box src m op).on d = match d.transferStroke dst box src m op with
      | .ok f => (.ok (), d.paint dst f)
      | .error e => (.error e, d) := by
  rw [transfer, on_bind, on_ask, transferStroke, sampled]
  cases hctx : d.context dst with
  | error e => simp [surface, hctx, bind, Except.bind, Except.map]
  | ok dc =>
      have hdc := context_eq_ok_iff.mp hctx
      rw [surface_of_live hdc]
      cases d.source src with
      | error e => rfl
      | ok source =>
          simp only [bind, Except.bind, pure, Except.pure]
          cases hclip : Clip.of? (d.target dc).width (d.target dc).height box.x.toInt box.y.toInt
            box.width.toInt box.height.toInt with
          | none =>
              rw [paint_of_eq hdc (by simp [Pixmap.transfer, hclip])]
              rfl
          | some c =>
              show (draw dst fun inks p => c.combine p (c.sample source m op) op inks.pattern).on d
                = _
              rw [on_draw, hctx]
              simp only
              rw [paint_congr hdc]
              simp [Pixmap.transfer, hclip]

end Display

namespace Drawing

/-- **A drawing is its stroke.**  It is refused and changes nothing, or else the picture of its
context is changed by the stroke and the context settles. -/
lemma on_perform (g : Drawing) (h : ContextHandle) (d : Display) :
    (g.perform h).on d = match g.stroke d h with
      | .ok f => (.ok (), d.drawn h f g.settle)
      | .error e => (.error e, d) := by
  cases g with
  | dot pt color =>
      simp only [perform, Display.dot, on_draw, stroke, settle, drawn_id]
      cases d.context h <;> rfl
  | line a b color =>
      simp only [perform, Display.line, on_draw, stroke, settle, drawn_id]
      cases d.context h <;> rfl
  | lineTo b =>
      simp only [perform, Display.lineTo, position, stroke, settle]
      rw [on_bind, on_register]
      cases hctx : d.context h with
      | error e => rfl
      | ok dc =>
          have hdc := context_eq_ok_iff.mp hctx
          -- the context is looked up again after the line, and it is still there
          have hagain : ∀ f, (d.paint h f).context h
              = .ok { dc with surface := dc.surface.map f } := fun f =>
            context_eq_ok_iff.mpr (get?_paint_self hdc f)
          simp only [Except.map, on_bind, on_draw, hctx, moveTo, on_exchange, hagain, on_pure]
          congr 2
          cases (d.inks dc).pen <;> rfl
  | rectangle r =>
      simp only [perform, Display.rectangle, on_draw, stroke, settle, drawn_id]
      cases d.context h <;> rfl
  | ellipse r =>
      simp only [perform, Display.ellipse, on_draw, stroke, settle, drawn_id]
      cases d.context h with
      | error e => rfl
      | ok dc =>
          simp only [Except.map]
          cases (d.inks dc).pen <;> rfl
  | path points closed =>
      simp only [perform, Display.path, stroke, settle, drawn_id]
      split_ifs with hfew
      · rfl
      · show (draw h _).on d = _
        rw [on_draw]
        cases d.context h with
        | error e => rfl
        | ok dc =>
            simp only [Except.map]
            cases (d.inks dc).pen <;> rfl
  | text pt codes len =>
      simp only [perform, Display.text, on_draw, stroke, settle, drawn_id]
      cases d.context h <;> rfl
  | fillRect r brush =>
      simp only [perform, Display.fillRect, on_drawWith, stroke, settle, drawn_id]
      cases d.brushInk brush with
      | error e => rfl
      | ok ink => cases d.context h <;> rfl
  | frameRect r brush =>
      simp only [perform, Display.frameRect, on_drawWith, stroke, settle, drawn_id]
      cases d.brushInk brush with
      | error e => rfl
      | ok ink => cases d.context h <;> rfl
  | invertRect r =>
      simp only [perform, Display.invertRect, on_draw, stroke, settle, drawn_id]
      cases d.context h <;> rfl
  | bitTransfer box src sx sy op =>
      simp only [perform, Display.bitTransfer, on_transfer, stroke, settle, drawn_id]
  | stretchTransfer box src srcBox op =>
      simp only [perform, Display.stretchTransfer, on_transfer, stroke, settle, drawn_id]
  | patternTransfer box op =>
      simp only [perform, Display.patternTransfer, on_draw, stroke, settle, drawn_id]
      cases d.context h <;> rfl

/-! ## What strokes change -/

lemma sameSize_inked {ink : Option UInt8} {f : UInt8 → Pixmap → Pixmap}
    (hf : ∀ v p, (f v p).SameSize p) (p : Pixmap) : (inked ink f p).SameSize p := by
  cases ink with
  | none => exact Pixmap.SameSize.refl p
  | some v => exact hf v p

lemma of_map_eq_ok {α β ε : Type} {x : Except ε α} {F : α → β} {b : β} (h : x.map F = .ok b) :
    ∃ a, x = .ok a ∧ F a = b := by
  cases x with
  | error e => cases h
  | ok a => exact ⟨a, rfl, Except.ok.inj h⟩

lemma sameSize_transferStroke {d : Display} {h : ContextHandle} {box : Box} {src : ContextHandle}
    {m : Mapping} {op : RasterOp} {f : Pixmap → Pixmap}
    (hf : d.transferStroke h box src m op = .ok f) (p : Pixmap) : (f p).SameSize p := by
  rw [transferStroke] at hf
  cases hctx : d.context h with
  | error e =>
      rw [hctx] at hf
      cases hf
  | ok dc =>
      cases hsrc : d.source src with
      | error e =>
          rw [hctx, hsrc] at hf
          cases hf
      | ok source =>
          rw [hctx, hsrc] at hf
          cases hf
          exact Pixmap.sameSize_transfer p _ _ _ _ _ _ _ _

lemma sameSize_brushed {d : Display} {h : ContextHandle} {brush : ObjectHandle}
    {F : UInt8 → Pixmap → Pixmap} {f : Pixmap → Pixmap} (hF : ∀ v p, (F v p).SameSize p)
    (hf : (do
      let ink ← d.brushInk brush
      (d.context h).map fun _ => inked ink F) = Except.ok f) (p : Pixmap) : (f p).SameSize p := by
  cases hink : d.brushInk brush with
  | error e =>
      rw [hink] at hf
      cases hf
  | ok ink =>
      rw [hink] at hf
      obtain ⟨dc, -, rfl⟩ := of_map_eq_ok hf
      exact sameSize_inked hF p

/-- **A stroke changes pixels only**: whatever picture it is applied to keeps its size. -/
lemma sameSize_stroke {g : Drawing} {d : Display} {h : ContextHandle} {f : Pixmap → Pixmap}
    (hf : g.stroke d h = .ok f) (p : Pixmap) : (f p).SameSize p := by
  cases g with
  | dot pt color =>
      obtain ⟨dc, -, rfl⟩ := of_map_eq_ok hf
      exact Pixmap.sameSize_put p _ _ _
  | line a b color =>
      obtain ⟨dc, -, rfl⟩ := of_map_eq_ok hf
      exact Pixmap.sameSize_line p _ _
  | lineTo b =>
      obtain ⟨dc, -, rfl⟩ := of_map_eq_ok hf
      exact sameSize_inked (fun v p => Pixmap.sameSize_line p _ v) p
  | rectangle r =>
      obtain ⟨dc, -, rfl⟩ := of_map_eq_ok hf
      exact Pixmap.sameSize_rectangle p _ _ _ _ _ _
  | ellipse r =>
      obtain ⟨dc, -, rfl⟩ := of_map_eq_ok hf
      exact sameSize_inked (fun v p => Pixmap.sameSize_oval p _ v) p
  | path points closed =>
      rw [stroke] at hf
      split_ifs at hf with hfew
      obtain ⟨dc, -, rfl⟩ := of_map_eq_ok hf
      exact sameSize_inked (fun v p => Pixmap.sameSize_path p _ v closed) p
  | text pt codes len =>
      obtain ⟨dc, -, rfl⟩ := of_map_eq_ok hf
      exact Pixmap.sameSize_text _ _ _ p _
  | fillRect r brush => exact sameSize_brushed (fun v p => Pixmap.sameSize_fillBox p _ _ _ _ v) hf p
  | frameRect r brush =>
      exact sameSize_brushed (fun v p => Pixmap.sameSize_frameBox p _ _ _ _ v) hf p
  | invertRect r =>
      obtain ⟨dc, -, rfl⟩ := of_map_eq_ok hf
      exact Pixmap.sameSize_invertBox p _ _ _ _
  | bitTransfer box src sx sy op => exact sameSize_transferStroke hf p
  | stretchTransfer box src srcBox op => exact sameSize_transferStroke hf p
  | patternTransfer box op =>
      obtain ⟨dc, -, rfl⟩ := of_map_eq_ok hf
      exact Pixmap.sameSize_transfer p _ _ _ _ _ _ _ _

lemma settle_eq (g : Drawing) (c : DeviceContext) :
    ∃ position, g.settle c = { c with position } := by
  cases g with
  | lineTo b => exact ⟨b, rfl⟩
  | _ => exact ⟨c.position, rfl⟩

/-! ## What strokes depend on -/

/-- The context that a drawing reads besides its own. -/
def source? : Drawing → Option ContextHandle
  | .bitTransfer _ src _ _ _ => some src
  | .stretchTransfer _ src _ _ => some src
  | _ => none

lemma inks_of_objects {d d' : Display} (hobjects : d'.objects = d.objects) : d'.inks = d.inks := by
  funext dc
  simp only [inks, pen?, brush?, hobjects]

lemma brushInk_of_objects {d d' : Display} (hobjects : d'.objects = d.objects) :
    d'.brushInk = d.brushInk := by
  funext o
  simp only [brushInk, object, hobjects]

/-- A stroke depends on the objects, the context, and the picture that it reads. -/
lemma stroke_congr {d d' : Display} {h : ContextHandle} (g : Drawing)
    (hobjects : d'.objects = d.objects) (hctx : d'.context h = d.context h)
    (hsource : ∀ src ∈ g.source?, d'.source src = d.source src) : g.stroke d' h = g.stroke d h := by
  have hinks := inks_of_objects hobjects
  have hbrush := brushInk_of_objects hobjects
  cases g with
  | bitTransfer box src sx sy op =>
      have hsrc : d'.source src = d.source src := hsource src rfl
      simp only [stroke, transferStroke, hctx, hsrc, hinks]
  | stretchTransfer box src srcBox op =>
      have hsrc : d'.source src = d.source src := hsource src rfl
      simp only [stroke, transferStroke, hctx, hsrc, hinks]
  | _ => simp only [stroke, hctx, hinks, hbrush]

/-- A stroke that reads no other picture depends on three registers of its context only, whatever
handle that is under. -/
lemma stroke_of_alike {d d' : Display} {h h' : ContextHandle} {dc dc' : DeviceContext} (g : Drawing)
    (hown : g.source? = none) (hobjects : d'.objects = d.objects) (hdc : d.context h = .ok dc)
    (hdc' : d'.context h' = .ok dc') (halike : dc.Alike dc') : g.stroke d' h' = g.stroke d h := by
  have hbrush := brushInk_of_objects hobjects
  have hinks : d'.inks dc' = d.inks dc := by
    rw [inks_of_objects hobjects]
    simp only [inks, halike.selection, halike.textColor]
  cases g with
  | bitTransfer box src sx sy op => cases hown
  | stretchTransfer box src srcBox op => cases hown
  | _ => simp only [stroke, hdc, hdc', Except.map, hinks, hbrush, halike.position]

end Drawing

end Paintbox

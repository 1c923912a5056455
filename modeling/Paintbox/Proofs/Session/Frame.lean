import Paintbox.Proofs.Display.Stroke

/-!
# Drawing touches its canvas only

A drawing is asked for through a context, and it may read another one.  Everything else about the
display is out of its reach, and so drawings on different canvases may change places.

* `Request.through?`, `Request.source?` — the context that a request draws through, and the one it
  reads.
* `Display.SameView` — two displays that look the same from a context and its source.
* `Request.exists_drawn` — **a drawing is one change, the same on every display of one view**.
* `Request.confined_and_comm` — the frame of a drawing, and what follows from it for two of them.
-/

namespace Paintbox

namespace Request

/-- The context that a request draws through, if it is a drawing. -/
def through? : Request → Option ContextHandle
  | .draw h _ => some h
  | .setPixel h _ _ => some h
  | _ => none

/-- The context that a request reads besides the one that it draws through. -/
def source? : Request → Option ContextHandle
  | .draw _ g => g.source?
  | _ => none

/-- Only the line from the current position moves that position. -/
def Moves (r : Request) : Prop := ∃ h b, r = .draw h (.lineTo b)

end Request

/-! ## What a drawing sees -/

/-- Two displays look the same from the context under `h` and from what is read through `src`. -/
structure Display.SameView (d d' : Display) (h : ContextHandle) (src : Option ContextHandle) :
    Prop where
  objects : d'.objects = d.objects
  context : d'.context h = d.context h
  surface : d'.surface h = d.surface h
  source : ∀ s ∈ src, d'.source s = d.source s

namespace Display

variable {d d' : Display} {h g : ContextHandle} {src : Option ContextHandle} {dc : DeviceContext}

lemma SameView.refl (d : Display) (h : ContextHandle) (src : Option ContextHandle) :
    d.SameView d h src where
  objects := rfl
  context := rfl
  surface := rfl
  source := fun _ _ => rfl

/-- From another canvas a drawing is not seen. -/
lemma sameView_drawn (hdc : d.contexts.get? h.code = some dc) (hne : d.canvas? g ≠ d.canvas? h)
    (hsrc : ∀ s ∈ src, d.canvas? s ≠ d.canvas? h) (f : Pixmap → Pixmap)
    (k : DeviceContext → DeviceContext) : d.SameView (d.drawn h f k) g src where
  objects := by rw [drawn_eq hdc]
  context := context_drawn_of_ne (ne_of_canvas?_ne hne) f k
  surface := surface_drawn_of_ne hdc hne f k
  source := fun s hs => source_drawn_of_ne hdc (hsrc s hs) f k

end Display

/-! ## What a drawing does -/

namespace Request

open DisplayAction Display

lemma perform_draw (d : Display) (h : ContextHandle) (g : Drawing) :
    (Request.draw h g).perform ⟨some d⟩ = match g.stroke d h with
      | .ok f => (.ok .done, ⟨some (d.drawn h f g.settle)⟩)
      | .error e => (.error e, ⟨some d⟩) := by
  simp only [perform, answer, Session.perform_some, Drawing.on_perform]
  cases g.stroke d h <;> rfl

lemma perform_setPixel {d : Display} {h : ContextHandle} {dc : DeviceContext}
    (hctx : d.context h = .ok dc) (pt : Point) (c : Color) :
    (Request.setPixel h pt c).perform ⟨some d⟩ =
      (.ok (.color (if (d.target dc).Contains pt.x.toInt pt.y.toInt
          then .ofIndex c.index else .invalid)),
        ⟨some (d.drawn h (fun p => p.put pt.x.toInt pt.y.toInt c.index) id)⟩) := by
  simp only [perform, Session.setPixel, Session.perform_some, on_writePixel, hctx, drawn_id]
  by_cases hon : (d.target dc).Contains pt.x.toInt pt.y.toInt
  · simp only [hon, decide_true, if_true]
  · simp only [hon, decide_false, if_false]

/-- An exchange through a live context, as a drawing that leaves the picture alone. -/
lemma answer_exchange {α : Type} {d : Display} {h : ContextHandle} {dc : DeviceContext}
    (hdc : d.contexts.get? h.code = some dc) (get : DeviceContext → α)
    (set : DeviceContext → DeviceContext) (reply : α → Reply) :
    answer ⟨some d⟩ (exchange h get set) reply
      = (.ok (reply (get dc)), ⟨some (d.drawn h id set)⟩) := by
  simp only [answer, Session.perform_some, on_exchange, context_eq_ok_iff.mpr hdc, drawn, paint_id]
  rfl

/-- A drawing through a live context is one change of its picture and of its registers, and the
change and the answer are the same on every display that looks the same. -/
lemma exists_drawn {r : Request} {d : Display} {h : ContextHandle} {dc : DeviceContext}
    (hr : r.through? = some h) (hdc : d.contexts.get? h.code = some dc) :
    ∃ answer f k, (∀ p, (f p).SameSize p) ∧ (∀ c, ∃ position, k c = { c with position }) ∧
      (¬ r.Moves → k = id) ∧
      ∀ d', d.SameView d' h r.source? →
        r.perform ⟨some d'⟩ = (answer, ⟨some (d'.drawn h f k)⟩) := by
  have hctx : d.context h = .ok dc := context_eq_ok_iff.mpr hdc
  cases r with
  | draw h₀ g =>
      cases hr
      have hstroke : ∀ d', d.SameView d' h g.source? → g.stroke d' h = g.stroke d h :=
        fun d' hview => Drawing.stroke_congr g hview.objects hview.context hview.source
      cases hg : g.stroke d h with
      | ok f =>
          refine ⟨.ok .done, f, g.settle, Drawing.sameSize_stroke hg, g.settle_eq, ?_, ?_⟩
          · intro hstay
            cases g with
            | lineTo b => exact absurd ⟨h, b, rfl⟩ hstay
            | _ => rfl
          · intro d' hview
            rw [perform_draw, hstroke d' hview, hg]
      | error e =>
          refine ⟨.error e, id, id, Pixmap.SameSize.refl, fun c => ⟨c.position, rfl⟩,
            fun _ => rfl, ?_⟩
          intro d' hview
          rw [perform_draw, hstroke d' hview, hg, drawn_nothing]
  | setPixel h₀ pt c =>
      cases hr
      refine ⟨.ok (.color (if (d.target dc).Contains pt.x.toInt pt.y.toInt
          then .ofIndex c.index else .invalid)), fun p => p.put pt.x.toInt pt.y.toInt c.index, id,
        fun p => Pixmap.sameSize_put p _ _ _, fun c => ⟨c.position, rfl⟩, fun _ => rfl, ?_⟩
      intro d' hview
      have hctx' : d'.context h = .ok dc := hview.context.trans hctx
      have htarget : d'.target dc = d.target dc := by
        have hsurface := hview.surface
        rw [surface_of_live hdc, surface_of_live (context_eq_ok_iff.mp hctx')] at hsurface
        exact Except.ok.inj hsurface
      rw [perform_setPixel hctx', htarget]
  | _ => cases hr

/-- **Drawing touches its canvas only.**  Whatever is drawn through a live context, with whatever
arguments, the session goes on with a display that differs in the pixels of the canvas of that
context at most and, for a line from the current position, in that position.

So two drawings **may change places** if they are on different canvases and neither reads the canvas
of the other: the answers to both and the session afterwards are the same in either order. -/
theorem confined_and_comm {r : Request} {d : Display} {h : ContextHandle} {dc : DeviceContext}
    (hr : r.through? = some h) (hdc : d.contexts.get? h.code = some dc) :
    (∃ d', (r.perform ⟨some d⟩).2 = ⟨some d'⟩ ∧ d.Confined d' h dc r.Moves) ∧
      ∀ r' h' dc', r'.through? = some h' → d.contexts.get? h'.code = some dc' →
        d.canvas? h ≠ d.canvas? h' →
        (∀ s ∈ r.source?, d.canvas? s ≠ d.canvas? h') →
        (∀ s ∈ r'.source?, d.canvas? s ≠ d.canvas? h) →
        ∃ a a' s, Session.run ⟨some d⟩ [r, r'] = ([a, a'], s) ∧
          Session.run ⟨some d⟩ [r', r] = ([a', a], s) := by
  obtain ⟨a, f, k, hf, hk, hmoves, hstep⟩ := exists_drawn hr hdc
  refine ⟨?_, ?_⟩
  · have hfirst := hstep d (SameView.refl d h _)
    exact ⟨d.drawn h f k, by rw [hfirst], confined_drawn hdc hf hk hmoves⟩
  · intro r' h' dc' hr' hdc' hne hsrc hsrc'
    obtain ⟨a', f', k', -, -, -, hstep'⟩ := exists_drawn hr' hdc'
    -- each of the two sees the same display before and after the other
    have hview : d.SameView (d.drawn h' f' k') h r.source? := sameView_drawn hdc' hne hsrc f' k'
    have hview' : d.SameView (d.drawn h f k) h' r'.source? :=
      sameView_drawn hdc hne.symm hsrc' f k
    refine ⟨a, a', ⟨some ((d.drawn h f k).drawn h' f' k')⟩, ?_, ?_⟩
    · simp only [Session.run, hstep d (SameView.refl d h _), hstep' _ hview']
    · simp only [Session.run, hstep' d (SameView.refl d h' _), hstep _ hview]
      rw [drawn_comm hdc hdc' hne]

/-- With a context on the screen and one in memory, a line on the screen and a transfer within the
memory context may change places. -/
theorem confined_and_comm_of_two :
    ∃ d dc dc', (Session.closed.run
        [.start .ample ⟨2, 1, 2, 1⟩, .openContext 7, .openMemoryContext .ample ⟨1⟩]).2 = ⟨some d⟩ ∧
      d.contexts.get? 1 = some dc ∧ d.contexts.get? 2 = some dc' ∧ d.canvas? ⟨1⟩ ≠ d.canvas? ⟨2⟩ ∧
      (∃ d', ((Request.draw ⟨1⟩ (.lineTo ⟨1, 0⟩)).perform ⟨some d⟩).2 = ⟨some d'⟩ ∧
        d.Confined d' ⟨1⟩ dc (Request.draw ⟨1⟩ (.lineTo ⟨1, 0⟩)).Moves) ∧
      ∃ a a' s,
        Session.run ⟨some d⟩ [.draw ⟨1⟩ (.lineTo ⟨1, 0⟩),
          .draw ⟨2⟩ (.bitTransfer ⟨0, 0, 2, 1⟩ ⟨2⟩ 1 0 .notSrcCopy)] = ([a, a'], s) ∧
        Session.run ⟨some d⟩ [.draw ⟨2⟩ (.bitTransfer ⟨0, 0, 2, 1⟩ ⟨2⟩ 1 0 .notSrcCopy),
          .draw ⟨1⟩ (.lineTo ⟨1, 0⟩)] = ([a', a], s) := by
  refine ⟨_, _, _, rfl, rfl, rfl, ?_, ?_, ?_⟩
  · exact fun heq => nomatch (show some Canvas.screen = some (Canvas.surface ⟨2⟩) from heq)
  · exact (confined_and_comm rfl rfl).1
  · refine (confined_and_comm rfl rfl).2 _ ⟨2⟩ _ rfl rfl ?_ ?_ ?_
    · exact fun heq => nomatch (show some Canvas.screen = some (Canvas.surface ⟨2⟩) from heq)
    · rintro s ⟨⟩
    · rintro s ⟨⟩ heq
      exact nomatch (show some (Canvas.surface ⟨2⟩) = some Canvas.screen from heq)

end Request

end Paintbox

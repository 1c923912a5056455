import Paintbox.Proofs.Display.Target
import Paintbox.Proofs.Pixmap.Plot

/-!
# A display that has been drawn on

Whatever is drawn through a context changes the picture of that context by some function, and the
context itself by another one that leaves its surface alone.  Such a change is seen on one canvas
only, and two of them on different canvases do not see each other.

* `Display.drawn` — a display with a picture and a context changed so.
* `Display.drawn_eq` — **the change as one record**.
* `Display.Confined` — what must be the same before and after a drawing; `Display.confined_drawn`.
* `Display.objects_drawn` — no object is touched.
* `Display.surface_drawn_of_ne`, `Display.source_drawn_of_ne` — what is found on other canvases.
* `Display.drawn_comm` — **changes on different canvases commute**.
-/

namespace Paintbox

namespace Display

/-- The display after the picture of a context has been changed by `f` and the context by `k`. -/
def drawn (d : Display) (h : ContextHandle) (f : Pixmap → Pixmap)
    (k : DeviceContext → DeviceContext) : Display :=
  (d.paint h f).mapContext h k

variable {d : Display} {h g : ContextHandle} {dc dc' : DeviceContext}

lemma drawn_id (d : Display) (h : ContextHandle) (f : Pixmap → Pixmap) :
    d.drawn h f id = d.paint h f := by
  rw [drawn, mapContext_id]

lemma drawn_nothing (d : Display) (h : ContextHandle) : d.drawn h id id = d := by
  rw [drawn_id, paint_id]

/-- A context with its surface, if it has one, changed by `f` and then all of it by `k`. -/
def touched (f : Pixmap → Pixmap) (k : DeviceContext → DeviceContext) (dc : DeviceContext) :
    DeviceContext :=
  k { dc with surface := dc.surface.map f }

lemma touched_of_screen (hmem : dc.isMemory = false) (f : Pixmap → Pixmap)
    (k : DeviceContext → DeviceContext) : touched f k dc = k dc := by
  have hnone := surface_eq_none hmem
  rw [touched, hnone, Option.map_none, ← hnone]

/-- The screen of a drawn display is the old one if the context has a surface of its own, and its
registry of contexts differs in one entry. -/
lemma drawn_eq (hdc : d.contexts.get? h.code = some dc) (f : Pixmap → Pixmap)
    (k : DeviceContext → DeviceContext) :
    d.drawn h f k = { d with
      screen := if dc.isMemory then d.screen else f d.screen
      contexts := d.contexts.modify h.code (touched f k) } := by
  cases hmem : dc.isMemory with
  | false =>
      have hk : d.contexts.modify h.code (touched f k) = d.contexts.modify h.code k :=
        Registry.modify_congr _ hdc (touched_of_screen hmem f k)
      rw [drawn, paint_screen hdc hmem, mapContext, hk]
      rfl
  | true =>
      rw [drawn, paint_memory hdc hmem, mapContext, mapContext, Registry.modify_modify]
      rfl

/-! ## The frame -/

lemma get?_drawn_self (hdc : d.contexts.get? h.code = some dc) (f : Pixmap → Pixmap)
    (k : DeviceContext → DeviceContext) :
    (d.drawn h f k).contexts.get? h.code = some (touched f k dc) := by
  rw [drawn_eq hdc, Registry.get?_modify_self, hdc, Option.map_some]

lemma get?_drawn_of_ne (hne : g ≠ h) (f : Pixmap → Pixmap) (k : DeviceContext → DeviceContext) :
    (d.drawn h f k).contexts.get? g.code = d.contexts.get? g.code := by
  have hcode : g.code ≠ h.code := fun heq => hne (code_inj.mp heq)
  rw [drawn, contexts_mapContext, Registry.get?_modify_of_ne _ hcode, get?_paint_of_ne _ _ _ hne]

/-- Between `d` and `d'` nothing has changed but the pixels of the picture that the context `dc`
under `h` draws on and, if it `moves`, the current position of that context. -/
structure Confined (d d' : Display) (h : ContextHandle) (dc : DeviceContext) (moves : Prop) :
    Prop where
  settings : d'.settings = d.settings
  objects : d'.objects = d.objects
  /-- The handle counter, the number of live contexts and the capacity. -/
  books : d'.contexts.next = d.contexts.next ∧ d'.contexts.live = d.contexts.live ∧
    d'.contexts.capacity = d.contexts.capacity ∧ d'.contexts.table = d.contexts.table
  /-- Every other context, with its registers, its selection and its surface. -/
  others : ∀ g, g ≠ h → d'.contexts.get? g.code = d.contexts.get? g.code
  screen : dc.isMemory = true → d'.screen = d.screen
  screen_size : d'.screen.SameSize d.screen
  /-- The context itself: a surface of the same size or still none, and the same registers. -/
  self : ∃ surface position, d'.contexts.get? h.code = some { dc with surface, position } ∧
    Option.Rel Pixmap.SameSize surface dc.surface ∧ (¬ moves → position = dc.position)

lemma rel_sameSize_map {f : Pixmap → Pixmap} (hf : ∀ p, (f p).SameSize p) (o : Option Pixmap) :
    Option.Rel Pixmap.SameSize (o.map f) o := by
  cases o with
  | none => exact .none
  | some p => exact .some (hf p)

/-- A change that keeps sizes and moves the current position at most is confined. -/
lemma confined_drawn (hdc : d.contexts.get? h.code = some dc) {f : Pixmap → Pixmap}
    (hf : ∀ p, (f p).SameSize p) {k : DeviceContext → DeviceContext}
    (hk : ∀ c, ∃ position, k c = { c with position }) {moves : Prop}
    (hmoves : ¬ moves → k = id) : d.Confined (d.drawn h f k) h dc moves where
  settings := by rw [drawn_eq hdc]
  objects := by rw [drawn_eq hdc]
  books := by simp [drawn_eq hdc]
  others := fun g hne => get?_drawn_of_ne hne f k
  screen := by
    intro hmem
    rw [drawn_eq hdc, if_pos hmem]
  screen_size := by
    rw [drawn_eq hdc]
    simp only
    split_ifs with hmem
    · exact Pixmap.SameSize.refl d.screen
    · exact hf d.screen
  self := by
    obtain ⟨position, hpos⟩ := hk { dc with surface := dc.surface.map f }
    refine ⟨dc.surface.map f, position, ?_, rel_sameSize_map hf dc.surface, ?_⟩
    · rw [get?_drawn_self hdc, touched, hpos]
    · intro hstay
      rw [hmoves hstay] at hpos
      exact (congrArg DeviceContext.position hpos).symm

/-- Drawing has nothing to do with objects. -/
lemma objects_drawn (d : Display) (h : ContextHandle) (f : Pixmap → Pixmap)
    (k : DeviceContext → DeviceContext) : (d.drawn h f k).objects = d.objects := by
  rcases paint_cases d h f with ⟨p, hp⟩ | ⟨k', hk'⟩
  · rw [drawn, hp, mapContext]
  · rw [drawn, hk', mapContext, mapContext]

/-! ## Other canvases -/

lemma context_drawn_of_ne (hne : g ≠ h) (f : Pixmap → Pixmap)
    (k : DeviceContext → DeviceContext) : (d.drawn h f k).context g = d.context g := by
  simp only [context, Registry.resolve, get?_drawn_of_ne hne]

/-- What other canvases hold stays. -/
lemma surface_drawn_of_ne (hdc : d.contexts.get? h.code = some dc)
    (hne : d.canvas? g ≠ d.canvas? h) (f : Pixmap → Pixmap) (k : DeviceContext → DeviceContext) :
    (d.drawn h f k).surface g = d.surface g := by
  have hgh : g ≠ h := ne_of_canvas?_ne hne
  rw [surface, surface, context_drawn_of_ne hgh]
  cases hctx : d.context g with
  | error e => rfl
  | ok dg =>
      have hdg := context_eq_ok_iff.mp hctx
      simp only [Except.map, target]
      cases hgmem : dg.isMemory with
      | true =>
          obtain ⟨p, hp⟩ := Option.isSome_iff_exists.mp hgmem
          simp [hp]
      | false =>
          -- `g` draws on the screen, so that `h` does not
          have hmem : dc.isMemory = true := by
            by_contra hscreen
            rw [Bool.not_eq_true] at hscreen
            rw [canvas?_screen hdg hgmem, canvas?_screen hdc hscreen] at hne
            exact hne rfl
          rw [drawn_eq hdc, if_pos hmem]

lemma source_drawn_of_ne (hdc : d.contexts.get? h.code = some dc)
    (hne : d.canvas? g ≠ d.canvas? h) (f : Pixmap → Pixmap) (k : DeviceContext → DeviceContext) :
    (d.drawn h f k).source g = d.source g := by
  rw [source, source, surface_drawn_of_ne hdc hne]

/-- Changes on different canvases commute. -/
lemma drawn_comm (hdc : d.contexts.get? h.code = some dc)
    (hdc' : d.contexts.get? g.code = some dc') (hne : d.canvas? h ≠ d.canvas? g)
    (f f' : Pixmap → Pixmap) (k k' : DeviceContext → DeviceContext) :
    (d.drawn h f k).drawn g f' k' = (d.drawn g f' k').drawn h f k := by
  have hhg : h ≠ g := ne_of_canvas?_ne hne
  have hcode : h.code ≠ g.code := fun heq => hhg (code_inj.mp heq)
  have hlive : (d.drawn h f k).contexts.get? g.code = some dc' := by
    rw [get?_drawn_of_ne hhg.symm, hdc']
  have hlive' : (d.drawn g f' k').contexts.get? h.code = some dc := by
    rw [get?_drawn_of_ne hhg, hdc]
  have hscreens : ¬ (dc.isMemory = false ∧ dc'.isMemory = false) := by
    rintro ⟨hmem, hmem'⟩
    rw [canvas?_screen hdc hmem, canvas?_screen hdc' hmem'] at hne
    exact hne rfl
  rw [drawn_eq hlive, drawn_eq hlive', drawn_eq hdc, drawn_eq hdc']
  congr 1
  · cases hmem : dc.isMemory <;> cases hmem' : dc'.isMemory
    · exact absurd ⟨hmem, hmem'⟩ hscreens
    · rfl
    · rfl
    · rfl
  · exact Registry.modify_comm _ hcode _ _

end Display

end Paintbox

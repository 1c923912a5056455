import Paintbox.Proofs.Display.Action

/-!
# The picture that a context draws on

Several contexts may share the screen; a memory context has a picture to itself.  So what a context
draws on is not told by its handle but by its canvas, and two contexts get in each other's way only
if they have the same one.

* `Canvas`, `Display.canvas?` — the picture under a handle, by name.
* `Display.paint_screen`, `Display.paint_memory` — the two things that painting can be.
* `Display.paint_congr` — painting depends only on what becomes of the picture that is there.
* `Display.target_paint` and its companions — what is found on a display that has been painted on.
-/

namespace Paintbox

/-- A picture that contexts draw on: the screen, or the private surface of the memory context under
a handle. -/
inductive Canvas where
  | screen
  | surface (h : ContextHandle)
deriving DecidableEq

namespace Display

/-- The canvas of the context under a handle; a dead handle has none. -/
def canvas? (d : Display) (h : ContextHandle) : Option Canvas :=
  (d.contexts.get? h.code).map fun dc => if dc.isMemory then .surface h else .screen

lemma code_inj {h g : ContextHandle} : h.code = g.code ↔ h = g := by
  cases h
  cases g
  simp

variable {d : Display} {h g : ContextHandle} {dc dc' : DeviceContext}

lemma canvas?_screen (hdc : d.contexts.get? h.code = some dc) (hmem : dc.isMemory = false) :
    d.canvas? h = some .screen := by
  simp [canvas?, hdc, hmem]

/-- A handle on a canvas of its own is not the handle of another canvas. -/
lemma ne_of_canvas?_ne (hne : d.canvas? h ≠ d.canvas? g) : h ≠ g := by
  rintro rfl
  exact hne rfl

/-! ## Changing a context -/

section MapContext

variable (d h) (f : DeviceContext → DeviceContext)

@[simp] lemma contexts_mapContext :
    (d.mapContext h f).contexts = d.contexts.modify h.code f := rfl

lemma mapContext_id : d.mapContext h id = d := by
  rw [mapContext, Registry.modify_id]

end MapContext

/-! ## Painting -/

lemma paint_dead (hdead : d.contexts.get? h.code = none) (f : Pixmap → Pixmap) :
    d.paint h f = d := by
  simp [paint, hdead]

lemma paint_screen (hdc : d.contexts.get? h.code = some dc) (hmem : dc.isMemory = false)
    (f : Pixmap → Pixmap) : d.paint h f = { d with screen := f d.screen } := by
  simp [paint, hdc, hmem]

lemma paint_memory (hdc : d.contexts.get? h.code = some dc) (hmem : dc.isMemory = true)
    (f : Pixmap → Pixmap) :
    d.paint h f = d.mapContext h fun dc => { dc with surface := dc.surface.map f } := by
  simp [paint, hdc, hmem]

lemma surface_eq_none (hmem : dc.isMemory = false) : dc.surface = none := by
  simpa [DeviceContext.isMemory] using hmem

lemma target_screen (hmem : dc.isMemory = false) : d.target dc = d.screen := by
  rw [target, surface_eq_none hmem]
  rfl

lemma surface_eq_target (hmem : dc.isMemory = true) : dc.surface = some (d.target dc) := by
  obtain ⟨p, hp⟩ := Option.isSome_iff_exists.mp hmem
  rw [target, hp]
  rfl

/-- Painting depends only on what becomes of the picture that is there. -/
lemma paint_congr (hdc : d.contexts.get? h.code = some dc) {f f' : Pixmap → Pixmap}
    (hf : f (d.target dc) = f' (d.target dc)) : d.paint h f = d.paint h f' := by
  cases hmem : dc.isMemory with
  | false =>
      rw [target_screen hmem] at hf
      rw [paint_screen hdc hmem, paint_screen hdc hmem, hf]
  | true =>
      rw [paint_memory hdc hmem, paint_memory hdc hmem, mapContext, mapContext]
      congr 1
      refine Registry.modify_congr _ hdc ?_
      rw [surface_eq_target (d := d) hmem]
      simp [hf]

lemma paint_id (d : Display) (h : ContextHandle) : d.paint h id = d := by
  cases hdc : d.contexts.get? h.code with
  | none => exact paint_dead hdc id
  | some dc =>
      cases hmem : dc.isMemory with
      | false => rw [paint_screen hdc hmem]; rfl
      | true =>
          rw [paint_memory hdc hmem]
          simp only [Option.map_id_fun, id_eq]
          exact mapContext_id d h

/-- A change that leaves the picture as it is leaves the display as it is. -/
lemma paint_of_eq (hdc : d.contexts.get? h.code = some dc) {f : Pixmap → Pixmap}
    (hf : f (d.target dc) = d.target dc) : d.paint h f = d := by
  have hid : d.paint h f = d.paint h id := paint_congr hdc hf
  rw [hid, paint_id]

/-! ## What painting leaves alone -/

section Paint

variable (d h) (f : Pixmap → Pixmap)

/-- Whatever is painted on, a display with the same parts but for its contexts and its screen is
left. -/
lemma paint_cases : (∃ p, d.paint h f = { d with screen := p }) ∨
    ∃ k, d.paint h f = d.mapContext h k := by
  cases hdc : d.contexts.get? h.code with
  | none => exact Or.inl ⟨d.screen, paint_dead hdc f⟩
  | some dc =>
      cases hmem : dc.isMemory with
      | false => exact Or.inl ⟨f d.screen, paint_screen hdc hmem f⟩
      | true => exact Or.inr ⟨_, paint_memory hdc hmem f⟩

/-- A context under another handle is found as it was. -/
lemma get?_paint_of_ne (hne : g ≠ h) :
    (d.paint h f).contexts.get? g.code = d.contexts.get? g.code := by
  have hcode : g.code ≠ h.code := fun heq => hne (code_inj.mp heq)
  rcases paint_cases d h f with ⟨p, hp⟩ | ⟨k, hk⟩
  · rw [hp]
  · rw [hk, contexts_mapContext, Registry.get?_modify_of_ne _ hcode]

end Paint

/-- The context that is painted through keeps its registers. -/
lemma get?_paint_self (hdc : d.contexts.get? h.code = some dc) (f : Pixmap → Pixmap) :
    (d.paint h f).contexts.get? h.code = some { dc with surface := dc.surface.map f } := by
  cases hmem : dc.isMemory with
  | false =>
      have hnone := surface_eq_none hmem
      rw [paint_screen hdc hmem]
      simp only [hdc, hnone, Option.map_none]
      rw [← hnone]
  | true =>
      rw [paint_memory hdc hmem, contexts_mapContext, Registry.get?_modify_self, hdc]
      rfl

/-- Painting twice is painting once. -/
lemma paint_paint (d : Display) (h : ContextHandle) (f g : Pixmap → Pixmap) :
    (d.paint h f).paint h g = d.paint h (g ∘ f) := by
  cases hdc : d.contexts.get? h.code with
  | none => rw [paint_dead hdc, paint_dead hdc, paint_dead hdc]
  | some dc =>
      have hpainted := get?_paint_self hdc f
      cases hmem : dc.isMemory with
      | false =>
          rw [paint_screen hdc hmem, paint_screen hdc hmem,
            paint_screen (d := { d with screen := f d.screen }) hdc hmem]
          rfl
      | true =>
          have hmem' : DeviceContext.isMemory { dc with surface := dc.surface.map f } = true := by
            rwa [DeviceContext.isMemory, Option.isSome_map]
          rw [paint_memory hpainted hmem', paint_memory hdc hmem, paint_memory hdc hmem, mapContext,
            mapContext, mapContext, Registry.modify_modify]
          simp only [Function.comp_def, Option.map_map]

/-- The screen changes only if it is the canvas. -/
lemma screen_paint (hdc : d.contexts.get? h.code = some dc) (f : Pixmap → Pixmap) :
    (d.paint h f).screen = if dc.isMemory then d.screen else f d.screen := by
  cases hmem : dc.isMemory with
  | false => rw [paint_screen hdc hmem]; rfl
  | true => rw [paint_memory hdc hmem]; rfl

/-- On its canvas a context finds what it painted. -/
lemma target_paint (hdc : d.contexts.get? h.code = some dc) (f : Pixmap → Pixmap) :
    (d.paint h f).target { dc with surface := dc.surface.map f } = f (d.target dc) := by
  cases hmem : dc.isMemory with
  | false =>
      simp [target, surface_eq_none hmem, screen_paint hdc, hmem]
  | true =>
      obtain ⟨p, hp⟩ := Option.isSome_iff_exists.mp hmem
      simp [target, hp]

lemma surface_paint_self (hdc : d.contexts.get? h.code = some dc) (f : Pixmap → Pixmap) :
    (d.paint h f).surface h = .ok (f (d.target dc)) := by
  rw [surface_of_live (get?_paint_self hdc f), target_paint hdc]

end Display

end Paintbox

import Paintbox.Proofs.Registry.Modify
import Paintbox.Session

/-!
# What an action does to a display

An action is a function from a display to an answer and a display.  Here it is applied, and what
comes out of the two primitives, of sequencing and of the building blocks of all other actions is
written down once, so that no later statement opens an action again.

* `DisplayAction.on` — an action applied to a display.
* `on_ask`, `on_pure`, `on_bind`, … — what asks and answers, and sequences.
* `Display.on_register`, `Display.on_exchange`, `Display.on_addContext`, … — the building blocks.
* `Session.perform_some` — a session with a display does just that.
-/

namespace Paintbox

namespace DisplayAction

variable {α β : Type}

/-- What an action answers on a display, and the display that it leaves. -/
def on (a : DisplayAction α) (d : Display) : Except Error α × Display := a.run.run d

@[simp] lemma on_ask (question : Display → Except Error α) (d : Display) :
    (ask question).on d = (question d, d) := rfl

@[simp] lemma on_pure (x : α) (d : Display) : (pure x : DisplayAction α).on d = (.ok x, d) := rfl

/-- An action that fails ends the sequence, and the display is the one it left. -/
lemma on_bind (a : DisplayAction α) (f : α → DisplayAction β) (d : Display) :
    (a >>= f).on d = match a.on d with
      | (.ok x, d') => (f x).on d'
      | (.error e, d') => (.error e, d') := by
  show ((a >>= f).run.run d) = _
  simp only [ExceptT.run_bind, StateT.run_bind, on]
  rcases h : a.run.run d with ⟨answer, d'⟩
  cases answer <;> rfl

lemma on_bind_ok {a : DisplayAction α} {d d' : Display} {x : α} (h : a.on d = (.ok x, d'))
    (f : α → DisplayAction β) : (a >>= f).on d = (f x).on d' := by
  rw [on_bind, h]

lemma on_bind_error {a : DisplayAction α} {d d' : Display} {e : Error}
    (h : a.on d = (.error e, d')) (f : α → DisplayAction β) : (a >>= f).on d = (.error e, d') := by
  rw [on_bind, h]

end DisplayAction

/-- A handle is resolved to what is found under it. -/
lemma Registry.resolve_eq_ok_iff {α : Type} {r : Registry α} {h : UInt16} {a : α} :
    r.resolve h = .ok a ↔ r.get? h = some a := by
  rw [resolve]
  split_ifs with hz
  · simp [hz, get?_zero]
  · cases r.get? h <;> simp

lemma Session.perform_some {α : Type} (d : Display) (a : DisplayAction α) :
    Session.perform ⟨some d⟩ a = ((a.on d).1, ⟨some (a.on d).2⟩) := rfl

namespace Display

open DisplayAction

variable {α : Type}

/-! ## What handles denote -/

lemma context_eq_ok_iff {d : Display} {h : ContextHandle} {dc : DeviceContext} :
    d.context h = .ok dc ↔ d.contexts.get? h.code = some dc :=
  Registry.resolve_eq_ok_iff

lemma object_eq_ok_iff {d : Display} {o : ObjectHandle} {object : GraphicsObject} :
    d.object o = .ok object ↔ d.objects.get? o.code = some object :=
  Registry.resolve_eq_ok_iff

/-- The surface of a live context is its target. -/
lemma surface_of_live {d : Display} {h : ContextHandle} {dc : DeviceContext}
    (hdc : d.contexts.get? h.code = some dc) : d.surface h = .ok (d.target dc) := by
  rw [surface, context_eq_ok_iff.mpr hdc]
  rfl

/-- The null handle is not live. -/
lemma not_isNull_of_live {d : Display} {h : ContextHandle} {dc : DeviceContext}
    (hdc : d.contexts.get? h.code = some dc) : ¬ h.isNull := by
  intro hzero
  rw [eq_of_beq hzero, Registry.get?_zero] at hdc
  cases hdc

/-- A live handle stands for the picture of its context as a source. -/
lemma source_of_live {d : Display} {h : ContextHandle} {dc : DeviceContext}
    (hdc : d.contexts.get? h.code = some dc) : d.source h = .ok (some (d.target dc)) := by
  rw [source, if_neg (not_isNull_of_live hdc), surface_of_live hdc]
  rfl

/-- As a reference, too. -/
lemma referenceSize_of_live {d : Display} {h : ContextHandle} {dc : DeviceContext}
    (hdc : d.contexts.get? h.code = some dc) :
    d.referenceSize h = .ok ((d.target dc).width, (d.target dc).height) := by
  rw [referenceSize, if_neg (not_isNull_of_live hdc), surface_of_live hdc]
  rfl

/-! ## Registers -/

lemma on_register (h : ContextHandle) (get : DeviceContext → α) (d : Display) :
    (register h get).on d = ((d.context h).map get, d) := rfl

lemma on_exchange (h : ContextHandle) (get : DeviceContext → α)
    (set : DeviceContext → DeviceContext) (d : Display) :
    (exchange h get set).on d = match d.context h with
      | .ok dc => (.ok (get dc), d.mapContext h set)
      | .error e => (.error e, d) := by
  rw [exchange, on_bind, on_register]
  cases d.context h <;> rfl

/-- A selection needs a live context and a live object, and is an exchange then. -/
lemma on_selectObject (h : ContextHandle) (o : ObjectHandle) (d : Display) :
    (selectObject h o).on d = match d.context h, d.object o with
      | .error e, _ => (.error e, d)
      | .ok _, .error e => (.error e, d)
      | .ok dc, .ok object => (.ok (dc.selection.get object.kind), d.mapContext h fun dc =>
          { dc with selection := dc.selection.set object.kind o }) := by
  simp only [selectObject, on_bind, on_ask, on_exchange]
  cases hctx : d.context h with
  | error e => rfl
  | ok dc =>
      cases hobject : d.object o with
      | error e => simp only [hobject, Except.map]
      | ok object => simp only [hobject, hctx, Except.map]

/-! ## Entering and leaving the registries -/

lemma on_addContext (dc : DeviceContext) (d : Display) :
    (addContext dc).on d = ((d.contexts.insert dc).1.map ContextHandle.mk,
      { d with contexts := (d.contexts.insert dc).2 }) := rfl

/-- A context that was opened is found under the handle that was answered. -/
lemma get?_of_addContext {dc : DeviceContext} {d d' : Display} {h : ContextHandle}
    (hopen : (addContext dc).on d = (.ok h, d')) : d'.contexts.get? h.code = some dc := by
  rw [on_addContext] at hopen
  rcases hins : d.contexts.insert dc with ⟨answer, contexts⟩
  rw [hins] at hopen
  cases answer with
  | error e => cases hopen
  | ok code =>
      cases hopen
      exact Registry.get?_of_insert hins

lemma on_closeContext (w : UInt16) (h : ContextHandle) (d : Display) :
    (closeContext w h).on d = ((d.contexts.release h.code).1.map fun _ => (),
      { d with contexts := (d.contexts.release h.code).2 }) := rfl

lemma on_addObject (object : GraphicsObject) (d : Display) :
    (addObject object).on d = ((d.objects.insert object).1.map ObjectHandle.mk,
      { d with objects := (d.objects.insert object).2 }) := rfl

lemma on_deleteObject (o : ObjectHandle) (d : Display) :
    (deleteObject o).on d = ((d.objects.release o.code).1.map fun _ => (),
      { d with objects := (d.objects.release o.code).2 }) := rfl

/-! ## Drawing -/

lemma on_draw (h : ContextHandle) (f : Inks → Pixmap → Pixmap) (d : Display) :
    (draw h f).on d = match d.context h with
      | .ok dc => (.ok (), d.paint h (f (d.inks dc)))
      | .error e => (.error e, d) := by
  rw [draw, on_bind, on_ask]
  cases d.context h <;> rfl

lemma on_drawWith (h : ContextHandle) (brush : ObjectHandle) (f : UInt8 → Pixmap → Pixmap)
    (d : Display) :
    (drawWith h brush f).on d = match d.brushInk brush, d.context h with
      | .error e, _ => (.error e, d)
      | .ok _, .error e => (.error e, d)
      | .ok ink, .ok _ => (.ok (), d.paint h fun p => ink.elim p fun v => f v p) := by
  rw [drawWith, on_bind, on_ask]
  cases d.brushInk brush with
  | error e => rfl
  | ok ink =>
      show (draw h _).on d = _
      rw [on_draw]
      cases d.context h with
      | error e => rfl
      | ok dc => cases ink <;> rfl

lemma on_writePixel (h : ContextHandle) (pt : Point) (c : Color) (d : Display) :
    (writePixel h pt c).on d = match d.context h with
      | .ok dc => (.ok (decide ((d.target dc).Contains pt.x.toInt pt.y.toInt)),
          d.paint h fun p => p.put pt.x.toInt pt.y.toInt c.index)
      | .error e => (.error e, d) := by
  rw [writePixel, on_bind, on_ask]
  cases hctx : d.context h with
  | error e => simp [surface, hctx, Except.map]
  | ok dc =>
      rw [surface_of_live (context_eq_ok_iff.mp hctx)]
      simp only [Except.map]
      rw [on_bind, on_draw, hctx]
      rfl

end Display

end Paintbox

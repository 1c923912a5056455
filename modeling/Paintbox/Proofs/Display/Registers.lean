import Paintbox.Proofs.Display.Sound
import Paintbox.Scene

/-!
# The registers of a context

A context has registers and a picture to draw on.  The registers are changed by the few actions that
set them through its own handle, one register each, and by nothing else: not by what is done through
other handles, even as contexts come and go around it, nor by drawing, nor by what becomes of the
objects that are selected.

* `Setting`, `Setting.apply` — one register with what it is set to.
* `Display.HasRegisters` — the context under a handle has certain registers, whatever its picture.
* `DisplayAction.Ensures` — an action keeps a property of displays and answers as promised; closed
  under sequencing.
* `Display.spares_addContext`, `Display.spares_perform`, … — **what is done elsewhere leaves the
  registers of a context alone**, the demo scene included.
* `Display.HasRegisters.set` — what a setting leaves.
-/

namespace Paintbox

/-! ## Settings -/

/-- A register of a context with the value that it is set to. -/
inductive Setting where
  | textColor (c : Color)
  | backgroundColor (c : Color)
  | backgroundMode (m : BackgroundMode)
  | position (pt : Point)
  | selection (kind : ObjectKind) (o : ObjectHandle)

namespace Setting

def apply : Setting → DeviceContext → DeviceContext
  | textColor c => fun dc => { dc with textColor := c }
  | backgroundColor c => fun dc => { dc with backgroundColor := c }
  | backgroundMode m => fun dc => { dc with backgroundMode := m }
  | position pt => fun dc => { dc with position := pt }
  | selection kind o => fun dc => { dc with selection := dc.selection.set kind o }

/-- To set a register one does not look at the picture. -/
lemma apply_onSurface (w : Setting) (dc : DeviceContext) (surface : Option Pixmap) :
    w.apply { dc with surface := surface } = { w.apply dc with surface := surface } := by
  cases w <;> rfl

end Setting

/-! ## Actions that keep and promise -/

namespace DisplayAction

variable {α β : Type} {I : Display → Prop} {P : α → Prop} {Q : β → Prop}

/-- An action keeps a property of displays, and what it answers has a property, too. -/
def Ensures (I : Display → Prop) (P : α → Prop) (a : DisplayAction α) : Prop :=
  ∀ d, I d → I (a.on d).2 ∧ ∀ x, (a.on d).1 = .ok x → P x

lemma Keeps.ensures {a : DisplayAction α} (ha : Keeps I a) : Ensures I (fun _ => True) a :=
  fun d hd => ⟨ha d hd, fun _ _ => trivial⟩

lemma Ensures.keeps {a : DisplayAction α} (ha : Ensures I P a) : Keeps I a :=
  fun d hd => (ha d hd).1

lemma Ensures.pure {x : α} (hx : P x) : Ensures I P (Pure.pure x) := by
  intro d hd
  refine ⟨hd, fun y hy => ?_⟩
  cases hy
  exact hx

/-- What follows an action may rely on its promise. -/
lemma Ensures.bind {a : DisplayAction α} {f : α → DisplayAction β} (ha : Ensures I P a)
    (hf : ∀ x, P x → Ensures I Q (f x)) : Ensures I Q (a >>= f) := by
  intro d hd
  obtain ⟨hkept, hpromise⟩ := ha d hd
  rw [on_bind]
  rcases hrun : a.on d with ⟨_ | x, d'⟩
  · rw [hrun] at hkept
    exact ⟨hkept, fun _ hy => nomatch hy⟩
  · rw [hrun] at hkept hpromise
    exact hf x (hpromise x rfl) d' hkept

lemma Keeps.bind_of {a : DisplayAction α} {f : α → DisplayAction β} (ha : Ensures I P a)
    (hf : ∀ x, P x → Keeps I (f x)) : Keeps I (a >>= f) :=
  (ha.bind fun x hx => (hf x hx).ensures).keeps

end DisplayAction

/-! ## What leaves registers alone -/

namespace Display

open DisplayAction

/-- The context under the handle is live and has the registers of `dc`, on whatever surface. -/
def HasRegisters (h : ContextHandle) (dc : DeviceContext) (d : Display) : Prop :=
  ∃ surface, d.contexts.get? h.code = some { dc with surface := surface }

variable {α : Type} {h g : ContextHandle} {dc : DeviceContext} {d : Display}

lemma HasRegisters.of_contexts (hd : d.HasRegisters h dc) {d' : Display}
    (hsame : d'.contexts = d.contexts) : d'.HasRegisters h dc := by
  obtain ⟨surface, hlive⟩ := hd
  exact ⟨surface, by rw [hsame, hlive]⟩

/-- A register that is set is the only one that changes. -/
lemma HasRegisters.set (hd : d.HasRegisters h dc) (w : Setting) :
    (d.mapContext h w.apply).HasRegisters h (w.apply dc) := by
  obtain ⟨surface, hlive⟩ := hd
  refine ⟨surface, ?_⟩
  rw [contexts_mapContext, Registry.get?_modify_self, hlive, Option.map_some, w.apply_onSurface]

lemma HasRegisters.mapContext_of_ne (hd : d.HasRegisters h dc) (hne : g ≠ h)
    (k : DeviceContext → DeviceContext) : (d.mapContext g k).HasRegisters h dc := by
  obtain ⟨surface, hlive⟩ := hd
  have hcode : h.code ≠ g.code := fun heq => hne (code_inj.mp heq).symm
  exact ⟨surface, by rw [contexts_mapContext, Registry.get?_modify_of_ne _ hcode, hlive]⟩

/-- Painting is not seen in the registers of any context. -/
lemma HasRegisters.paint (hd : d.HasRegisters h dc) (g : ContextHandle) (f : Pixmap → Pixmap) :
    (d.paint g f).HasRegisters h dc := by
  obtain ⟨surface, hlive⟩ := hd
  by_cases hgh : h = g
  · subst hgh
    exact ⟨surface.map f, get?_paint_self hlive f⟩
  · exact ⟨surface, by rw [get?_paint_of_ne d g f hgh, hlive]⟩

variable (h dc)

lemma spares_addContext (new : DeviceContext) :
    Ensures (HasRegisters h dc) (· ≠ h) (addContext new) := by
  rintro d ⟨surface, hlive⟩
  obtain ⟨hstays, hother⟩ := Registry.insert_of_live hlive new
  rw [on_addContext]
  refine ⟨⟨surface, hstays⟩, fun g hg => ?_⟩
  obtain ⟨code, hcode, rfl⟩ := Drawing.of_map_eq_ok hg
  rintro rfl
  exact hother code hcode rfl

lemma spares_openMemoryContext (heap : Heap) (reference : ContextHandle) :
    Ensures (HasRegisters h dc) (· ≠ h) (openMemoryContext heap reference) :=
  (Keeps.ask _).ensures.bind fun _ _ => spares_addContext h dc _

lemma spares_addObject (object : GraphicsObject) :
    Keeps (HasRegisters h dc) (addObject object) :=
  fun _ hd => hd.of_contexts rfl

lemma spares_createBitmap (heap : Heap) (width height : Int16) (planes bpp : UInt8)
    (initial : Option ByteArray) :
    Keeps (HasRegisters h dc) (createBitmap heap width height planes bpp initial) :=
  .bind (.ask _) fun _ => spares_addObject h dc _

lemma spares_deleteObject (o : ObjectHandle) : Keeps (HasRegisters h dc) (deleteObject o) :=
  fun _ hd => hd.of_contexts rfl

lemma spares_setBitmapBits (o : ObjectHandle) (bytes : ByteArray) :
    Keeps (HasRegisters h dc) (setBitmapBits o bytes) :=
  .bind (.ask _) fun count => .bind (fun _ hd => hd.of_contexts rfl) fun _ => .pure count

lemma spares_writePixel (g : ContextHandle) (pt : Point) (c : Color) :
    Keeps (HasRegisters h dc) (writePixel g pt c) := by
  intro d hd
  rw [on_writePixel]
  cases d.context g with
  | error e => exact hd
  | ok dg => exact hd.paint g _

/-- Every drawing spares every context, but for the line from the current position, which moves
that. -/
lemma spares_perform (drawing : Drawing) (g : ContextHandle)
    (hstays : g = h → drawing.settle = id) :
    Keeps (HasRegisters h dc) (drawing.perform g) := by
  intro d hd
  rw [Drawing.on_perform]
  cases drawing.stroke d g with
  | error e => exact hd
  | ok f =>
      show HasRegisters h dc (d.drawn g f drawing.settle)
      by_cases hgh : g = h
      · rw [hstays hgh, drawn_id]
        exact hd.paint g f
      · exact (hd.paint g f).mapContext_of_ne hgh _

variable {h}

lemma spares_closeContext (hne : g ≠ h) (w : UInt16) :
    Keeps (HasRegisters h dc) (closeContext w g) := by
  rintro d ⟨surface, hlive⟩
  have hcode : h.code ≠ g.code := fun heq => hne (code_inj.mp heq).symm
  rw [on_closeContext]
  refine ⟨surface, ?_⟩
  show (d.contexts.release g.code).2.get? h.code = _
  rw [Registry.get?_release, if_neg hcode, hlive]

lemma spares_exchange (hne : g ≠ h) (get : DeviceContext → α)
    (set : DeviceContext → DeviceContext) : Keeps (HasRegisters h dc) (exchange g get set) := by
  intro d hd
  rw [on_exchange]
  cases d.context g with
  | error e => exact hd
  | ok dg => exact hd.mapContext_of_ne hne set

lemma spares_selectObject (hne : g ≠ h) (o : ObjectHandle) :
    Keeps (HasRegisters h dc) (selectObject g o) :=
  .bind (.ask _) fun _ => .bind (.ask _) fun _ => spares_exchange dc hne _ _

/-- The context that is marked as painting is a new one. -/
lemma spares_beginPaint (w : UInt16) : Keeps (HasRegisters h dc) (beginPaint w) :=
  .bind_of (spares_addContext h dc _) fun _ hne =>
    .bind (spares_exchange dc hne _ _) fun _ => .pure _

/-! ## Registers of new contexts -/

variable {dc}

lemma hasRegisters_of_openMemoryContext {heap : Heap} {reference : ContextHandle} {d' : Display}
    (hopen : (openMemoryContext heap reference).on d = (.ok h, d')) :
    d'.HasRegisters h (.fresh 0) := by
  rw [openMemoryContext, on_bind, on_ask] at hopen
  split at hopen
  · rename_i surface _ _
    exact ⟨some surface, get?_of_addContext hopen⟩
  · cases hopen

lemma hasRegisters_of_beginPaint {w : UInt16} {session : PaintSession} {d' : Display}
    (hopen : (beginPaint w).on d = (.ok session, d')) :
    d'.HasRegisters session.context { DeviceContext.fresh w with painting := true } := by
  rw [beginPaint, on_bind] at hopen
  rcases hrun : (openContext w).on d with ⟨_ | g, d₁⟩
  · rw [hrun] at hopen
    cases hopen
  · have hfound : d₁.contexts.get? g.code = some (.fresh w) := get?_of_addContext hrun
    simp only [hrun, on_bind, on_exchange, context_eq_ok_iff.mpr hfound, on_pure] at hopen
    cases hopen
    refine ⟨none, ?_⟩
    rw [contexts_mapContext, Registry.get?_modify_self, hfound]
    rfl

end Display

/-! ## The demo scene -/

namespace Scene

open DisplayAction Display

variable (h : ContextHandle) (dc : DeviceContext)

lemma spares_checkerboard (heap : Heap) (reference : ContextHandle) :
    Ensures (HasRegisters h dc) (· ≠ h) (checkerboard heap reference) :=
  .bind (spares_openMemoryContext h dc heap reference) fun tiles hne =>
  .bind (spares_perform h dc (.patternTransfer _ _) tiles fun _ => rfl).ensures fun _ _ =>
  .bind (spares_perform h dc (.patternTransfer _ _) tiles fun _ => rfl).ensures fun _ _ =>
  .bind (spares_perform h dc (.patternTransfer _ _) tiles fun _ => rfl).ensures fun _ _ =>
    .pure hne

/-- The scene sets registers of contexts that it has opened itself. -/
lemma spares_render (heap : Heap) : Keeps (HasRegisters h dc) (render heap) :=
  .bind (.ask _) fun _ =>
  .bind_of (spares_addContext h dc (.fresh 1)) fun own hown =>
  .bind (spares_addObject h dc (.brush ⟨.solid, background⟩)) fun ground =>
  .bind (spares_perform h dc (.fillRect _ ground) own fun _ => rfl) fun _ =>
  .bind (spares_addObject h dc (.pen ⟨.solid, 1, outline⟩)) fun pen =>
  .bind (spares_addObject h dc (.brush ⟨.solid, panel⟩)) fun brush =>
  .bind (spares_selectObject dc hown pen) fun _ =>
  .bind (spares_selectObject dc hown brush) fun _ =>
  .bind (spares_perform h dc (.rectangle _) own fun _ => rfl) fun _ =>
  .bind (spares_perform h dc (.ellipse _) own fun _ => rfl) fun _ =>
  .bind (spares_perform h dc (.path _ true) own fun _ => rfl) fun _ =>
  .bind (spares_exchange dc hown _ _) fun _ =>
  .bind (spares_perform h dc (.text _ caption none) own fun _ => rfl) fun _ =>
  .bind_of (spares_checkerboard h dc heap own) fun tiles htiles =>
  .bind (spares_perform h dc (.stretchTransfer _ tiles _ .srcCopy) own fun _ => rfl) fun _ =>
  .bind (spares_closeContext dc htiles 0) fun _ =>
  .bind (spares_perform h dc (.invertRect _) own fun _ => rfl) fun _ =>
  .bind (spares_addObject h dc (.brush ⟨.null, background⟩)) fun hollow =>
  .bind (spares_selectObject dc hown hollow) fun _ =>
  .bind (spares_perform h dc (.rectangle _) own fun _ => rfl) fun _ =>
  .bind (spares_closeContext dc hown 1) fun _ =>
  .bind (spares_deleteObject h dc ground) fun _ =>
  .bind (spares_deleteObject h dc pen) fun _ =>
  .bind (spares_deleteObject h dc brush) fun _ => spares_deleteObject h dc hollow

end Scene

end Paintbox

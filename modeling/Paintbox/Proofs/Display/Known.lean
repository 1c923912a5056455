import Paintbox.Proofs.Display.Stroke
import Paintbox.Proofs.Registry.Entries

/-!
# What is known of a display

Whoever opens contexts and makes objects knows what is under their handles, whatever else there is
on the display.  That is enough to follow what is drawn through the ones with the others, and so to
tell the picture on the screen from the picture that was there before.  It is asked only what
becomes of the display if all goes well.

* `DisplayAction.Leads` — what an action leaves if it answers; closed under sequencing.
* `Display.Known` — the screen, some of the contexts and some of the objects.
* `Display.leads_addContext`, `Display.leads_selectObject`, … — **what is known after an action**,
  with everything that it has changed.
* `Display.leads_draw`, `Display.leads_fillRect`, `Display.leads_stretchTransfer` — what is on the
  screen when something has been drawn through a context that is known.
-/

namespace Paintbox

/-! ## What actions lead to -/

namespace DisplayAction

variable {α β : Type} {P P' : Display → Prop} {Q Q' : α → Display → Prop} {R : β → Display → Prop}

/-- Begun on a display with `P`, an action leaves what `Q` says if it answers. -/
def Leads (P : Display → Prop) (a : DisplayAction α) (Q : α → Display → Prop) : Prop :=
  ∀ d x d', P d → a.on d = (.ok x, d') → Q x d'

namespace Leads

lemma bind {a : DisplayAction α} {f : α → DisplayAction β} (ha : Leads P a Q)
    (hf : ∀ x, Leads (Q x) (f x) R) : Leads P (a >>= f) R := by
  intro d y d'' hd hrun
  rcases hfirst : a.on d with ⟨_ | x, d'⟩
  · rw [on_bind_error hfirst] at hrun
    cases hrun
  · rw [on_bind_ok hfirst] at hrun
    exact hf x d' y d'' (ha d x d' hd hfirst) hrun

lemma pre {a : DisplayAction α} (ha : Leads P a Q) (hP : ∀ d, P' d → P d) : Leads P' a Q :=
  fun d x d' hd => ha d x d' (hP d hd)

lemma post {a : DisplayAction α} (ha : Leads P a Q) (hQ : ∀ x d, Q x d → Q' x d) :
    Leads P a Q' :=
  fun d x d' hd hrun => hQ x d' (ha d x d' hd hrun)

/-- What is so on every display that an action begins on may be used for it. -/
lemma assume {p : Prop} {a : DisplayAction α} (hp : ∀ d, P d → p) (ha : p → Leads P a Q) :
    Leads P a Q :=
  fun d x d' hd => ha (hp d hd) d x d' hd

lemma pure {x : α} (hQ : ∀ d, P d → Q x d) : Leads P (Pure.pure x) Q := by
  intro d y d' hd hrun
  cases hrun
  exact hQ d hd

lemma ask {question : Display → Except Error α} :
    Leads P (DisplayAction.ask question) fun x d => P d ∧ question d = .ok x := by
  intro d x d' hd hrun
  obtain ⟨hanswer, rfl⟩ := Prod.mk.inj hrun
  exact ⟨hd, hanswer⟩

end Leads

end DisplayAction

namespace Display

open DisplayAction

/-! ## What is known -/

/-- The picture on the screen is `p`, and what is under some handles of contexts, all different, and
of objects is what is listed with them. -/
structure Known (p : Pixmap) (cs : List (ContextHandle × DeviceContext))
    (os : List (ObjectHandle × GraphicsObject)) (d : Display) : Prop where
  screen : d.screen = p
  contexts : ∀ x ∈ cs, d.contexts.get? x.1.code = some x.2
  distinct : (cs.map Prod.fst).Nodup
  objects : ∀ x ∈ os, d.objects.get? x.1.code = some x.2

variable {α : Type} {p q : Pixmap} {cs : List (ContextHandle × DeviceContext)}
  {os : List (ObjectHandle × GraphicsObject)} {d : Display} {h : ContextHandle}
  {dc : DeviceContext} {heap : Heap}

namespace Known

lemma of_screen (hd : d.screen = p) : Known p [] [] d :=
  ⟨hd, List.forall_mem_nil _, List.nodup_nil, List.forall_mem_nil _⟩

lemma live (hd : Known p ((h, dc) :: cs) os d) : d.contexts.get? h.code = some dc :=
  hd.contexts (h, dc) List.mem_cons_self

lemma context (hd : Known p ((h, dc) :: cs) os d) : d.context h = .ok dc :=
  context_eq_ok_iff.mpr hd.live

/-- A context that is listed further on has another handle. -/
lemma code_ne (hd : Known p ((h, dc) :: cs) os d) {x : ContextHandle × DeviceContext}
    (hx : x ∈ cs) : x.1.code ≠ h.code := by
  have hin : x.1 ∈ cs.map Prod.fst := List.mem_map_of_mem hx
  intro hsame
  rw [code_inj.mp hsame] at hin
  exact (List.nodup_cons.mp hd.distinct).1 hin

lemma permContexts (hd : Known p cs os d) {cs' : List (ContextHandle × DeviceContext)}
    (hperm : cs'.Perm cs) : Known p cs' os d :=
  { hd with
    contexts := fun x hx => hd.contexts x (hperm.mem_iff.mp hx)
    distinct := (hperm.map Prod.fst).nodup_iff.mpr hd.distinct }

/-- The picture that a context without a surface draws on. -/
lemma target_screen (hd : Known p cs os d) (hscreen : dc.surface = none) : d.target dc = p := by
  rw [target, hscreen]
  exact hd.screen

/-- A change of the context that is listed first is seen there only. -/
lemma mapContext (hd : Known p ((h, dc) :: cs) os d) (k : DeviceContext → DeviceContext) :
    Known p ((h, k dc) :: cs) os (d.mapContext h k) where
  screen := hd.screen
  contexts := by
    intro x hx
    rw [contexts_mapContext]
    rcases List.mem_cons.mp hx with rfl | hx
    · rw [Registry.get?_modify_self, hd.live, Option.map_some]
    · rw [Registry.get?_modify_of_ne _ (hd.code_ne hx)]
      exact hd.contexts x (List.mem_cons_of_mem _ hx)
  distinct := hd.distinct
  objects := hd.objects

/-- What is painted through a context without a surface is on the screen. -/
lemma paint_screen (hd : Known p ((h, dc) :: cs) os d) (hscreen : dc.surface = none)
    (f : Pixmap → Pixmap) : Known (f p) ((h, dc) :: cs) os (d.paint h f) := by
  have hmem : dc.isMemory = false := by rw [DeviceContext.isMemory, hscreen, Option.isSome_none]
  rw [Display.paint_screen hd.live hmem]
  exact { hd with screen := congrArg f hd.screen }

/-- What is painted through a context with a surface is on that. -/
lemma paint_surface (hd : Known p ((h, dc) :: cs) os d) (hsurface : dc.surface = some q)
    (f : Pixmap → Pixmap) :
    Known p ((h, { dc with surface := some (f q) }) :: cs) os (d.paint h f) := by
  have hmem : dc.isMemory = true := by rw [DeviceContext.isMemory, hsurface, Option.isSome_some]
  rw [paint_memory hd.live hmem]
  have hpainted := hd.mapContext fun dc => { dc with surface := dc.surface.map f }
  rw [hsurface, Option.map_some] at hpainted
  exact hpainted

/-- A pen and a brush that are known and selected are what is drawn with. -/
lemma inks (hd : Known p cs os d) {pen : Pen} {brush : Brush}
    (hpen : (dc.selection.pen, .pen pen) ∈ os) (hbrush : (dc.selection.brush, .brush brush) ∈ os) :
    d.inks dc = ⟨pen.ink, brush.ink, brush.color.index, dc.textColor.index⟩ := by
  simp only [Display.inks, pen?, brush?, hd.objects _ hpen, hd.objects _ hbrush, Option.bind_some,
    GraphicsObject.asPen, GraphicsObject.asBrush, Option.map_some, Option.getD_some]

end Known

/-- With nothing selected the default pen and the default brush are drawn with. -/
lemma inks_of_unselected (d : Display) (hnone : dc.selection = .none) :
    d.inks dc = ⟨some Inks.defaultPen, some Inks.defaultBrush, Inks.defaultBrush,
      dc.textColor.index⟩ := by
  rw [Display.inks, hnone]
  rfl

/-! ## Contexts and objects -/

lemma leads_addContext (dc : DeviceContext) :
    Leads (Known p cs os) (addContext dc) fun h => Known p ((h, dc) :: cs) os := by
  intro d h d' hd hrun
  have hfound := get?_of_addContext hrun
  rw [on_addContext] at hrun
  obtain ⟨hanswer, rfl⟩ := Prod.mk.inj hrun
  obtain ⟨code, hcode, rfl⟩ := Drawing.of_map_eq_ok hanswer
  have hlive : ∀ x ∈ cs, (d.contexts.insert dc).2.get? x.1.code = some x.2 ∧ code ≠ x.1.code := by
    intro x hx
    obtain ⟨hstays, hother⟩ := Registry.insert_of_live (hd.contexts x hx) dc
    exact ⟨hstays, hother code hcode⟩
  refine { hd with contexts := fun x hx => ?_, distinct := List.nodup_cons.mpr ⟨?_, hd.distinct⟩ }
  · rcases List.mem_cons.mp hx with rfl | hx
    · exact hfound
    · exact (hlive x hx).1
  · intro hin
    obtain ⟨x, hx, hsame⟩ := List.mem_map.mp hin
    exact (hlive x hx).2 (code_inj.mpr hsame).symm

lemma leads_addObject (object : GraphicsObject) :
    Leads (Known p cs os) (addObject object) fun o => Known p cs ((o, object) :: os) := by
  intro d o d' hd hrun
  rw [on_addObject] at hrun
  obtain ⟨hanswer, rfl⟩ := Prod.mk.inj hrun
  obtain ⟨code, hcode, rfl⟩ := Drawing.of_map_eq_ok hanswer
  have hins : d.objects.insert object = (.ok code, (d.objects.insert object).2) :=
    Prod.ext hcode rfl
  refine { hd with objects := fun x hx => ?_ }
  rcases List.mem_cons.mp hx with rfl | hx
  · exact Registry.get?_of_insert hins
  · exact (Registry.insert_of_live (hd.objects x hx) object).1

/-- A memory context for a context without a surface is blank and as large as the screen. -/
lemma leads_openMemoryContext (hdc : (h, dc) ∈ cs) (hscreen : dc.surface = none) :
    Leads (Known p cs os) (openMemoryContext heap h) fun g =>
      Known p ((g, .onSurface (p.fill 0)) :: cs) os := by
  refine .bind .ask fun surface => .assume (p := surface = p.fill 0) ?_ fun hblank => ?_
  · rintro d ⟨hd, hanswer⟩
    rw [referenceSize_of_live (hd.contexts _ hdc), hd.target_screen hscreen] at hanswer
    simp only [bind, Except.bind, Pixmap.create] at hanswer
    split_ifs at hanswer with hpos hroom
    cases hanswer
    rfl
  · rw [hblank]
    exact (leads_addContext _).pre fun d hd => hd.1

lemma leads_exchange (get : DeviceContext → α) (set : DeviceContext → DeviceContext) :
    Leads (Known p ((h, dc) :: cs) os) (exchange h get set) fun _ =>
      Known p ((h, set dc) :: cs) os := by
  intro d x d' hd hrun
  rw [on_exchange, hd.context] at hrun
  cases hrun
  exact hd.mapContext set

lemma leads_selectObject {o : ObjectHandle} {object : GraphicsObject} (ho : (o, object) ∈ os) :
    Leads (Known p ((h, dc) :: cs) os) (selectObject h o) fun _ =>
      Known p ((h, { dc with selection := dc.selection.set object.kind o }) :: cs) os := by
  intro d x d' hd hrun
  rw [on_selectObject, hd.context, object_eq_ok_iff.mpr (hd.objects _ ho)] at hrun
  cases hrun
  exact hd.mapContext fun dc => { dc with selection := dc.selection.set object.kind o }

lemma leads_closeContext (w : UInt16) :
    Leads (Known p ((h, dc) :: cs) os) (closeContext w h) fun _ => Known p cs os := by
  intro d x d' hd hrun
  rw [on_closeContext] at hrun
  obtain ⟨-, rfl⟩ := Prod.mk.inj hrun
  refine { hd with contexts := fun x hx => ?_, distinct := (List.nodup_cons.mp hd.distinct).2 }
  show (d.contexts.release h.code).2.get? x.1.code = some x.2
  rw [Registry.get?_release, if_neg (hd.code_ne hx)]
  exact hd.contexts x (List.mem_cons_of_mem _ hx)

/-- After a deletion no object is known to be there, and all that is known besides is as before. -/
lemma leads_deleteObject (o : ObjectHandle) :
    Leads (Known p cs os) (deleteObject o) fun _ => Known p cs [] := by
  intro d x d' hd hrun
  rw [on_deleteObject] at hrun
  obtain ⟨-, rfl⟩ := Prod.mk.inj hrun
  exact { hd with objects := fun _ hx => nomatch hx }

/-! ## Drawing -/

lemma leads_draw (hscreen : dc.surface = none) {inks : Inks}
    (hinks : ∀ d, Known p ((h, dc) :: cs) os d → d.inks dc = inks)
    (f : Inks → Pixmap → Pixmap) :
    Leads (Known p ((h, dc) :: cs) os) (draw h f) fun _ =>
      Known (f inks p) ((h, dc) :: cs) os := by
  intro d x d' hd hrun
  rw [on_draw, hd.context] at hrun
  obtain ⟨-, rfl⟩ := Prod.mk.inj hrun
  rw [hinks d hd]
  exact hd.paint_screen hscreen (f inks)

lemma leads_draw_surface (hsurface : dc.surface = some q) {inks : Inks}
    (hinks : ∀ d, Known p ((h, dc) :: cs) os d → d.inks dc = inks)
    (f : Inks → Pixmap → Pixmap) :
    Leads (Known p ((h, dc) :: cs) os) (draw h f) fun _ =>
      Known p ((h, { dc with surface := some (f inks q) }) :: cs) os := by
  intro d x d' hd hrun
  rw [on_draw, hd.context] at hrun
  obtain ⟨-, rfl⟩ := Prod.mk.inj hrun
  rw [hinks d hd]
  exact hd.paint_surface hsurface (f inks)

/-- A path with points enough is drawn like any figure. -/
lemma leads_path (hscreen : dc.surface = none) {inks : Inks}
    (hinks : ∀ d, Known p ((h, dc) :: cs) os d → d.inks dc = inks) {points : List Point}
    (hmany : ¬ points.length < 2) (closed : Bool) :
    Leads (Known p ((h, dc) :: cs) os) (path h points closed) fun _ =>
      Known (inked inks.pen (fun v p => p.path (points.map Point.toPlane) v closed) p)
        ((h, dc) :: cs) os := by
  rw [path, if_neg hmany]
  intro d x d' hd hrun
  have hpath := leads_draw hscreen hinks _ d x d' hd hrun
  cases hpen : inks.pen with
  | none =>
      rw [hpen] at hpath
      exact hpath
  | some v =>
      rw [hpen] at hpath
      exact hpath

/-- A box is filled with a brush that is known. -/
lemma leads_fillRect (hscreen : dc.surface = none) {o : ObjectHandle} {brush : Brush}
    (ho : (o, .brush brush) ∈ os) (r : Rect) :
    Leads (Known p ((h, dc) :: cs) os) (fillRect h r o) fun _ =>
      Known (inked brush.ink (fun v p =>
        p.fillBox r.left.toInt r.top.toInt r.right.toInt r.bottom.toInt v) p)
        ((h, dc) :: cs) os := by
  intro d x d' hd hrun
  have hink : d.brushInk o = .ok brush.ink := by
    rw [brushInk, object_eq_ok_iff.mpr (hd.objects _ ho)]
    rfl
  rw [fillRect, on_drawWith, hink, hd.context] at hrun
  obtain ⟨-, rfl⟩ := Prod.mk.inj hrun
  exact hd.paint_screen hscreen _

/-- What is copied from another context that is known is the picture that this has. -/
lemma leads_stretchTransfer (hscreen : dc.surface = none) {inks : Inks}
    (hinks : ∀ d, Known p ((h, dc) :: cs) os d → d.inks dc = inks) {src : ContextHandle}
    {other : DeviceContext} (hsrc : (src, other) ∈ cs) (hsurface : other.surface = some q)
    (box srcBox : Box) (op : RasterOp) :
    Leads (Known p ((h, dc) :: cs) os) (stretchTransfer h box src srcBox op) fun _ =>
      Known (p.stretchTransfer box.x.toInt box.y.toInt box.width.toInt box.height.toInt (some q)
        srcBox.x.toInt srcBox.y.toInt srcBox.width.toInt srcBox.height.toInt op inks.pattern)
        ((h, dc) :: cs) os := by
  intro d x d' hd hrun
  have hlive := hd.contexts _ (List.mem_cons_of_mem _ hsrc)
  have htarget : d.target other = q := by rw [target, hsurface, Option.getD_some]
  rw [stretchTransfer, on_transfer, transferStroke, hd.context, source_of_live hlive,
    htarget] at hrun
  obtain ⟨-, rfl⟩ := Prod.mk.inj hrun
  rw [hinks d hd]
  exact hd.paint_screen hscreen fun p =>
    p.stretchTransfer box.x.toInt box.y.toInt box.width.toInt box.height.toInt (some q)
      srcBox.x.toInt srcBox.y.toInt srcBox.width.toInt srcBox.height.toInt op inks.pattern

end Display

end Paintbox

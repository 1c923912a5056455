import Paintbox.Proofs.Display.Tied
import Paintbox.Scene

/-!
# Registers that no picture shows

The font and the bitmap that are selected into a context, its background color and its background
mode can be asked for, but nothing that is drawn depends on them.  Whatever is done to two displays
that differ in nothing else is done alike, and they go on to differ in nothing else.

* `DeviceContext.Lookalike` — two contexts that differ in these four registers at most.
* `DisplayAction.Agree` — two actions that answer alike and keep such displays alike; closed under
  sequencing.
* `Display.agree_addContext`, `Display.agree_perform`, … — **every action agrees with itself**, the
  demo scene included; only the answers of those that show one of the four registers may differ.
-/

namespace Paintbox

/-- Two contexts that differ at most in the selected font and bitmap and in the background. -/
structure DeviceContext.Lookalike (dc dc' : DeviceContext) : Prop where
  window : dc'.window = dc.window
  position : dc'.position = dc.position
  pen : dc'.selection.pen = dc.selection.pen
  brush : dc'.selection.brush = dc.selection.brush
  textColor : dc'.textColor = dc.textColor
  painting : dc'.painting = dc.painting
  surface : dc'.surface = dc.surface

open DeviceContext

lemma DeviceContext.Lookalike.refl (dc : DeviceContext) : dc.Lookalike dc :=
  ⟨rfl, rfl, rfl, rfl, rfl, rfl, rfl⟩

/-- Drawings use the pen and the brush only, whatever objects there are. -/
lemma drawsAlike_lookalike (objects : Registry GraphicsObject) :
    DrawsAlike objects Lookalike where
  position := fun hrel => hrel.position
  surface := fun hrel => hrel.surface
  inks := by
    intro d dc dc' _ hrel
    simp only [Display.inks, hrel.pen, hrel.brush, hrel.textColor]
  mapSurface := fun _ hrel => { hrel with surface := by rw [hrel.surface] }
  move := fun _ hrel => { hrel with position := rfl }

/-! ## Actions that agree -/

/-- The same failure, or answers that are related. -/
inductive Answers {α : Type} (Q : α → α → Prop) : Except Error α → Except Error α → Prop where
  | ok {x y : α} (hxy : Q x y) : Answers Q (.ok x) (.ok y)
  | error (e : Error) : Answers Q (.error e) (.error e)

lemma Answers.refl {α : Type} (answer : Except Error α) : Answers Eq answer answer := by
  cases answer with
  | ok x => exact .ok rfl
  | error e => exact .error e

lemma Answers.eq {α : Type} {answer answer' : Except Error α} (h : Answers Eq answer answer') :
    answer' = answer := by
  cases h with
  | ok hxy => rw [hxy]
  | error e => rfl

namespace DisplayAction

variable {α β : Type} {Q : α → α → Prop} {R : β → β → Prop}

/-- On displays that look alike the two actions answer alike and leave displays that look alike. -/
def Agree (Q : α → α → Prop) (a a' : DisplayAction α) : Prop :=
  ∀ d d', d.Tied Lookalike d' →
    Answers Q (a.on d).1 (a'.on d').1 ∧ (a.on d).2.Tied Lookalike (a'.on d').2

lemma Agree.pure {x y : α} (hxy : Q x y) : Agree Q (Pure.pure x) (Pure.pure y) :=
  fun _ _ hd => ⟨.ok hxy, hd⟩

lemma Agree.ask {question : Display → Except Error α}
    (hsame : ∀ d d', d.Tied Lookalike d' → question d' = question d) :
    Agree Eq (ask question) (ask question) := by
  intro d d' hd
  refine ⟨?_, hd⟩
  rw [on_ask, on_ask, hsame d d' hd]
  exact .refl _

/-- What asks about objects is answered alike. -/
lemma Agree.ask_objects {question : Display → Except Error α}
    (hsame : ∀ d d', d'.objects = d.objects → question d' = question d) :
    Agree Eq (DisplayAction.ask question) (DisplayAction.ask question) :=
  .ask fun d d' hd => hsame d d' hd.objects

/-- What changes objects only, in a way that only objects decide, is done alike. -/
lemma Agree.of_objects {a : DisplayAction α}
    (act : Registry GraphicsObject → Except Error α × Registry GraphicsObject)
    (ha : ∀ d, a.on d = ((act d.objects).1, { d with objects := (act d.objects).2 })) :
    Agree Eq a a := by
  intro d d' hd
  rw [ha, ha, hd.objects]
  exact ⟨.refl _, { hd with objects := rfl }⟩

lemma Agree.bind {a a' : DisplayAction α} {f f' : α → DisplayAction β} (ha : Agree Q a a')
    (hf : ∀ x y, Q x y → Agree R (f x) (f' y)) : Agree R (a >>= f) (a' >>= f') := by
  intro d d' hd
  obtain ⟨hanswers, htied⟩ := ha d d' hd
  rw [on_bind, on_bind]
  rcases ha : a.on d with ⟨answer, d₁⟩
  rcases ha' : a'.on d' with ⟨answer', d₁'⟩
  rw [ha, ha'] at hanswers htied
  cases hanswers with
  | ok hxy => exact hf _ _ hxy d₁ d₁' htied
  | error e => exact ⟨.error e, htied⟩

lemma Agree.bind_eq {a : DisplayAction α} {f : α → DisplayAction β} (ha : Agree Eq a a)
    (hf : ∀ x, Agree R (f x) (f x)) : Agree R (a >>= f) (a >>= f) :=
  ha.bind fun x y hxy => by rw [← hxy]; exact hf x

end DisplayAction

/-! ## The actions -/

namespace Display

open DisplayAction

variable {α : Type}

lemma agree_addContext (dc : DeviceContext) : Agree Eq (addContext dc) (addContext dc) := by
  intro d d' hd
  obtain ⟨hanswer, hcontexts⟩ := hd.contexts.insert (Lookalike.refl dc)
  rw [on_addContext, on_addContext, hanswer]
  exact ⟨.refl _, { hd with contexts := hcontexts }⟩

lemma agree_closeContext (w : UInt16) (h : ContextHandle) :
    Agree Eq (closeContext w h) (closeContext w h) := by
  intro d d' hd
  obtain ⟨hanswer, hcontexts⟩ := hd.contexts.release h.code
  rw [on_closeContext, on_closeContext, hanswer]
  exact ⟨.refl _, { hd with contexts := hcontexts }⟩

lemma agree_openMemoryContext (heap : Heap) (reference : ContextHandle) :
    Agree Eq (openMemoryContext heap reference) (openMemoryContext heap reference) := by
  refine .bind_eq (.ask fun d d' hd => ?_) fun surface => agree_addContext _
  have hsize : d'.referenceSize reference = d.referenceSize reference := by
    rw [referenceSize, referenceSize, hd.surface (drawsAlike_lookalike _), hd.screen]
  rw [hsize]

lemma agree_register {Q : α → α → Prop} (h : ContextHandle) {get : DeviceContext → α}
    (hget : ∀ dc dc', dc.Lookalike dc' → Q (get dc) (get dc')) :
    Agree Q (register h get) (register h get) := by
  intro d d' hd
  rw [on_register, on_register]
  rcases hd.context h with ⟨dc, dc', hdc, hdc', hrel⟩ | ⟨e, he, he'⟩
  · rw [hdc, hdc']
    exact ⟨.ok (hget dc dc' hrel), hd⟩
  · rw [he, he']
    exact ⟨.error e, hd⟩

lemma agree_exchange {Q : α → α → Prop} (h : ContextHandle) {get : DeviceContext → α}
    {set set' : DeviceContext → DeviceContext}
    (hget : ∀ dc dc', dc.Lookalike dc' → Q (get dc) (get dc'))
    (hset : ∀ dc dc', dc.Lookalike dc' → (set dc).Lookalike (set' dc')) :
    Agree Q (exchange h get set) (exchange h get set') := by
  intro d d' hd
  rw [on_exchange, on_exchange]
  rcases hd.context h with ⟨dc, dc', hdc, hdc', hrel⟩ | ⟨e, he, he'⟩
  · rw [hdc, hdc']
    exact ⟨.ok (hget dc dc' hrel), { hd with contexts := hd.contexts.modify hset h.code }⟩
  · rw [he, he']
    exact ⟨.error e, hd⟩

/-- What was selected before may differ, but the same is selected then. -/
lemma agree_selectObject (h : ContextHandle) (o : ObjectHandle) :
    Agree (fun _ _ => True) (selectObject h o) (selectObject h o) := by
  intro d d' hd
  have hobject : d'.object o = d.object o := by rw [object, object, hd.objects]
  rw [on_selectObject, on_selectObject, hobject]
  rcases hd.context h with ⟨dc, dc', hdc, hdc', hrel⟩ | ⟨e, he, he'⟩
  · rw [hdc, hdc']
    cases d.object o with
    | error e => exact ⟨.error e, hd⟩
    | ok found =>
        refine ⟨.ok trivial, { hd with contexts := hd.contexts.modify ?_ h.code }⟩
        intro dc dc' hrel
        cases found.kind with
        | pen => exact { hrel with pen := rfl }
        | brush => exact { hrel with brush := rfl }
        | font => exact { hrel with }
        | bitmap => exact { hrel with }
  · rw [he, he']
    exact ⟨.error e, hd⟩

lemma agree_beginPaint (w : UInt16) : Agree Eq (beginPaint w) (beginPaint w) :=
  .bind_eq (agree_addContext _) fun h =>
  .bind_eq (agree_exchange h (fun _ _ hrel => hrel.painting.symm)
    fun _ _ hrel => { hrel with painting := rfl }) fun _ => .pure rfl

lemma agree_addObject (object : GraphicsObject) : Agree Eq (addObject object) (addObject object) :=
  .of_objects (fun objects => ((objects.insert object).1.map ObjectHandle.mk,
    (objects.insert object).2)) fun _ => rfl

lemma agree_createBitmap (heap : Heap) (width height : Int16) (planes bpp : UInt8)
    (initial : Option ByteArray) :
    Agree Eq (createBitmap heap width height planes bpp initial)
      (createBitmap heap width height planes bpp initial) :=
  .bind_eq (.ask fun _ _ _ => rfl) fun _ => agree_addObject _

lemma agree_deleteObject (o : ObjectHandle) : Agree Eq (deleteObject o) (deleteObject o) :=
  .of_objects (fun objects => ((objects.release o.code).1.map fun _ => (),
    (objects.release o.code).2)) fun _ => rfl

lemma agree_setBitmapBits (o : ObjectHandle) (bytes : ByteArray) :
    Agree Eq (setBitmapBits o bytes) (setBitmapBits o bytes) := by
  refine .bind_eq (.ask_objects fun d d' hobjects => ?_) fun count =>
    .bind_eq (.of_objects (fun objects =>
      (.ok (), objects.modify o.code (·.mapPixels (·.load bytes)))) fun d => rfl) fun _ => .pure rfl
  rw [bitmap, bitmap, object, object, hobjects]

lemma agree_extent (h : ContextHandle) : Agree Eq (extent h) (extent h) :=
  .ask fun d d' hd => by rw [hd.surface (drawsAlike_lookalike _)]

lemma agree_describe (o : ObjectHandle) : Agree Eq (describe o) (describe o) :=
  .ask_objects fun d d' hobjects => by rw [object, object, hobjects]

lemma agree_bitmapBits (o : ObjectHandle) (out : ByteArray) :
    Agree Eq (bitmapBits o out) (bitmapBits o out) :=
  .ask_objects fun d d' hobjects => by rw [bitmap, bitmap, object, object, hobjects]

lemma agree_perform (g : Drawing) (h : ContextHandle) : Agree Eq (g.perform h) (g.perform h) := by
  intro d d' hd
  have hE := drawsAlike_lookalike d.objects
  rw [Drawing.on_perform, Drawing.on_perform, hd.stroke hE]
  cases g.stroke d h with
  | error e => exact ⟨.error e, hd⟩
  | ok f => exact ⟨.ok rfl, hd.drawn hE h f g⟩

lemma agree_writePixel (h : ContextHandle) (pt : Point) (c : Color) :
    Agree Eq (writePixel h pt c) (writePixel h pt c) := by
  intro d d' hd
  have hE := drawsAlike_lookalike d.objects
  rw [on_writePixel, on_writePixel]
  rcases hd.context h with ⟨dc, dc', hdc, hdc', hrel⟩ | ⟨e, he, he'⟩
  · rw [hdc, hdc']
    have htied := hd.drawn hE h (fun p => p.put pt.x.toInt pt.y.toInt c.index) (.dot pt c)
    simp only [Drawing.settle, drawn_id] at htied
    simp only [hd.target hE hrel]
    exact ⟨.refl _, htied⟩
  · rw [he, he']
    exact ⟨.error e, hd⟩

end Display

/-! ## The demo scene -/

namespace Scene

open DisplayAction Display

lemma agree_checkerboard (heap : Heap) (reference : ContextHandle) :
    Agree Eq (checkerboard heap reference) (checkerboard heap reference) :=
  .bind_eq (agree_openMemoryContext heap reference) fun tiles =>
  .bind_eq (agree_perform (.patternTransfer _ _) tiles) fun _ =>
  .bind_eq (agree_perform (.patternTransfer _ _) tiles) fun _ =>
  .bind_eq (agree_perform (.patternTransfer _ _) tiles) fun _ => .pure rfl

/-- The scene selects objects, but does not look at what was selected before. -/
lemma agree_render (heap : Heap) : Agree Eq (render heap) (render heap) := by
  refine .bind_eq (.ask fun d d' hd => by rw [hd.screen]) fun _ =>
    .bind_eq (agree_addContext _) fun own =>
    .bind_eq (agree_addObject _) fun ground =>
    .bind_eq (agree_perform (.fillRect _ ground) own) fun _ =>
    .bind_eq (agree_addObject _) fun pen =>
    .bind_eq (agree_addObject _) fun brush =>
    .bind (agree_selectObject own pen) fun _ _ _ =>
    .bind (agree_selectObject own brush) fun _ _ _ =>
    .bind_eq (agree_perform (.rectangle _) own) fun _ =>
    .bind_eq (agree_perform (.ellipse _) own) fun _ =>
    .bind_eq (agree_perform (.path _ true) own) fun _ =>
    .bind_eq (agree_exchange own ?_ ?_) fun _ =>
    .bind_eq (agree_perform (.text _ caption none) own) fun _ =>
    .bind_eq (agree_checkerboard heap own) fun tiles =>
    .bind_eq (agree_perform (.stretchTransfer _ tiles _ .srcCopy) own) fun _ =>
    .bind_eq (agree_closeContext 0 tiles) fun _ =>
    .bind_eq (agree_perform (.invertRect _) own) fun _ =>
    .bind_eq (agree_addObject _) fun hollow =>
    .bind (agree_selectObject own hollow) fun _ _ _ =>
    .bind_eq (agree_perform (.rectangle _) own) fun _ =>
    .bind_eq (agree_closeContext 1 own) fun _ =>
    .bind_eq (agree_deleteObject ground) fun _ =>
    .bind_eq (agree_deleteObject pen) fun _ =>
    .bind_eq (agree_deleteObject brush) fun _ => agree_deleteObject hollow
  · exact fun _ _ hrel => hrel.textColor.symm
  · exact fun _ _ hrel => { hrel with textColor := rfl }

end Scene

end Paintbox

import Paintbox.Proofs.Display.Unseen
import Paintbox.Proofs.Session.Frame
import Paintbox.Proofs.Session.Sound

/-!
# What is selected and what is drawn

A slot may hold a handle that denotes nothing any more, or something of another kind by now.  To
whoever draws it is an empty slot.  The slots of fonts and bitmaps and the background are not looked
at by drawings at all.

* `Display.SamePictures`, `Display.DrawnAlike` — two displays with the same pictures, and two on
  which whatever is drawn comes out the same.
* `Display.Tied.perform`, `Display.Tied.drawnAlike` — **one drawing, and then any number of them, on
  two displays that no drawing can tell apart**.
* `Display.drawsAs_deselect`, `Display.drawsAs_forget` — an idle slot may just as well be empty.
* `Session.Lookalike`, `Session.Lookalike.perform`, `Session.Lookalike.run` — **whatever is asked of
  two sessions that look alike, they go on to look alike**.
* **`Display.drawnAlike_of_stale`** — all of this from the outside.
-/

namespace Paintbox

open DisplayAction

/-! ## The same pictures -/

/-- The same screen, the same bitmaps, and the same picture under every handle. -/
structure Display.SamePictures (d d' : Display) : Prop where
  screen : d'.screen = d.screen
  objects : d'.objects = d.objects
  surface : ∀ g, d'.surface g = d.surface g

def Session.SamePictures (s s' : Session) : Prop :=
  Option.Rel Display.SamePictures s.display s'.display

namespace Display

variable {E : DeviceContext → DeviceContext → Prop} {d d' : Display}

/-- Whatever is drawn on the two displays, one drawing after the other, is answered alike and leaves
the same pictures. -/
def DrawnAlike (d d' : Display) : Prop :=
  ∀ rs : List Request, (∀ r ∈ rs, r.through?.isSome) →
    (Session.run ⟨some d'⟩ rs).1 = (Session.run ⟨some d⟩ rs).1 ∧
      (Session.run ⟨some d⟩ rs).2.SamePictures (Session.run ⟨some d'⟩ rs).2

lemma Tied.samePictures (hd : d.Tied E d') (hE : DrawsAlike d.objects E) : d.SamePictures d' where
  screen := hd.screen
  objects := hd.objects
  surface := hd.surface hE

/-- One drawing does the same to displays that it cannot tell apart. -/
lemma Tied.perform (hd : d.Tied E d') (hE : DrawsAlike d.objects E) {r : Request}
    (hr : r.through?.isSome) :
    ∃ answer d₁ d₁', r.perform ⟨some d⟩ = (answer, ⟨some d₁⟩) ∧
      r.perform ⟨some d'⟩ = (answer, ⟨some d₁'⟩) ∧ d₁.Tied E d₁' ∧ d₁.objects = d.objects := by
  cases r with
  | draw h g =>
      rw [Request.perform_draw, Request.perform_draw, hd.stroke hE]
      cases g.stroke d h with
      | error e => exact ⟨.error e, d, d', rfl, rfl, hd, rfl⟩
      | ok f => exact ⟨.ok .done, _, _, rfl, rfl, hd.drawn hE h f g, objects_drawn d h f g.settle⟩
  | setPixel h pt c =>
      rcases hd.context h with ⟨dc, dc', hdc, hdc', hrel⟩ | ⟨e, he, he'⟩
      · rw [Request.perform_setPixel hdc, Request.perform_setPixel hdc', hd.target hE hrel]
        exact ⟨_, _, _, rfl, rfl, hd.drawn hE h _ (.dot pt c), objects_drawn d h _ _⟩
      · refine ⟨.ok (.color .invalid), d, d', ?_, ?_, hd, rfl⟩
        · simp only [Request.perform, Session.setPixel, Session.perform_some, on_writePixel, he]
        · simp only [Request.perform, Session.setPixel, Session.perform_some, on_writePixel, he']
  | _ => cases hr

lemma Tied.drawnAlike (hd : d.Tied E d') (hE : DrawsAlike d.objects E) : d.DrawnAlike d' := by
  intro rs hrs
  induction rs generalizing d d' with
  | nil => exact ⟨rfl, .some (hd.samePictures hE)⟩
  | cons r rs ih =>
      rw [List.forall_mem_cons] at hrs
      obtain ⟨answer, d₁, d₁', hstep, hstep', htied, hobjects⟩ := hd.perform hE hrs.1
      obtain ⟨hanswers, hpictures⟩ := ih htied (by rw [hobjects]; exact hE) hrs.2
      simp only [Session.run, hstep, hstep', hanswers]
      exact ⟨trivial, hpictures⟩

/-! ## Idle slots -/

/-- The handle denotes a live object of the kind. -/
def Denotes (d : Display) (o : ObjectHandle) (kind : ObjectKind) : Prop :=
  ∃ object, d.objects.get? o.code = some object ∧ object.kind = kind

lemma pen?_eq_none {o : ObjectHandle} (hidle : ¬ d.Denotes o .pen) : d.pen? o = none := by
  rw [pen?]
  cases hfound : d.objects.get? o.code with
  | none => rfl
  | some object =>
      cases object with
      | pen p => exact absurd ⟨_, hfound, rfl⟩ hidle
      | _ => rfl

lemma brush?_eq_none {o : ObjectHandle} (hidle : ¬ d.Denotes o .brush) : d.brush? o = none := by
  rw [brush?]
  cases hfound : d.objects.get? o.code with
  | none => rfl
  | some object =>
      cases object with
      | brush b => exact absurd ⟨_, hfound, rfl⟩ hidle
      | _ => rfl

end Display

namespace DeviceContext

/-- The context with nothing selected into the slot of a kind. -/
def deselect (kind : ObjectKind) (dc : DeviceContext) : DeviceContext :=
  { dc with selection := dc.selection.set kind .null }

/-- The context with nothing selected as its pen and as its brush where the handle was. -/
def forget (o : ObjectHandle) (dc : DeviceContext) : DeviceContext :=
  { dc with
    selection := {
      dc.selection with
      pen := if dc.selection.pen = o then .null else dc.selection.pen
      brush := if dc.selection.brush = o then .null else dc.selection.brush } }

end DeviceContext

namespace Display

variable {d : Display} {dc : DeviceContext}

/-- The display with the pen and brush slots of all its contexts emptied where the handle was. -/
def forget (o : ObjectHandle) (d : Display) : Display :=
  { d with contexts := d.contexts.map (.forget o) }

lemma pen?_null (d : Display) : d.pen? .null = none := rfl

lemma brush?_null (d : Display) : d.brush? .null = none := rfl

/-- An idle pen or brush slot may just as well be empty. -/
lemma drawsAs_deselect {kind : ObjectKind} (hkind : kind = .pen ∨ kind = .brush)
    (hidle : ¬ d.Denotes (dc.selection.get kind) kind) : d.DrawsAs dc (dc.deselect kind) where
  position := rfl
  surface := rfl
  inks := by
    rcases hkind with rfl | rfl
    · simp only [inks, DeviceContext.deselect, Selection.set, pen?_null,
        pen?_eq_none (o := dc.selection.pen) hidle]
    · simp only [inks, DeviceContext.deselect, Selection.set, brush?_null,
        brush?_eq_none (o := dc.selection.brush) hidle]

/-- A slot may just as well be empty if it holds a handle that denotes nothing. -/
lemma drawsAs_forget {o : ObjectHandle} (hdead : d.objects.get? o.code = none)
    (dc : DeviceContext) : d.DrawsAs dc (dc.forget o) where
  position := rfl
  surface := rfl
  inks := by
    have hpen : d.pen? (if dc.selection.pen = o then .null else dc.selection.pen)
        = d.pen? dc.selection.pen := by
      split_ifs with heq
      · rw [heq, pen?_null, pen?, hdead]
        rfl
      · rfl
    have hbrush : d.brush? (if dc.selection.brush = o then .null else dc.selection.brush)
        = d.brush? dc.selection.brush := by
      split_ifs with heq
      · rw [heq, brush?_null, brush?, hdead]
        rfl
      · rfl
    simp only [inks, DeviceContext.forget, hpen, hbrush]

end Display

/-! ## Sessions that look alike -/

/-- A request whose answer shows the background or a slot, be it only what the slot held before. -/
def Request.Bares : Request → Prop
  | .setBackgroundColor .. | .backgroundColor _ | .setBackgroundMode .. | .backgroundMode _
  | .selectObject .. | .selected _ .font | .selected _ .bitmap => True
  | _ => False

namespace Session

open Display

/-- The two sessions hold displays that differ at most in the background of contexts and in the
fonts and bitmaps selected into them. -/
def Lookalike (s s' : Session) : Prop :=
  Option.Rel (Display.Tied DeviceContext.Lookalike) s.display s'.display

variable {s s' : Session} {α : Type}

lemma Lookalike.refl (s : Session) : s.Lookalike s := by
  rcases s with ⟨_ | d⟩
  · exact .none
  · exact .some ⟨rfl, rfl, rfl, .refl DeviceContext.Lookalike.refl _⟩

lemma Lookalike.answer (hs : s.Lookalike s') {Q : α → α → Prop} {a : DisplayAction α}
    (ha : Agree Q a a) (reply : α → Reply) :
    (Request.answer s a reply).2.Lookalike (Request.answer s' a reply).2 := by
  rcases s with ⟨_ | d⟩ <;> rcases s' with ⟨_ | d'⟩ <;> cases hs
  case none.none => exact .none
  case some.some hd => exact .some (ha d d' hd).2

lemma Lookalike.answer_eq (hs : s.Lookalike s') {a : DisplayAction α} (ha : Agree Eq a a)
    (reply : α → Reply) :
    (Request.answer s' a reply).1 = (Request.answer s a reply).1 ∧
      (Request.answer s a reply).2.Lookalike (Request.answer s' a reply).2 := by
  refine ⟨?_, hs.answer ha reply⟩
  rcases s with ⟨_ | d⟩ <;> rcases s' with ⟨_ | d'⟩ <;> cases hs
  case none.none => rfl
  case some.some hd =>
    show (a.on d').1.map reply = (a.on d).1.map reply
    rw [(ha d d' hd).1.eq]

lemma Lookalike.setPixel (hs : s.Lookalike s') (h : ContextHandle) (pt : Point) (c : Color) :
    (s'.setPixel h pt c).1 = (s.setPixel h pt c).1 ∧
      (s.setPixel h pt c).2.Lookalike (s'.setPixel h pt c).2 := by
  rcases s with ⟨_ | d⟩ <;> rcases s' with ⟨_ | d'⟩ <;> cases hs
  case none.none => exact ⟨rfl, .none⟩
  case some.some hd =>
    obtain ⟨hanswers, htied⟩ := agree_writePixel h pt c d d' hd
    refine ⟨?_, ?_⟩
    · rw [Session.setPixel, Session.setPixel, perform_some, perform_some, hanswers.eq]
      cases ((writePixel h pt c).on d).1 with
      | error e => rfl
      | ok landed => cases landed <;> rfl
    · rw [snd_setPixel, snd_setPixel]
      exact .some htied

lemma Lookalike.ask (hs : s.Lookalike s') {question : Display → Except Error α}
    (hsame : ∀ d d', d.Tied DeviceContext.Lookalike d' → question d' = question d) :
    s'.ask question = s.ask question := by
  rcases s with ⟨_ | d⟩ <;> rcases s' with ⟨_ | d'⟩ <;> cases hs
  case none.none => rfl
  case some.some hd => exact hsame d d' hd

/-- **Whatever is asked of two sessions that look alike, they look alike afterwards**, and only
a request that shows what they may differ in is answered differently. -/
lemma Lookalike.perform (hs : s.Lookalike s') (r : Request) :
    (¬ r.Bares → (r.perform s').1 = (r.perform s).1) ∧
      (r.perform s).2.Lookalike (r.perform s').2 := by
  have hsame : ∀ {α : Type} {a : DisplayAction α} {reply : α → Reply}, Agree Eq a a →
      (¬ r.Bares → (Request.answer s' a reply).1 = (Request.answer s a reply).1) ∧
        (Request.answer s a reply).2.Lookalike (Request.answer s' a reply).2 :=
    fun ha => ⟨fun _ => (hs.answer_eq ha _).1, (hs.answer_eq ha _).2⟩
  have hbares : ∀ {α : Type} {a : DisplayAction α} {reply : α → Reply}, r.Bares →
      Agree (fun _ _ => True) a a →
      (¬ r.Bares → (Request.answer s' a reply).1 = (Request.answer s a reply).1) ∧
        (Request.answer s a reply).2.Lookalike (Request.answer s' a reply).2 :=
    fun hr ha => ⟨fun hnot => absurd hr hnot, hs.answer ha _⟩
  cases r with
  | start heap chosen =>
      simp only [Request.perform]
      cases start heap chosen with
      | ok started => exact ⟨fun _ => rfl, .refl started⟩
      | error e => exact ⟨fun _ => rfl, hs⟩
  | free => exact ⟨fun _ => rfl, .none⟩
  | isOpen =>
      refine ⟨fun _ => ?_, hs⟩
      rcases s with ⟨_ | d⟩ <;> rcases s' with ⟨_ | d'⟩ <;> cases hs <;> rfl
  | settings => exact ⟨fun _ => hs.ask fun d d' hd => by rw [hd.settings], hs⟩
  | counts =>
      exact ⟨fun _ => hs.ask fun d d' hd => by rw [hd.contexts.live, hd.objects], hs⟩
  | getPixel h pt =>
      refine ⟨fun _ => ?_, hs⟩
      have hsurface : (s'.ask fun d => d.surface h) = s.ask fun d => d.surface h :=
        hs.ask fun d d' hd => hd.surface (drawsAlike_lookalike _) h
      simp only [Request.perform, Session.getPixel, hsurface]
  | setPixel h pt c =>
      obtain ⟨hanswer, hleft⟩ := hs.setPixel h pt c
      refine ⟨fun _ => ?_, hleft⟩
      simp only [Request.perform, hanswer]
  | openContext w => exact hsame (agree_addContext _)
  | closeContext w h => exact hsame (agree_closeContext w h)
  | beginPaint w => exact hsame (agree_beginPaint w)
  | endPaint w session => exact hsame (agree_closeContext w session.context)
  | openMemoryContext heap h => exact hsame (agree_openMemoryContext heap h)
  | window h => exact hsame (agree_register h fun _ _ hrel => hrel.window.symm)
  | isPainting h => exact hsame (agree_register h fun _ _ hrel => hrel.painting.symm)
  | textColor h => exact hsame (agree_register h fun _ _ hrel => hrel.textColor.symm)
  | position h => exact hsame (agree_register h fun _ _ hrel => hrel.position.symm)
  | textExtent h codes len => exact hsame (agree_register h fun _ _ _ => rfl)
  | extent h => exact hsame (agree_extent h)
  | setTextColor h c =>
      exact hsame (agree_exchange h (fun _ _ hrel => hrel.textColor.symm)
        fun _ _ hrel => { hrel with textColor := rfl })
  | moveTo h pt =>
      exact hsame (agree_exchange h (fun _ _ hrel => hrel.position.symm)
        fun _ _ hrel => { hrel with position := rfl })
  | backgroundColor h => exact hbares trivial (agree_register h fun _ _ _ => trivial)
  | backgroundMode h => exact hbares trivial (agree_register h fun _ _ _ => trivial)
  | setBackgroundColor h c =>
      refine hbares trivial (agree_exchange h (fun _ _ _ => trivial) ?_)
      exact fun _ _ hrel => { hrel with }
  | setBackgroundMode h m =>
      refine hbares trivial (agree_exchange h (fun _ _ _ => trivial) ?_)
      exact fun _ _ hrel => { hrel with }
  | selected h kind =>
      cases kind with
      | pen => exact hsame (agree_register h fun _ _ hrel => hrel.pen.symm)
      | brush => exact hsame (agree_register h fun _ _ hrel => hrel.brush.symm)
      | font => exact hbares trivial (agree_register h fun _ _ _ => trivial)
      | bitmap => exact hbares trivial (agree_register h fun _ _ _ => trivial)
  | selectObject h o => exact hbares trivial (agree_selectObject h o)
  | createPen style width color => exact hsame (agree_addObject _)
  | createBrush style color => exact hsame (agree_addObject _)
  | createFont height width weight name => exact hsame (agree_addObject _)
  | createBitmap heap width height planes bpp initial =>
      exact hsame (agree_createBitmap heap width height planes bpp initial)
  | createCompatibleBitmap heap h width height =>
      exact hsame (agree_createBitmap heap width height 1 8 none)
  | deleteObject o => exact hsame (agree_deleteObject o)
  | describe o => exact hsame (agree_describe o)
  | bitmapBits o out => exact hsame (agree_bitmapBits o out)
  | setBitmapBits o bytes => exact hsame (agree_setBitmapBits o bytes)
  | draw h g => exact hsame (agree_perform g h)
  | renderScene heap => exact hsame (Scene.agree_render heap)

/-- Two sessions that look alike look alike after any run, and all answers that do not show what
they may differ in are the same. -/
lemma Lookalike.run (hs : s.Lookalike s') (rs : List Request) :
    (∀ (i : ℕ) (r : Request), rs[i]? = some r → ¬ r.Bares →
        (s'.run rs).1[i]? = (s.run rs).1[i]?) ∧
      (s.run rs).2.Lookalike (s'.run rs).2 := by
  induction rs generalizing s s' with
  | nil => exact ⟨fun _ _ _ _ => rfl, hs⟩
  | cons r rs ih =>
      obtain ⟨hfirst, hstep⟩ := hs.perform r
      obtain ⟨hrest, hend⟩ := ih hstep
      refine ⟨fun i r' hi hr' => ?_, hend⟩
      cases i with
      | zero =>
          cases hi
          exact congrArg some (hfirst hr')
      | succ i => exact hrest i r' hi hr'

lemma Lookalike.samePictures (hs : s.Lookalike s') : s.SamePictures s' := by
  rcases s with ⟨_ | d⟩ <;> rcases s' with ⟨_ | d'⟩ <;> cases hs
  case none.none => exact .none
  case some.some hd => exact .some (hd.samePictures (drawsAlike_lookalike _))

end Session

/-! ## What may be selected -/

/-- **A stale selection draws as none.**  On any display, however its handles have been given out so
far, a pen or brush slot whose handle does not denote a live object of that kind may just as well be
empty: whatever is drawn, through this context or any other one, is answered alike and leaves the
same pictures.  Once an object has been deleted, all slots that hold its handle may be emptied at
once.

Fonts and bitmaps that are selected, the background color and the background mode **never show in
any picture**: displays that differ in these registers only, of any contexts, have the same
pictures after any run of requests whatsoever. -/
theorem Display.drawnAlike_of_stale (d : Display) :
    (∀ (h : ContextHandle) (dc : DeviceContext) (kind : ObjectKind), kind = .pen ∨ kind = .brush →
      d.contexts.get? h.code = some dc → ¬ d.Denotes (dc.selection.get kind) kind →
      d.DrawnAlike (d.mapContext h (.deselect kind))) ∧
    (∀ (o : ObjectHandle) (d' : Display),
      (Request.deleteObject o).perform ⟨some d⟩ = (.ok .done, ⟨some d'⟩) →
      d'.DrawnAlike (d'.forget o)) ∧
    ∀ d' : Display, d.Tied DeviceContext.Lookalike d' → ∀ rs : List Request,
      (∀ (i : ℕ) (r : Request), rs[i]? = some r → ¬ r.Bares →
        (Session.run ⟨some d'⟩ rs).1[i]? = (Session.run ⟨some d⟩ rs).1[i]?) ∧
      (Session.run ⟨some d⟩ rs).2.SamePictures (Session.run ⟨some d'⟩ rs).2 := by
  refine ⟨?_, ?_, ?_⟩
  · intro h dc kind hkind hdc hidle
    have hcontexts : d.contexts.Related d.DrawsAs (d.contexts.modify h.code (.deselect kind)) := by
      refine Registry.related_modify (DrawsAs.refl d) fun a ha => ?_
      cases hdc.symm.trans ha
      exact drawsAs_deselect hkind hidle
    have htied : d.Tied d.DrawsAs (d.mapContext h (.deselect kind)) := ⟨rfl, rfl, rfl, hcontexts⟩
    exact htied.drawnAlike (drawsAlike_drawsAs d)
  · intro o d' hdeleted
    have hd' : ((deleteObject o).on d).2 = d' := by
      cases congrArg Prod.snd hdeleted
      rfl
    have hdead : d'.objects.get? o.code = none := by
      rw [← hd', on_deleteObject]
      show (d.objects.release o.code).2.get? o.code = none
      rw [Registry.get?_release, if_pos rfl]
    have htied : d'.Tied d'.DrawsAs (d'.forget o) :=
      ⟨rfl, rfl, rfl, Registry.related_map (drawsAs_forget hdead) d'.contexts⟩
    exact htied.drawnAlike (drawsAlike_drawsAs d')
  · intro d' htied rs
    have hs : Session.Lookalike ⟨some d⟩ ⟨some d'⟩ := .some htied
    obtain ⟨hanswers, hend⟩ := hs.run rs
    exact ⟨hanswers, hend.samePictures⟩

/-- A context with a deleted pen and a brush that is about to be deleted, and the same context with
another background color. -/
theorem Display.drawnAlike_of_stale_pen :
    ∃ d d', (Session.closed.run [.start .ample ⟨2, 1, 1, 2⟩, .openContext 7,
        .createPen .solid 1 ⟨5⟩, .createBrush .solid ⟨6⟩, .selectObject ⟨1⟩ ⟨1⟩,
        .selectObject ⟨1⟩ ⟨2⟩, .deleteObject ⟨1⟩]).2 = ⟨some d⟩ ∧
      d.DrawnAlike (d.mapContext ⟨1⟩ (.deselect .pen)) ∧
      (Request.deleteObject ⟨2⟩).perform ⟨some d⟩ = (.ok .done, ⟨some d'⟩) ∧
      d'.DrawnAlike (d'.forget ⟨2⟩) ∧
      (Session.run ⟨some d⟩ [.draw ⟨1⟩ (.rectangle ⟨0, 0, 2, 1⟩)]).2.SamePictures
        (Session.run ⟨some (d.mapContext ⟨1⟩ fun dc => { dc with backgroundColor := ⟨9⟩ })⟩
          [.draw ⟨1⟩ (.rectangle ⟨0, 0, 2, 1⟩)]).2 := by
  obtain ⟨d, hrun, ⟨dc, hdc, hpen⟩, hdead, d', hdeleted⟩ : ∃ d, (Session.closed.run
        [.start .ample ⟨2, 1, 1, 2⟩, .openContext 7, .createPen .solid 1 ⟨5⟩,
          .createBrush .solid ⟨6⟩, .selectObject ⟨1⟩ ⟨1⟩, .selectObject ⟨1⟩ ⟨2⟩,
          .deleteObject ⟨1⟩]).2 = ⟨some d⟩ ∧
      (∃ dc, d.contexts.get? 1 = some dc ∧ dc.selection.pen = ⟨1⟩) ∧ d.objects.get? 1 = none ∧
      ∃ d', (Request.deleteObject ⟨2⟩).perform ⟨some d⟩ = (.ok .done, ⟨some d'⟩) :=
    ⟨_, rfl, ⟨_, rfl, rfl⟩, rfl, _, rfl⟩
  obtain ⟨hstale, hforget, hunseen⟩ := drawnAlike_of_stale d
  have hidle : ¬ d.Denotes (dc.selection.get .pen) .pen := by
    rintro ⟨object, hlive, -⟩
    rw [Selection.get, hpen, hdead] at hlive
    cases hlive
  have htied : d.Tied DeviceContext.Lookalike
      (d.mapContext ⟨1⟩ fun dc => { dc with backgroundColor := ⟨9⟩ }) :=
    ⟨rfl, rfl, rfl, Registry.related_modify DeviceContext.Lookalike.refl
      fun _ _ => ⟨rfl, rfl, rfl, rfl, rfl, rfl, rfl⟩⟩
  exact ⟨d, d', hrun, hstale ⟨1⟩ dc .pen (Or.inl rfl) hdc hidle, hdeleted,
    hforget ⟨2⟩ d' hdeleted, (hunseen _ htied _).2⟩

end Paintbox

import Paintbox.Proofs.Display.Objects
import Paintbox.Proofs.Session.History
import Paintbox.Proofs.Session.Sound

/-!
# The books that are kept of objects

Whatever is asked of a session, at most one thing happens to its objects: one is made, one is
deleted, or pixels are loaded into one.  Which of these it was is told by the request and its
answer.

* `Request.Described`, `Request.initialByte` — what is asked to be made.
* `Request.created?`, `Request.deleted?`, `Request.loaded?` — what has been made, deleted and
  loaded; `Session.created` and `Session.deleted` collect it over a run.
* `Request.Books` — what can happen to the objects, with the answers that go with it.
* `Request.exists_books` — **every ordinary request does one of these things**.
* `Request.Books.live` — what is in the books is counted.
* `Scene.scripted_render` — the demo scene is a run of ordinary requests, and so
  **`Session.exists_ordinary_run`** — nothing is missed if only those are looked at.
-/

namespace Paintbox

open DisplayAction Display

/-! ## What is written down -/

namespace Request

/-- A request other than a start and an end.  The demo scene is no single request but a run of
them. -/
def Ordinary : Request → Prop
  | .start _ _ | .free | .renderScene _ => False
  | _ => True

/-- Both sides of a bitmap are positive, and the heap has room for its pixels. -/
def Storable (heap : Heap) (width height : Int16) : Prop :=
  (0 < width.toInt ∧ 0 < height.toInt) ∧
    heap.grants (width.toInt.toNat * height.toInt.toNat) = true

/-- What a request asks to be made, if it asks for an object, its arguments are valid and its pixels
can be stored.  A face name is kept as far as whole characters of it take at most 31 bytes. -/
def Described : Request → Description → Prop
  | .createPen style width color, description => description = .pen ⟨style, width, color⟩
  | .createBrush style color, description => description = .brush ⟨style, color⟩
  | .createFont height width weight name, description =>
      ∃ kept, FaceName.LongestStart 31 name kept ∧
        description = .font ⟨height, width, weight, kept, 0⟩
  | .createBitmap heap width height planes bpp _, description =>
      Storable heap width height ∧
        description = .bitmap width.toInt.toNat height.toInt.toNat planes bpp
  | .createCompatibleBitmap heap _ width height, description =>
      Storable heap width height ∧
        description = .bitmap width.toInt.toNat height.toInt.toNat 1 8
  | _, _ => False

/-- The bytes that a bitmap is made with, and zeros where they end. -/
def initialByte : Request → ℕ → UInt8
  | .createBitmap _ _ _ _ _ (some bytes), i => bytes.data[i]?.getD 0
  | _, _ => 0

/-- The handle of the object that a request has made. -/
def created? (r : Request) (answer : Except Error Reply) : Option ObjectHandle :=
  match r, answer with
  | .createPen .., .ok (.object o) => some o
  | .createBrush .., .ok (.object o) => some o
  | .createFont .., .ok (.object o) => some o
  | .createBitmap .., .ok (.object o) => some o
  | .createCompatibleBitmap .., .ok (.object o) => some o
  | _, _ => none

/-- The handle of the object that a request has deleted. -/
def deleted? (r : Request) (answer : Except Error Reply) : Option ObjectHandle :=
  match r, answer with
  | .deleteObject o, .ok _ => some o
  | _, _ => none

/-- The bytes that a request loads into the bitmap under `o`. -/
def loaded? (o : ObjectHandle) : Request → Option ByteArray
  | .setBitmapBits o' bytes => if o' = o then some bytes else none
  | _ => none

end Request

namespace Session

/-- The handles of the objects that a run has made, in the order in which it made them. -/
def created : Session → List Request → List ObjectHandle :=
  log fun s r => r.created? (r.perform s).1

def deleted : Session → List Request → List ObjectHandle :=
  log fun s r => r.deleted? (r.perform s).1

end Session

/-! ## One request -/

/-- What an ordinary request can do to the objects of a display, with what it answers. -/
inductive Request.Books (objects : Registry GraphicsObject) :
    Request → Except Error Reply → Registry GraphicsObject → Prop where
  | kept {r : Request} {answer : Except Error Reply} (hcreated : r.created? answer = none)
      (hdeleted : r.deleted? answer = none) (hloaded : ∀ o, r.loaded? o = none) :
      Books objects r answer objects
  | created {r : Request} {object : GraphicsObject} (v : objects.Vacancy)
      (hcreated : r.created? (.ok (.object ⟨v.handle⟩)) = some ⟨v.handle⟩)
      (hdescribed : r.Described object.describe) (hholds : object.Holds r.initialByte) :
      Books objects r (.ok (.object ⟨v.handle⟩)) (objects.add v object)
  | deleted {o : ObjectHandle} {object : GraphicsObject}
      (hlive : objects.get? o.code = some object) :
      Books objects (.deleteObject o) (.ok .done) (objects.remove o.code).2
  | loaded (o : ObjectHandle) (bytes : ByteArray) (answer : Except Error Reply) :
      Books objects (.setBitmapBits o bytes) answer
        (objects.modify o.code (·.mapPixels (·.load bytes)))

namespace Request

/-- A request for an object with valid arguments comes down to its entry in the registry. -/
lemma exists_answer_addObject {r : Request} {description : Description}
    (hr : r.Described description) :
    ∃ object : GraphicsObject, object.describe = description ∧ object.Holds r.initialByte ∧
      (∀ o, r.created? (.ok (.object o)) = some o) ∧
      ∀ s, r.perform s = answer s (addObject object) .object := by
  cases r with
  | createPen style width color =>
      cases hr
      exact ⟨.pen ⟨style, width, color⟩, rfl, trivial, fun _ => rfl, fun _ => rfl⟩
  | createBrush style color =>
      cases hr
      exact ⟨.brush ⟨style, color⟩, rfl, trivial, fun _ => rfl, fun _ => rfl⟩
  | createFont height width weight name =>
      obtain ⟨kept, hkept, rfl⟩ := hr
      refine ⟨.font ⟨height, width, weight, kept, 0⟩, rfl, trivial, fun _ => rfl, fun s => ?_⟩
      rw [hkept.unique (FaceName.longestStart_truncate name)]
      rfl
  | createBitmap heap width height planes bpp initial =>
      obtain ⟨⟨hsize, hheap⟩, rfl⟩ := hr
      obtain ⟨pixels, hmade, hwidth, hheight, hbytes⟩ :=
        exists_createBitmap_eq hsize.1 hsize.2 hheap planes bpp initial
      refine ⟨.bitmap ⟨planes, bpp, pixels⟩, ?_, ?_, fun _ => rfl, fun s => ?_⟩
      · rw [GraphicsObject.describe, hwidth, hheight]
      · intro i hi
        rw [hbytes i hi]
        cases initial <;> rfl
      · rw [perform, hmade]
  | createCompatibleBitmap heap h width height =>
      obtain ⟨⟨hsize, hheap⟩, rfl⟩ := hr
      obtain ⟨pixels, hmade, hwidth, hheight, hbytes⟩ :=
        exists_createBitmap_eq hsize.1 hsize.2 hheap 1 8 none
      refine ⟨.bitmap ⟨1, 8, pixels⟩, ?_, ?_, fun _ => rfl, fun s => ?_⟩
      · rw [GraphicsObject.describe, hwidth, hheight]
      · exact hbytes
      · rw [perform, Display.createCompatibleBitmap, hmade]
  | _ => cases hr

/-- A bitmap whose size is not positive, or whose pixels find no room, is not made. -/
lemma exists_createBitmap_error {heap : Heap} {width height : Int16}
    (hnot : ¬ Storable heap width height) (planes bpp : UInt8) (initial : Option ByteArray)
    (d : Display) :
    ∃ e, (Display.createBitmap heap width height planes bpp initial).on d = (.error e, d) := by
  obtain ⟨e, hcreate⟩ : ∃ e, Pixmap.create heap width.toInt height.toInt = .error e := by
    by_cases hsize : 0 < width.toInt ∧ 0 < height.toInt
    · have hheap : ¬ heap.grants (width.toInt.toNat * height.toInt.toNat) = true :=
        fun hheap => hnot ⟨hsize, hheap⟩
      exact ⟨_, (Pixmap.create_of_pos heap hsize.1 hsize.2).trans (if_neg hheap)⟩
    · exact ⟨_, dif_neg hsize⟩
  refine ⟨e, ?_⟩
  cases initial with
  | none => rw [Display.createBitmap, on_bind, on_ask, hcreate]
  | some bytes =>
      rw [Display.createBitmap, on_bind, on_ask, Pixmap.createFrom, hcreate]
      rfl

section Books

variable {α : Type} {r : Request} {d : Display}

/-- What an action leaves alone it keeps in the books. -/
lemma books_of_keeps {a : DisplayAction α} {reply : α → Reply}
    (ha : Keeps (HasObjects d.objects) a) (hr : r.perform ⟨some d⟩ = answer ⟨some d⟩ a reply)
    (hcreated : ∀ answer, r.created? answer = none)
    (hdeleted : ∀ answer, r.deleted? answer = none) (hloaded : ∀ o, r.loaded? o = none) :
    ∃ d', (r.perform ⟨some d⟩).2 = ⟨some d'⟩ ∧
      Books d.objects r (r.perform ⟨some d⟩).1 d'.objects := by
  refine ⟨(a.on d).2, by rw [hr]; rfl, ?_⟩
  rw [show (a.on d).2.objects = d.objects from ha d rfl]
  exact .kept (hcreated _) (hdeleted _) hloaded

/-- A request that is refused does nothing to the books. -/
lemma books_of_error {e : Error} (hr : r.perform ⟨some d⟩ = (.error e, ⟨some d⟩))
    (hloaded : ∀ o, r.loaded? o = none) :
    ∃ d', (r.perform ⟨some d⟩).2 = ⟨some d'⟩ ∧
      Books d.objects r (r.perform ⟨some d⟩).1 d'.objects := by
  rw [hr]
  refine ⟨d, rfl, .kept ?_ ?_ hloaded⟩ <;> cases r <;> rfl

lemma books_of_described {description : Description} (hr : r.Described description) :
    ∃ d', (r.perform ⟨some d⟩).2 = ⟨some d'⟩ ∧
      Books d.objects r (r.perform ⟨some d⟩).1 d'.objects := by
  obtain ⟨object, rfl, hholds, hcreated, hperform⟩ := exists_answer_addObject hr
  cases hvacancy : d.objects.vacancy with
  | none =>
      have hfull : r.perform ⟨some d⟩ = (.error (.capacityExceeded d.objects.table), ⟨some d⟩) := by
        simp only [hperform, answer, Session.perform_some, on_addObject, Registry.insert, hvacancy]
        rfl
      refine books_of_error hfull ?_
      cases r <;> first | exact fun _ => rfl | exact hr.elim
  | some v =>
      refine ⟨{ d with objects := d.objects.add v object }, ?_, ?_⟩
      · simp only [hperform, answer, Session.perform_some, on_addObject, Registry.insert, hvacancy]
      · simp only [hperform, answer, Session.perform_some, on_addObject, Registry.insert, hvacancy]
        exact .created v (hcreated _) hr hholds

/-- **Every ordinary request does one thing to the books at most.** -/
lemma exists_books (hr : r.Ordinary) :
    ∃ d', (r.perform ⟨some d⟩).2 = ⟨some d'⟩ ∧
      Books d.objects r (r.perform ⟨some d⟩).1 d'.objects := by
  by_cases hdescribed : ∃ description, r.Described description
  · obtain ⟨description, hr⟩ := hdescribed
    exact books_of_described hr
  · cases r with
      | start heap chosen => exact hr.elim
      | free => exact hr.elim
      | renderScene heap => exact hr.elim
      | createPen style width color => exact absurd ⟨_, rfl⟩ hdescribed
      | createBrush style color => exact absurd ⟨_, rfl⟩ hdescribed
      | createFont height width weight name =>
          exact absurd ⟨_, _, FaceName.longestStart_truncate name, rfl⟩ hdescribed
      | createBitmap heap width height planes bpp initial =>
          have hnot : ¬ Storable heap width height := fun h => hdescribed ⟨_, h, rfl⟩
          obtain ⟨e, he⟩ := exists_createBitmap_error hnot planes bpp initial d
          have herror : (createBitmap heap width height planes bpp initial).perform ⟨some d⟩
              = (.error e, ⟨some d⟩) := by
            simp only [perform, answer, Session.perform_some, he, Except.map]
          exact books_of_error herror fun _ => rfl
      | createCompatibleBitmap heap h width height =>
          have hnot : ¬ Storable heap width height := fun h => hdescribed ⟨_, h, rfl⟩
          obtain ⟨e, he⟩ := exists_createBitmap_error hnot 1 8 none d
          have herror : (createCompatibleBitmap heap h width height).perform ⟨some d⟩
              = (.error e, ⟨some d⟩) := by
            simp only [perform, Display.createCompatibleBitmap, answer, Session.perform_some, he,
              Except.map]
          exact books_of_error herror fun _ => rfl
      | deleteObject o =>
          refine ⟨((Display.deleteObject o).on d).2, rfl, ?_⟩
          simp only [perform, answer, Session.perform_some, on_deleteObject]
          cases hfound : d.objects.get? o.code with
          | some object =>
              rw [Registry.release_of_live hfound]
              exact .deleted hfound
          | none =>
              by_cases hz : o.code = 0
              · rw [hz]
                exact .kept rfl rfl fun _ => rfl
              · rw [Registry.release_of_dead hz hfound]
                exact .kept rfl rfl fun _ => rfl
      | setBitmapBits o bytes =>
          refine ⟨((Display.setBitmapBits o bytes).on d).2, rfl, ?_⟩
          rw [objects_setBitmapBits]
          exact .loaded o bytes _
      | openContext w =>
          exact books_of_keeps (keepsObjects_addContext _ _) rfl (fun _ => rfl) (fun _ => rfl)
            fun _ => rfl
      | beginPaint w =>
          exact books_of_keeps (keepsObjects_beginPaint _ w) rfl (fun _ => rfl) (fun _ => rfl)
            fun _ => rfl
      | openMemoryContext heap h =>
          exact books_of_keeps (keepsObjects_openMemoryContext _ heap h) rfl (fun _ => rfl)
            (fun _ => rfl) fun _ => rfl
      | closeContext w h =>
          exact books_of_keeps (keepsObjects_closeContext _ w h) rfl (fun _ => rfl) (fun _ => rfl)
            fun _ => rfl
      | endPaint w session =>
          exact books_of_keeps (keepsObjects_closeContext _ w session.context) rfl (fun _ => rfl)
            (fun _ => rfl) fun _ => rfl
      | setTextColor h | setBackgroundColor h | setBackgroundMode h | moveTo h =>
          exact books_of_keeps (keepsObjects_exchange _ h _ _) rfl (fun _ => rfl) (fun _ => rfl)
            fun _ => rfl
      | selectObject h o =>
          exact books_of_keeps (keepsObjects_selectObject _ h o) rfl (fun _ => rfl)
            (fun _ => rfl) fun _ => rfl
      | draw h g =>
          exact books_of_keeps (keepsObjects_perform _ g h) rfl (fun _ => rfl) (fun _ => rfl)
            fun _ => rfl
      | setPixel h pt c =>
          refine ⟨((writePixel h pt c).on d).2, Session.snd_setPixel ⟨some d⟩ h pt c, ?_⟩
          rw [show ((writePixel h pt c).on d).2.objects = d.objects from
            keepsObjects_writePixel _ h pt c d rfl]
          exact .kept rfl rfl fun _ => rfl
      | isOpen | settings | counts | getPixel | window | isPainting | textColor | backgroundColor
      | backgroundMode | position | selected | textExtent | extent | describe | bitmapBits =>
          exact ⟨d, rfl, .kept rfl rfl fun _ => rfl⟩

end Books

/-- What is in the books is counted. -/
lemma Books.live {objects objects' : Registry GraphicsObject} {r : Request}
    {answer : Except Error Reply} (h : Books objects r answer objects') :
    objects'.live + (r.deleted? answer).toList.length
        = objects.live + (r.created? answer).toList.length ∧
      objects'.capacity = objects.capacity := by
  cases h with
  | kept hcreated hdeleted hloaded =>
      rw [hcreated, hdeleted]
      exact ⟨rfl, rfl⟩
  | created v hcreated hdescribed hholds =>
      have hdeleted : r.deleted? (.ok (.object ⟨v.handle⟩)) = none := by
        cases r <;> first | rfl | cases hcreated
      rw [hcreated, hdeleted]
      exact ⟨Registry.live_add v _, Registry.capacity_add _ v _⟩
  | deleted hlive => exact ⟨Registry.live_remove hlive, Registry.capacity_remove _ _⟩
  | loaded o bytes answer =>
      refine ⟨?_, Registry.capacity_modify _ _ _⟩
      rw [Registry.live_modify]
      rfl

end Request

/-! ## The demo scene -/

/-- What an action does to a display a run of ordinary requests does, too. -/
def DisplayAction.Scripted {α : Type} (a : DisplayAction α) : Prop :=
  ∀ d, ∃ rs, (∀ r ∈ rs, r.Ordinary) ∧ (Session.run ⟨some d⟩ rs).2 = ⟨some (a.on d).2⟩

namespace DisplayAction

variable {α β : Type}

lemma Scripted.ask (question : Display → Except Error α) : Scripted (ask question) :=
  fun _ => ⟨[], List.forall_mem_nil _, rfl⟩

lemma Scripted.pure (x : α) : Scripted (Pure.pure x : DisplayAction α) :=
  fun _ => ⟨[], List.forall_mem_nil _, rfl⟩

lemma Scripted.request {a : DisplayAction α} (r : Request) (hr : r.Ordinary)
    (hsame : ∀ d, (r.perform ⟨some d⟩).2 = ⟨some (a.on d).2⟩) : Scripted a := by
  refine fun d => ⟨[r], ?_, hsame d⟩
  rw [List.forall_mem_singleton]
  exact hr

lemma Scripted.bind {a : DisplayAction α} {f : α → DisplayAction β} (ha : Scripted a)
    (hf : ∀ x, Scripted (f x)) : Scripted (a >>= f) := by
  intro d
  obtain ⟨rs, hrs, hrun⟩ := ha d
  rw [on_bind]
  rcases haction : a.on d with ⟨_ | x, d'⟩
  · rw [haction] at hrun
    exact ⟨rs, hrs, hrun⟩
  · rw [haction] at hrun
    obtain ⟨rs', hrs', hrun'⟩ := hf x d'
    refine ⟨rs ++ rs', fun r hr => ?_, ?_⟩
    · exact (List.mem_append.mp hr).elim (hrs r) (hrs' r)
    · rw [Session.run_append, hrun, hrun']

end DisplayAction

namespace Scene

lemma scripted_draw (h : ContextHandle) (g : Drawing) : Scripted (g.perform h) :=
  .request (.draw h g) trivial fun _ => rfl

lemma scripted_checkerboard (heap : Heap) (reference : ContextHandle) :
    Scripted (checkerboard heap reference) :=
  .bind (.request (.openMemoryContext heap reference) trivial fun _ => rfl) fun tiles =>
  .bind (scripted_draw tiles (.patternTransfer _ _)) fun _ =>
  .bind (scripted_draw tiles (.patternTransfer _ _)) fun _ =>
  .bind (scripted_draw tiles (.patternTransfer _ _)) fun _ => .pure tiles

/-- The demo scene, step by step. -/
lemma scripted_render (heap : Heap) : Scripted (render heap) :=
  .bind (.ask _) fun _ =>
  .bind (.request (.openContext 1) trivial fun _ => rfl) fun own =>
  .bind (.request (.createBrush .solid background) trivial fun _ => rfl) fun ground =>
  .bind (scripted_draw own (.fillRect _ ground)) fun _ =>
  .bind (.request (.createPen .solid 1 outline) trivial fun _ => rfl) fun pen =>
  .bind (.request (.createBrush .solid panel) trivial fun _ => rfl) fun brush =>
  .bind (.request (.selectObject own pen) trivial fun _ => rfl) fun _ =>
  .bind (.request (.selectObject own brush) trivial fun _ => rfl) fun _ =>
  .bind (scripted_draw own (.rectangle _)) fun _ =>
  .bind (scripted_draw own (.ellipse _)) fun _ =>
  .bind (scripted_draw own (.path _ true)) fun _ =>
  .bind (.request (.setTextColor own accent) trivial fun _ => rfl) fun _ =>
  .bind (scripted_draw own (.text _ caption none)) fun _ =>
  .bind (scripted_checkerboard heap own) fun tiles =>
  .bind (scripted_draw own (.stretchTransfer _ tiles _ .srcCopy)) fun _ =>
  .bind (.request (.closeContext 0 tiles) trivial fun _ => rfl) fun _ =>
  .bind (scripted_draw own (.invertRect _)) fun _ =>
  .bind (.request (.createBrush .null background) trivial fun _ => rfl) fun hollow =>
  .bind (.request (.selectObject own hollow) trivial fun _ => rfl) fun _ =>
  .bind (scripted_draw own (.rectangle _)) fun _ =>
  .bind (.request (.closeContext 1 own) trivial fun _ => rfl) fun _ =>
  .bind (.request (.deleteObject ground) trivial fun _ => rfl) fun _ =>
  .bind (.request (.deleteObject pen) trivial fun _ => rfl) fun _ =>
  .bind (.request (.deleteObject brush) trivial fun _ => rfl) fun _ =>
    .request (.deleteObject hollow) trivial fun _ => rfl

end Scene

/-- Whatever a run without a start and an end brings a session to, a run of ordinary requests
brings it to, too. -/
theorem Session.exists_ordinary_run {rs : List Request}
    (hrs : ∀ r ∈ rs, r.Ordinary ∨ ∃ heap, r = .renderScene heap) (s : Session) :
    ∃ rs', (∀ r ∈ rs', r.Ordinary) ∧ (s.run rs').2 = (s.run rs).2 := by
  induction rs generalizing s with
  | nil => exact ⟨[], List.forall_mem_nil _, rfl⟩
  | cons r rs ih =>
      rw [List.forall_mem_cons] at hrs
      obtain ⟨rest, hrest, hrun⟩ := ih hrs.2 (r.perform s).2
      obtain ⟨first, hfirst, hstep⟩ : ∃ first, (∀ r ∈ first, r.Ordinary) ∧
          (s.run first).2 = (r.perform s).2 := by
        rcases hrs.1 with hordinary | ⟨heap, rfl⟩
        · exact ⟨[r], List.forall_mem_singleton.mpr hordinary, rfl⟩
        · rcases s with ⟨_ | d⟩
          · exact ⟨[], List.forall_mem_nil _, rfl⟩
          · exact Scene.scripted_render heap d
      refine ⟨first ++ rest, fun r hr => ?_, ?_⟩
      · exact (List.mem_append.mp hr).elim (hfirst r) (hrest r)
      · rw [run_append, hstep, hrun]
        rfl

end Paintbox

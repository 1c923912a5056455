import Paintbox.Gateway
import Paintbox.Proofs.Display.Stroke

/-!
# A failure changes nothing

Operations look handles up, store pictures and enter things into registries, and each of these may
fail, some of them after others have succeeded.  In every one of them nothing is changed before all
that can fail has been done, or what is looked up again after a change is certain to be there.

* `DisplayAction.Atomic` — an action that leaves the display as it was when it fails.
* `Atomic.ask_bind` — a question in front of an atomic action.
* `Atomic.addContext`, `Atomic.exchange`, `Atomic.perform`, … — the actions that operations are made
  of.
* `Request.Failed` — an answer that tells of a failure.
* **`Request.session_eq_of_failed`** — after such an answer the session is what it was before.

The demo scene is no single operation but a run of many, and is left out.
-/

namespace Paintbox

namespace DisplayAction

open Display

variable {α β : Type}

/-- An action that leaves the display as it was when it fails. -/
def Atomic (a : DisplayAction α) : Prop := ∀ d d' e, a.on d = (.error e, d') → d' = d

/-- An action that never fails is atomic. -/
lemma Atomic.of_ok {a : DisplayAction α} (ha : ∀ d, ∃ x d', a.on d = (.ok x, d')) : Atomic a := by
  intro d d' e h
  obtain ⟨x, d'', hok⟩ := ha d
  rw [hok] at h
  cases h

lemma Atomic.ask (question : Display → Except Error α) : Atomic (ask question) := by
  intro d d' e h
  exact (congrArg Prod.snd h).symm

/-- A question in front does no harm. -/
lemma Atomic.ask_bind {question : Display → Except Error α} {f : α → DisplayAction β}
    (hf : ∀ x, Atomic (f x)) : Atomic (DisplayAction.ask question >>= f) := by
  intro d d' e h
  rw [on_bind, on_ask] at h
  cases hq : question d with
  | error e' =>
      rw [hq] at h
      exact (congrArg Prod.snd h).symm
  | ok x =>
      rw [hq] at h
      exact hf x d d' e h

/-- After an atomic action whatever is certain to succeed may follow. -/
lemma Atomic.bind_ok {a : DisplayAction α} {f : α → DisplayAction β} (ha : Atomic a)
    (hf : ∀ d x d', a.on d = (.ok x, d') → ∃ y d'', (f x).on d' = (.ok y, d'')) :
    Atomic (a >>= f) := by
  intro d d' e h
  rcases hrun : a.on d with ⟨answer, d₁⟩
  cases answer with
  | error e' =>
      rw [on_bind_error hrun] at h
      cases h
      exact ha d d' e hrun
  | ok x =>
      obtain ⟨y, d₂, hok⟩ := hf d x d₁ hrun
      rw [on_bind_ok hrun, hok] at h
      cases h

/-! ## What operations are made of -/

lemma Atomic.register (h : ContextHandle) (get : DeviceContext → α) : Atomic (register h get) :=
  Atomic.ask _

lemma Atomic.exchange (h : ContextHandle) (get : DeviceContext → α)
    (set : DeviceContext → DeviceContext) : Atomic (exchange h get set) := by
  intro d d' e hrun
  rw [on_exchange] at hrun
  cases hctx : d.context h with
  | error e' =>
      rw [hctx] at hrun
      exact (congrArg Prod.snd hrun).symm
  | ok dc =>
      rw [hctx] at hrun
      cases hrun

lemma Atomic.addContext (dc : DeviceContext) : Atomic (addContext dc) := by
  intro d d' e hrun
  rw [on_addContext] at hrun
  rcases hins : d.contexts.insert dc with ⟨answer, contexts⟩
  rw [hins] at hrun
  cases answer with
  | ok handle => cases hrun
  | error e' =>
      have hsame := Registry.insert_of_error hins
      cases hrun
      rw [hsame]

lemma Atomic.addObject (object : GraphicsObject) : Atomic (addObject object) := by
  intro d d' e hrun
  rw [on_addObject] at hrun
  rcases hins : d.objects.insert object with ⟨answer, objects⟩
  rw [hins] at hrun
  cases answer with
  | ok handle => cases hrun
  | error e' =>
      have hsame := Registry.insert_of_error hins
      cases hrun
      rw [hsame]

lemma Atomic.closeContext (w : UInt16) (h : ContextHandle) : Atomic (closeContext w h) := by
  intro d d' e hrun
  rw [on_closeContext] at hrun
  rcases hrel : d.contexts.release h.code with ⟨answer, contexts⟩
  rw [hrel] at hrun
  cases answer with
  | ok dc => cases hrun
  | error e' =>
      have hsame := Registry.release_of_error hrel
      cases hrun
      rw [hsame]

lemma Atomic.deleteObject (o : ObjectHandle) : Atomic (deleteObject o) := by
  intro d d' e hrun
  rw [on_deleteObject] at hrun
  rcases hrel : d.objects.release o.code with ⟨answer, objects⟩
  rw [hrel] at hrun
  cases answer with
  | ok object => cases hrun
  | error e' =>
      have hsame := Registry.release_of_error hrel
      cases hrun
      rw [hsame]

/-- The new context of a paint session is found when it is marked. -/
lemma Atomic.beginPaint (w : UInt16) : Atomic (beginPaint w) := by
  refine Atomic.bind_ok (Atomic.addContext _) fun d h d' hopen => ?_
  have hfound : d'.context h = .ok (.fresh w) := context_eq_ok_iff.mpr (get?_of_addContext hopen)
  rw [on_bind, on_exchange, hfound]
  exact ⟨_, _, rfl⟩

lemma Atomic.openMemoryContext (heap : Heap) (reference : ContextHandle) :
    Atomic (openMemoryContext heap reference) :=
  Atomic.ask_bind fun surface => Atomic.addContext (.onSurface surface)

lemma Atomic.selectObject (h : ContextHandle) (o : ObjectHandle) : Atomic (selectObject h o) :=
  Atomic.ask_bind fun _ => Atomic.ask_bind fun kind =>
    Atomic.exchange h (·.selection.get kind) _

lemma Atomic.createBitmap (heap : Heap) (width height : Int16) (planes bpp : UInt8)
    (initial : Option ByteArray) : Atomic (createBitmap heap width height planes bpp initial) :=
  Atomic.ask_bind fun _ => Atomic.addObject _

lemma Atomic.setBitmapBits (o : ObjectHandle) (bytes : ByteArray) :
    Atomic (setBitmapBits o bytes) :=
  Atomic.ask_bind fun _ => Atomic.of_ok fun _ => ⟨_, _, rfl⟩

lemma Atomic.perform (g : Drawing) (h : ContextHandle) : Atomic (g.perform h) := by
  intro d d' e hrun
  rw [Drawing.on_perform] at hrun
  cases hstroke : g.stroke d h with
  | ok f =>
      rw [hstroke] at hrun
      cases hrun
  | error e' =>
      rw [hstroke] at hrun
      exact (congrArg Prod.snd hrun).symm

end DisplayAction

/-! ## Sessions -/

namespace Request

open DisplayAction

variable {α : Type}

lemma answer_of_error {s : Session} {a : DisplayAction α} (ha : Atomic a) {reply : α → Reply}
    {e : Error} (herr : (answer s a reply).1 = .error e) : (answer s a reply).2 = s := by
  rcases s with ⟨_ | d⟩
  · rfl
  · simp only [answer, Session.perform_some] at herr ⊢
    rcases hrun : a.on d with ⟨result, d'⟩
    rw [hrun] at herr
    cases result with
    | ok x => cases herr
    | error e' => rw [ha d d' e' hrun]

/-- An answer that tells of a failure: an error, or the invalid color for a pixel that was to be
written. -/
inductive Failed : Request → Except Error Reply → Prop where
  | error {r : Request} (e : Error) : Failed r (.error e)
  | invalid (h : ContextHandle) (pt : Point) (c : Color) :
      Failed (.setPixel h pt c) (.ok (.color .invalid))

end Request

namespace Session

open DisplayAction

/-- A pixel off the picture is not written, and the session stays as it was. -/
lemma setPixel_of_invalid {s : Session} {h : ContextHandle} {pt : Point} {c : Color}
    (hinv : (s.setPixel h pt c).1 = .invalid) : (s.setPixel h pt c).2 = s := by
  rcases s with ⟨_ | d⟩
  · rfl
  · simp only [setPixel, perform_some, Display.on_writePixel] at hinv ⊢
    cases hctx : d.context h with
    | error e => rfl
    | ok dc =>
        simp only [hctx] at hinv ⊢
        by_cases hon : (d.target dc).Contains pt.x.toInt pt.y.toInt
        · simp only [hon, decide_true] at hinv
          exact absurd hinv (Color.ofIndex_ne_invalid c.index)
        · simp only [hon, decide_false]
          rw [Display.paint_of_eq (Display.context_eq_ok_iff.mp hctx)]
          rw [Pixmap.put, dif_neg hon]

end Session

namespace Request

open DisplayAction

/-- An operation that answers an error leaves the session as it was. -/
lemma session_eq_of_error {s : Session} {r : Request} (hr : ∀ heap, r ≠ .renderScene heap)
    {e : Error} (herr : (r.perform s).1 = .error e) : (r.perform s).2 = s := by
  cases r with
  | start heap chosen =>
      simp only [perform] at herr ⊢
      cases hstart : Session.start heap chosen with
      | ok started => simp [hstart] at herr
      | error e' => rfl
  | free => cases herr
  | isOpen => rfl
  | settings => rfl
  | counts => rfl
  | openContext w => exact answer_of_error (Atomic.addContext _) herr
  | closeContext w h => exact answer_of_error (Atomic.closeContext w h) herr
  | beginPaint w => exact answer_of_error (Atomic.beginPaint w) herr
  | endPaint w session => exact answer_of_error (Atomic.closeContext w _) herr
  | openMemoryContext heap h => exact answer_of_error (Atomic.openMemoryContext heap h) herr
  | window h => exact answer_of_error (Atomic.register h _) herr
  | isPainting h => exact answer_of_error (Atomic.register h _) herr
  | extent h => exact answer_of_error (Atomic.ask _) herr
  | setTextColor h c => exact answer_of_error (Atomic.exchange h _ _) herr
  | textColor h => exact answer_of_error (Atomic.register h _) herr
  | setBackgroundColor h c => exact answer_of_error (Atomic.exchange h _ _) herr
  | backgroundColor h => exact answer_of_error (Atomic.register h _) herr
  | setBackgroundMode h m => exact answer_of_error (Atomic.exchange h _ _) herr
  | backgroundMode h => exact answer_of_error (Atomic.register h _) herr
  | position h => exact answer_of_error (Atomic.register h _) herr
  | moveTo h pt => exact answer_of_error (Atomic.exchange h _ _) herr
  | selected h kind => exact answer_of_error (Atomic.register h _) herr
  | createPen style width color => exact answer_of_error (Atomic.addObject _) herr
  | createBrush style color => exact answer_of_error (Atomic.addObject _) herr
  | createFont height width weight name => exact answer_of_error (Atomic.addObject _) herr
  | createBitmap heap width height planes bpp initial =>
      exact answer_of_error (Atomic.createBitmap heap width height planes bpp initial) herr
  | createCompatibleBitmap heap h width height =>
      exact answer_of_error (Atomic.createBitmap heap width height 1 8 none) herr
  | selectObject h o => exact answer_of_error (Atomic.selectObject h o) herr
  | deleteObject o => exact answer_of_error (Atomic.deleteObject o) herr
  | describe o => exact answer_of_error (Atomic.ask _) herr
  | bitmapBits o out => exact answer_of_error (Atomic.ask _) herr
  | setBitmapBits o bytes => exact answer_of_error (Atomic.setBitmapBits o bytes) herr
  | draw h g => exact answer_of_error (Atomic.perform g h) herr
  | textExtent h codes len => exact answer_of_error (Atomic.register h _) herr
  | setPixel h pt c => cases herr
  | getPixel h pt => rfl
  | renderScene heap => exact absurd rfl (hr heap)

lemma Failed.session_eq {s : Session} {r : Request} (hr : ∀ heap, r ≠ .renderScene heap)
    (hfail : r.Failed (r.perform s).1) : (r.perform s).2 = s := by
  generalize hans : (r.perform s).1 = ans at hfail
  cases hfail with
  | error e => exact session_eq_of_error hr hans
  | invalid h pt c =>
      simp only [perform] at hans
      exact Session.setPixel_of_invalid (Reply.color.inj (Except.ok.inj hans))

/-- A failed copy of the bits of a bitmap is answered by a negative number, and the memory that was
to be filled is handed back as it was. -/
lemma call_bitmapBits_of_failed {s : Session} {o : ObjectHandle} {out : ByteArray}
    (hfail : (bitmapBits o out).Failed ((bitmapBits o out).perform s).1) :
    ∃ n < 0, Gateway.call s (.bitmapBits o.code (some out)) = (.filled n out, s) := by
  have hsame := hfail.session_eq (by simp)
  simp only [perform, answer] at hfail hsame
  simp only [Gateway.call, Gateway.given]
  rcases hrun : s.perform (Display.bitmapBits o out) with ⟨e | result, s'⟩
  · rw [hrun] at hsame
    obtain rfl : s' = s := hsame
    exact ⟨e.code, e.code_neg, rfl⟩
  · rw [hrun] at hfail
    cases hfail

/-- **A failure changes nothing.**  Whatever single operation is asked of a session, in whatever
state, with whatever arguments: if the answer tells of a failure, then the session afterwards is the
session before, with all it holds.  Memory that was passed to be filled with the bits of a bitmap is
left as it was, too. -/
theorem session_eq_of_failed (s : Session) (r : Request) (hr : ∀ heap, r ≠ .renderScene heap)
    (hfail : r.Failed (r.perform s).1) :
    (r.perform s).2 = s ∧
      ∀ o out, r = .bitmapBits o out →
        ∃ n < 0, Gateway.call s (.bitmapBits o.code (some out)) = (.filled n out, s) := by
  refine ⟨hfail.session_eq hr, ?_⟩
  rintro o out rfl
  exact call_bitmapBits_of_failed hfail

/-- With one context open where one may be, a paint session is refused, and a pixel right of the
screen is not written.  A memory context is refused before that if the heap has no room left for its
two pixels. -/
theorem session_eq_of_failed_crowded :
    ∃ s, s = (Session.closed.run [.start .ample ⟨2, 1, 1, 1⟩, .openContext 7]).2 ∧
      ((Request.beginPaint 7).Failed ((Request.beginPaint 7).perform s).1 ∧
        ((Request.beginPaint 7).perform s).2 = s) ∧
      (((Request.openMemoryContext .exhausted ⟨1⟩).perform s).1 = .error (.outOfMemory 2) ∧
        ((Request.openMemoryContext .exhausted ⟨1⟩).perform s).2 = s) ∧
      (Request.setPixel ⟨1⟩ ⟨2, 0⟩ .white).Failed
          ((Request.setPixel ⟨1⟩ ⟨2, 0⟩ .white).perform s).1 ∧
        ((Request.setPixel ⟨1⟩ ⟨2, 0⟩ .white).perform s).2 = s := by
  refine ⟨_, rfl, ?_, ?_, ?_⟩
  · have hfull : (Request.beginPaint 7).Failed ((Request.beginPaint 7).perform
        (Session.closed.run [.start .ample ⟨2, 1, 1, 1⟩, .openContext 7]).2).1 :=
      .error (.capacityExceeded .contexts)
    exact ⟨hfull, (session_eq_of_failed _ _ (by simp) hfull).1⟩
  · have hstarved : (Request.openMemoryContext .exhausted ⟨1⟩).Failed
        ((Request.openMemoryContext .exhausted ⟨1⟩).perform
          (Session.closed.run [.start .ample ⟨2, 1, 1, 1⟩, .openContext 7]).2).1 :=
      .error (.outOfMemory 2)
    exact ⟨rfl, (session_eq_of_failed _ _ (by simp) hstarved).1⟩
  · have hoff : (Request.setPixel ⟨1⟩ ⟨2, 0⟩ .white).Failed
        ((Request.setPixel ⟨1⟩ ⟨2, 0⟩ .white).perform
          (Session.closed.run [.start .ample ⟨2, 1, 1, 1⟩, .openContext 7]).2).1 :=
      .invalid ⟨1⟩ ⟨2, 0⟩ .white
    exact ⟨hoff, (session_eq_of_failed _ _ (by simp) hoff).1⟩

end Request

end Paintbox

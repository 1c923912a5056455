import Paintbox.Proofs.Gateway.Encoding
import Paintbox.Proofs.Session.History
import Paintbox.Proofs.Session.Readback
import Paintbox.Proofs.Session.Sound

/-!
# Color words that tell of a failure

Calls about colors are answered by a color word, and a failure by the invalid one.  No pixel reads
as that word.  A color register, though, holds whatever word it is set to, the invalid one as well,
and the next call that sets it answers what it held.  So the setters tell a failure from a success
only as long as nobody has stored the invalid word; it does not get into a register by itself.

* `DeviceContext.Proper` — a context whose registers hold no invalid word.
* `Display.keepsProper_exchange`, `Display.keepsProper_perform`, … — what is done to a display keeps
  its contexts proper.
* `Request.Clean`, `Session.Proper` — requests that store no invalid word, and sessions that hold
  none; `Session.proper_perform` — **one clean request keeps a session proper**.
* `Call.Clean`, `Gateway.proper_call` — clean calls do so, too.
* `Session.OnPicture` — a context is live and a point lies on its picture.
* `Gateway.color_of_run` — **which calls about colors are answered by the invalid word**.
* `Gateway.color_ambiguous` — a setter that succeeds and is answered by it.
-/

namespace Paintbox

open DisplayAction Display

/-! ## Contexts without an invalid word -/

/-- Neither color register of the context holds the word that answers for a failure. -/
structure DeviceContext.Proper (dc : DeviceContext) : Prop where
  textColor : dc.textColor ≠ .invalid
  backgroundColor : dc.backgroundColor ≠ .invalid

namespace DeviceContext

lemma proper_fresh (w : UInt16) : (fresh w).Proper where
  textColor := by simp [fresh, Color.white, Color.invalid]
  backgroundColor := by simp [fresh, Color.black, Color.invalid]

/-- Registers other than the colors do not matter. -/
lemma Proper.of_eq {dc dc' : DeviceContext} (hdc : dc.Proper)
    (htext : dc'.textColor = dc.textColor) (hback : dc'.backgroundColor = dc.backgroundColor) :
    dc'.Proper where
  textColor := htext ▸ hdc.textColor
  backgroundColor := hback ▸ hdc.backgroundColor

end DeviceContext

namespace Display

/-- All contexts of the display are proper. -/
def Proper (d : Display) : Prop := d.contexts.Every DeviceContext.Proper

variable {α : Type} {d : Display}

lemma Proper.mapContext (hd : d.Proper) (h : ContextHandle) {k : DeviceContext → DeviceContext}
    (hk : ∀ dc : DeviceContext, dc.Proper → (k dc).Proper) : (d.mapContext h k).Proper :=
  Registry.Every.modify hd fun dc hdc => hk dc (hd _ _ hdc)

/-- Drawing changes pictures, and the current position at most. -/
lemma Proper.drawn (hd : d.Proper) (h : ContextHandle) (f : Pixmap → Pixmap)
    {k : DeviceContext → DeviceContext} (hk : ∀ c, ∃ position, k c = { c with position }) :
    (d.drawn h f k).Proper := by
  have hpaint : (d.paint h f).Proper := by
    rcases paint_cases d h f with ⟨p, hp⟩ | hmemory
    · rw [hp]
      exact hd
    · cases hdc : d.contexts.get? h.code with
      | none =>
          rw [paint_dead hdc]
          exact hd
      | some dc =>
          cases hmem : dc.isMemory with
          | false =>
              rw [paint_screen hdc hmem]
              exact hd
          | true =>
              rw [paint_memory hdc hmem]
              exact hd.mapContext h fun dc hdc => hdc.of_eq rfl rfl
  refine hpaint.mapContext h fun dc hdc => ?_
  obtain ⟨position, hpos⟩ := hk dc
  exact hdc.of_eq (by rw [hpos]) (by rw [hpos])

/-! ## Actions -/

lemma keepsProper_of_contexts {a : DisplayAction α} (ha : ∀ d, (a.on d).2.contexts = d.contexts) :
    Keeps Proper a := by
  intro d hd
  rw [Proper, ha]
  exact hd

lemma keepsProper_addContext {dc : DeviceContext} (hdc : dc.Proper) :
    Keeps Proper (addContext dc) := by
  intro d hd
  rw [on_addContext]
  exact Registry.Every.insert hd hdc

lemma keepsProper_openContext (w : UInt16) : Keeps Proper (openContext w) :=
  keepsProper_addContext (DeviceContext.proper_fresh w)

lemma keepsProper_closeContext (w : UInt16) (h : ContextHandle) :
    Keeps Proper (closeContext w h) := by
  intro d hd
  rw [on_closeContext]
  exact Registry.Every.release hd h.code

lemma keepsProper_openMemoryContext (heap : Heap) (reference : ContextHandle) :
    Keeps Proper (openMemoryContext heap reference) :=
  .bind (.ask _) fun _ => keepsProper_addContext ((DeviceContext.proper_fresh 0).of_eq rfl rfl)

lemma keepsProper_exchange (h : ContextHandle) (get : DeviceContext → α)
    {set : DeviceContext → DeviceContext}
    (hset : ∀ dc : DeviceContext, dc.Proper → (set dc).Proper) :
    Keeps Proper (exchange h get set) := by
  intro d hd
  rw [on_exchange]
  cases d.context h with
  | error e => exact hd
  | ok dc => exact Proper.mapContext hd h hset

lemma keepsProper_setTextColor (h : ContextHandle) {c : Color} (hc : c ≠ .invalid) :
    Keeps Proper (setTextColor h c) :=
  keepsProper_exchange h _ fun _ hdc => ⟨hc, hdc.backgroundColor⟩

lemma keepsProper_setBackgroundColor (h : ContextHandle) {c : Color} (hc : c ≠ .invalid) :
    Keeps Proper (setBackgroundColor h c) :=
  keepsProper_exchange h _ fun _ hdc => ⟨hdc.textColor, hc⟩

lemma keepsProper_setBackgroundMode (h : ContextHandle) (m : BackgroundMode) :
    Keeps Proper (setBackgroundMode h m) :=
  keepsProper_exchange h _ fun _ hdc => hdc.of_eq rfl rfl

lemma keepsProper_moveTo (h : ContextHandle) (pt : Point) : Keeps Proper (moveTo h pt) :=
  keepsProper_exchange h _ fun _ hdc => hdc.of_eq rfl rfl

lemma keepsProper_selectObject (h : ContextHandle) (o : ObjectHandle) :
    Keeps Proper (selectObject h o) :=
  .bind (.ask _) fun _ => .bind (.ask _) fun _ =>
    keepsProper_exchange h _ fun _ hdc => hdc.of_eq rfl rfl

lemma keepsProper_beginPaint (w : UInt16) : Keeps Proper (beginPaint w) :=
  .bind (keepsProper_openContext w) fun h =>
    .bind (keepsProper_exchange h _ fun _ hdc => hdc.of_eq rfl rfl) fun _ => .pure _

lemma keepsProper_addObject (object : GraphicsObject) : Keeps Proper (addObject object) :=
  keepsProper_of_contexts fun _ => rfl

lemma keepsProper_createBitmap (heap : Heap) (width height : Int16) (planes bpp : UInt8)
    (initial : Option ByteArray) :
    Keeps Proper (createBitmap heap width height planes bpp initial) :=
  .bind (.ask _) fun _ => keepsProper_addObject _

lemma keepsProper_setBitmapBits (o : ObjectHandle) (bytes : ByteArray) :
    Keeps Proper (setBitmapBits o bytes) :=
  .bind (.ask _) fun count => .bind (keepsProper_of_contexts fun _ => rfl) fun _ => .pure count

lemma keepsProper_perform (g : Drawing) (h : ContextHandle) : Keeps Proper (g.perform h) := by
  intro d hd
  rw [Drawing.on_perform]
  cases g.stroke d h with
  | error e => exact hd
  | ok f => exact Proper.drawn hd h f g.settle_eq

lemma keepsProper_writePixel (h : ContextHandle) (pt : Point) (c : Color) :
    Keeps Proper (writePixel h pt c) := by
  intro d hd
  rw [on_writePixel]
  cases d.context h with
  | error e => exact hd
  | ok dc =>
      show Proper (d.paint h _)
      rw [← drawn_id]
      exact Proper.drawn hd h _ fun c => ⟨c.position, rfl⟩

end Display

/-! ## Requests -/

/-- A request that does not set a color register to the invalid word.  The demo scene, which is no
single request and which no call stands for, is left out. -/
def Request.Clean : Request → Prop
  | .setTextColor _ c => c ≠ .invalid
  | .setBackgroundColor _ c => c ≠ .invalid
  | .renderScene _ => False
  | _ => True

namespace Session

/-- The display, if there is one, has proper contexts. -/
def Proper (s : Session) : Prop := ∀ d, s.display = some d → d.Proper

variable {s : Session}

lemma proper_closed : Proper closed := fun _ hd => nomatch hd

lemma proper_answer (hs : s.Proper) {α : Type} {a : DisplayAction α} (ha : Keeps Display.Proper a)
    (reply : α → Reply) : (Request.answer s a reply).2.Proper := by
  rcases s with ⟨_ | d⟩
  · exact proper_closed
  · rintro d' ⟨⟩
    exact ha d (hs d rfl)

/-- **One clean request keeps a session proper.** -/
lemma proper_perform (hs : s.Proper) {r : Request} (hr : r.Clean) : (r.perform s).2.Proper := by
  cases r with
  | start heap chosen =>
      simp only [Request.perform, start]
      cases hopen : Display.open heap chosen with
      | error e => exact hs
      | ok d =>
          rintro d' ⟨⟩
          rw [Display.Proper, (empty_of_open hopen).1]
          exact Registry.every_empty _ _ _
  | free => exact proper_closed
  | openContext w => exact proper_answer hs (keepsProper_openContext w) _
  | closeContext w h => exact proper_answer hs (keepsProper_closeContext w h) _
  | beginPaint w => exact proper_answer hs (keepsProper_beginPaint w) _
  | endPaint w session => exact proper_answer hs (keepsProper_closeContext w session.context) _
  | openMemoryContext heap h => exact proper_answer hs (keepsProper_openMemoryContext heap h) _
  | setTextColor h c =>
      have hc : c ≠ .invalid := hr
      exact proper_answer hs (keepsProper_setTextColor h hc) _
  | setBackgroundColor h c =>
      have hc : c ≠ .invalid := hr
      exact proper_answer hs (keepsProper_setBackgroundColor h hc) _
  | setBackgroundMode h m => exact proper_answer hs (keepsProper_setBackgroundMode h m) _
  | moveTo h pt => exact proper_answer hs (keepsProper_moveTo h pt) _
  | createPen style width color => exact proper_answer hs (keepsProper_addObject _) _
  | createBrush style color => exact proper_answer hs (keepsProper_addObject _) _
  | createFont height width weight name => exact proper_answer hs (keepsProper_addObject _) _
  | createBitmap heap width height planes bpp initial =>
      exact proper_answer hs (keepsProper_createBitmap heap width height planes bpp initial) _
  | createCompatibleBitmap heap h width height =>
      exact proper_answer hs (keepsProper_createBitmap heap width height 1 8 none) _
  | selectObject h o => exact proper_answer hs (keepsProper_selectObject h o) _
  | deleteObject o => exact proper_answer hs (keepsProper_of_contexts fun _ => rfl) _
  | setBitmapBits o bytes => exact proper_answer hs (keepsProper_setBitmapBits o bytes) _
  | draw h g => exact proper_answer hs (keepsProper_perform g h) _
  | setPixel h pt c =>
      have hsame : ((Request.setPixel h pt c).perform s).2
          = (Request.answer s (writePixel h pt c) fun _ => .done).2 := snd_setPixel s h pt c
      rw [hsame]
      exact proper_answer hs (keepsProper_writePixel h pt c) _
  | renderScene heap => exact hr.elim
  | isOpen | settings | counts | getPixel => exact hs
  | window | isPainting | textColor | backgroundColor | backgroundMode | position | selected
  | textExtent => exact proper_answer hs (Keeps.ask _) _
  | extent | describe | bitmapBits => exact proper_answer hs (Keeps.ask _) _

/-! ## Answers -/

/-- The context under the handle is live, and the point lies on its picture. -/
def OnPicture (h : ContextHandle) (pt : Point) (s : Session) : Prop :=
  ∃ d p, s = ⟨some d⟩ ∧ d.surface h = .ok p ∧ p.Contains pt.x.toInt pt.y.toInt

/-- The context under the handle is live, and a register of it holds the invalid word. -/
def HoldsInvalid (h : ContextHandle) (get : DeviceContext → Color) (s : Session) : Prop :=
  ∃ d dc, s = ⟨some d⟩ ∧ d.contexts.get? h.code = some dc ∧ get dc = .invalid

variable (s) (h : ContextHandle) (pt : Point)

lemma getPixel_eq_invalid : s.getPixel h pt = .invalid ↔ ¬ OnPicture h pt s := by
  rcases s with ⟨_ | d⟩
  · exact iff_of_true rfl fun ⟨_, _, hd, _⟩ => nomatch hd
  · cases hp : d.surface h with
    | error e =>
        refine iff_of_true (by simp only [getPixel, ask, hp]) ?_
        rintro ⟨d', p, ⟨⟩, hp', -⟩
        rw [hp] at hp'
        cases hp'
    | ok p =>
        rw [getPixel_eq_invalid_iff hp]
        refine not_congr ⟨fun hon => ⟨d, p, rfl, hp, hon⟩, ?_⟩
        rintro ⟨d', p', ⟨⟩, hp', hon⟩
        rw [hp] at hp'
        cases hp'
        exact hon

lemma setPixel_eq_invalid (c : Color) :
    (s.setPixel h pt c).1 = .invalid ↔ ¬ OnPicture h pt s := by
  rcases s with ⟨_ | d⟩
  · exact iff_of_true rfl fun ⟨_, _, hd, _⟩ => nomatch hd
  · cases hctx : d.context h with
    | error e =>
        refine iff_of_true (by simp only [setPixel, perform_some, on_writePixel, hctx]) ?_
        rintro ⟨d', p, ⟨⟩, hp, -⟩
        rw [surface, hctx] at hp
        cases hp
    | ok dc =>
        have hdc := context_eq_ok_iff.mp hctx
        have hon : OnPicture h pt ⟨some d⟩ ↔
            pt.Within (d.target dc).width (d.target dc).height := by
          constructor
          · rintro ⟨d', p, ⟨⟩, hp, hin⟩
            rw [surface_of_live hdc] at hp
            cases hp
            exact hin
          · exact fun hin => ⟨d, d.target dc, rfl, surface_of_live hdc, hin⟩
        rw [setPixel_of_live hdc, hon]
        by_cases hin : pt.Within (d.target dc).width (d.target dc).height
        · rw [if_pos hin, ← Color.ofIndex_index]
          exact iff_of_false (Color.ofIndex_ne_invalid c.index) (not_not_intro hin)
        · rw [if_neg hin]
          exact iff_of_true rfl hin

/-- What a setter answers is the invalid word also where the register held it. -/
lemma colorOf_exchange (get : DeviceContext → Color) (set : DeviceContext → DeviceContext) :
    Gateway.colorOf (s.perform (exchange h get set)).1 = .invalid ↔
      ¬ Live h s ∨ HoldsInvalid h get s := by
  rcases s with ⟨_ | d⟩
  · exact iff_of_true rfl (Or.inl fun ⟨_, _, hd, _⟩ => nomatch hd)
  · simp only [perform_some, on_exchange]
    cases hctx : d.context h with
    | error e =>
        refine iff_of_true rfl (Or.inl ?_)
        rintro ⟨d', dc, ⟨⟩, hdc⟩
        rw [context_eq_ok_iff.mpr hdc] at hctx
        cases hctx
    | ok dc =>
        have hdc := context_eq_ok_iff.mp hctx
        have hlive : Live h ⟨some d⟩ := ⟨d, dc, rfl, hdc⟩
        rw [or_iff_right (not_not_intro hlive)]
        refine ⟨fun hold => ⟨d, dc, rfl, hdc, hold⟩, ?_⟩
        rintro ⟨d', dc', ⟨⟩, hdc', hold⟩
        rw [hdc] at hdc'
        cases hdc'
        exact hold

variable {s h}

lemma Proper.not_holdsInvalid (hs : s.Proper) :
    ¬ HoldsInvalid h (·.textColor) s ∧ ¬ HoldsInvalid h (·.backgroundColor) s := by
  constructor
  · rintro ⟨d, dc, rfl, hdc, hinvalid⟩
    exact (hs d rfl _ _ hdc).textColor hinvalid
  · rintro ⟨d, dc, rfl, hdc, hinvalid⟩
    exact (hs d rfl _ _ hdc).backgroundColor hinvalid

end Session

/-! ## Calls -/

/-- A call that does not set a color to the invalid word. -/
def Call.Clean : Call → Prop
  | .setTextColor _ color => color ≠ 0xFFFFFFFF
  | .setBackgroundColor _ color => color ≠ 0xFFFFFFFF
  | _ => True

/-- What a clean call asks for is clean. -/
lemma Call.Asks.clean {c : Call} {r : Request} (hasks : c.Asks r) (hc : c.Clean) : r.Clean := by
  cases c with
  | setTextColor h color =>
      obtain rfl := hasks
      exact fun hinvalid => hc (congrArg Color.word hinvalid)
  | setBackgroundColor h color =>
      obtain rfl := hasks
      exact fun hinvalid => hc (congrArg Color.word hinvalid)
  | setBackgroundMode h mode =>
      rcases hasks with ⟨-, rfl⟩ | ⟨-, rfl⟩ <;> trivial
  | createFont _ _ _ faceName =>
      cases faceName with
      | none => cases hasks
      | some memory =>
          obtain ⟨name, -, rfl⟩ := hasks
          trivial
  | text _ _ _ memory _ | textExtent _ memory _ =>
      cases memory with
      | none => cases hasks
      | some memory =>
          obtain ⟨codes, length, -, rfl⟩ := hasks
          trivial
  | beginPaint _ block | endPaint _ block | bitmapBits _ block | setBitmapBits _ block
  | polyline _ block _ | polygon _ block _ | fillRect _ block _ | frameRect _ block _
  | invertRect _ block =>
      cases block with
      | none => cases hasks
      | some b =>
          obtain rfl := hasks
          trivial
  | isOpen => cases hasks
  | setLogLevel level => cases hasks
  | copyScreen out => cases hasks
  | _ =>
      obtain rfl := hasks
      trivial

namespace Gateway

/-- **One clean call keeps a session proper.** -/
lemma proper_call {s : Session} (hs : s.Proper) {c : Call} (hc : c.Clean) :
    (call s c).2.Proper := by
  obtain ⟨result, hcomes⟩ := Call.exists_comesTo_iff.mpr (rfl : (call s c).2 = _)
  generalize (call s c).2 = s' at hcomes
  cases hcomes with
  | refused _ => exact hs
  | read _ _ => exact hs
  | asked _ hasks => exact Session.proper_perform hs (hasks.clean hc)

/-- After clean calls only, the shared session is proper. -/
lemma proper_run {cs : List Call} (hcs : ∀ c ∈ cs, c.Clean) :
    ∀ {s : Session}, s.Proper → (run s cs).2.Proper := by
  induction cs with
  | nil => exact fun hs => hs
  | cons c cs ih =>
      rw [List.forall_mem_cons] at hcs
      exact fun hs => ih hcs.2 (proper_call hs hcs.1)

/-- **Which calls about colors are answered by the invalid word.**  After any run of calls, a pixel
that is written or read is answered so exactly if there is no such pixel, that is, without a
display, for a dead handle and off the picture.  A color that is set is answered so without a
display and for a dead handle, and besides if the register held the invalid word before.  That
happens only if it was set to it: as long as no call has done that, the invalid word says that the
call has failed. -/
theorem color_of_run {cs : List Call} {s : Session} (hrun : (run .closed cs).2 = s)
    (h : UInt16) (x y : Int16) (color : UInt32) :
    ((call s (.setPixel h x y color)).1 = .color ⟨0xFFFFFFFF⟩ ↔ ¬ s.OnPicture ⟨h⟩ ⟨x, y⟩) ∧
    ((call s (.getPixel h x y)).1 = .color ⟨0xFFFFFFFF⟩ ↔ ¬ s.OnPicture ⟨h⟩ ⟨x, y⟩) ∧
    ((call s (.setTextColor h color)).1 = .color ⟨0xFFFFFFFF⟩ ↔
      ¬ s.Live ⟨h⟩ ∨ s.HoldsInvalid ⟨h⟩ (·.textColor)) ∧
    ((call s (.setBackgroundColor h color)).1 = .color ⟨0xFFFFFFFF⟩ ↔
      ¬ s.Live ⟨h⟩ ∨ s.HoldsInvalid ⟨h⟩ (·.backgroundColor)) ∧
    ((∀ c ∈ cs, c.Clean) →
      ((call s (.setTextColor h color)).1 = .color ⟨0xFFFFFFFF⟩ ↔ ¬ s.Live ⟨h⟩) ∧
      ((call s (.setBackgroundColor h color)).1 = .color ⟨0xFFFFFFFF⟩ ↔ ¬ s.Live ⟨h⟩)) := by
  have hcolor : ∀ x y : Color, Answer.color x = Answer.color y ↔ x = y := fun x y =>
    ⟨Answer.color.inj, congrArg Answer.color⟩
  have htext := Session.colorOf_exchange s ⟨h⟩ (·.textColor) fun dc =>
    { dc with textColor := ⟨color⟩ }
  have hback := Session.colorOf_exchange s ⟨h⟩ (·.backgroundColor) fun dc =>
    { dc with backgroundColor := ⟨color⟩ }
  refine ⟨(hcolor _ _).trans (Session.setPixel_eq_invalid s ⟨h⟩ ⟨x, y⟩ ⟨color⟩),
    (hcolor _ _).trans (Session.getPixel_eq_invalid s ⟨h⟩ ⟨x, y⟩), (hcolor _ _).trans htext,
    (hcolor _ _).trans hback, fun hclean => ?_⟩
  have hproper : s.Proper := hrun ▸ proper_run hclean Session.proper_closed
  obtain ⟨hnotext, hnoback⟩ := hproper.not_holdsInvalid (h := ⟨h⟩)
  exact ⟨(hcolor _ _).trans (htext.trans (or_iff_left hnotext)),
    (hcolor _ _).trans (hback.trans (or_iff_left hnoback))⟩

/-- A text color has been set, to white: from then on the invalid word says that there is no context
under the handle, as under 2. -/
theorem color_of_run_white :
    ∃ s, (run .closed [.startWith .ample 2 1 1 1, .openContext 0, .setTextColor 1 0xFFFFFF]).2 = s ∧
      (call s (.setTextColor 1 0)).1 = .color ⟨0xFFFFFF⟩ ∧
      ((call s (.setTextColor 2 0)).1 = .color ⟨0xFFFFFFFF⟩ ↔ ¬ s.Live ⟨2⟩) := by
  have hclean : ∀ c ∈ [Call.startWith .ample 2 1 1 1, .openContext 0, .setTextColor 1 0xFFFFFF],
      c.Clean := by
    simp [Call.Clean]
  obtain ⟨-, -, -, -, hsetters⟩ := color_of_run rfl 2 0 0 0
  exact ⟨_, rfl, rfl, (hsetters hclean).1⟩

/-- **A success that reads as a failure.**  The text color of a live context is set to the invalid
word; the next setting of it succeeds, and is answered by the word that stands for a failure. -/
theorem color_ambiguous :
    ∃ s d, (run .closed [.startWith .ample 2 1 1 1, .openContext 0,
        .setTextColor 1 0xFFFFFFFF]).2 = s ∧ s.Live ⟨1⟩ ∧
      (Request.setTextColor ⟨1⟩ .black).perform s = (.ok (.color ⟨0xFFFFFFFF⟩), ⟨some d⟩) ∧
      (call s (.setTextColor 1 0)).1 = .color ⟨0xFFFFFFFF⟩ :=
  ⟨_, _, rfl, ⟨_, _, rfl, rfl⟩, rfl, rfl⟩

end Gateway

end Paintbox

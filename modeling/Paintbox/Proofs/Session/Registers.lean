import Paintbox.Proofs.Display.Registers
import Paintbox.Proofs.Session.Frame
import Paintbox.Proofs.Session.History
import Paintbox.Proofs.Session.Sound

/-!
# Registers over whole runs

Every live context carries its own registers.  What a register holds is told by the history of the
context alone: it is what the last request that set this very register of this very context has set
it to, or what it was when the context was opened.

* `Request.set?`, `Session.settings` — what a request, and a whole run, has set registers of a
  context to.
* `Setting.Tells` — registers that hold the last value that each was set to.
* `Request.opened?`, `Session.StaysLive` — the life of a context, from the request that opened it.
* `Session.HasRegisters.perform`, `Session.HasRegisters.run` — **one request sets one register at
  most, and a run sets them one after the other**.
* `Session.Shows` — what a session answers when it is asked for the registers of a context.
* **`Session.registers_of_run`** — at the end of every run these are the last settings.
-/

namespace Paintbox

open DisplayAction Display

/-! ## What has been set -/

namespace Setting

def textColor? : Setting → Option Color
  | textColor c => some c
  | _ => none

def backgroundColor? : Setting → Option Color
  | backgroundColor c => some c
  | _ => none

def backgroundMode? : Setting → Option BackgroundMode
  | backgroundMode m => some m
  | _ => none

def position? : Setting → Option Point
  | position pt => some pt
  | _ => none

def selection? (kind : ObjectKind) : Setting → Option ObjectHandle
  | selection k o => if k = kind then some o else none
  | _ => none

/-- What is in a slot after a setting. -/
lemma get_selection_apply (kind : ObjectKind) (dc : DeviceContext) (w : Setting) :
    (w.apply dc).selection.get kind = (w.selection? kind).getD (dc.selection.get kind) := by
  cases w with
  | selection k o =>
      simp only [apply, selection?, Selection.get_set, eq_comm (a := kind)]
      split_ifs <;> rfl
  | _ => rfl

/-- Settings leave the window and the mark of a paint session alone. -/
lemma window_foldl (log : List Setting) (dc : DeviceContext) :
    (log.foldl (fun dc w => w.apply dc) dc).window = dc.window ∧
      (log.foldl (fun dc w => w.apply dc) dc).painting = dc.painting := by
  induction log generalizing dc with
  | nil => exact ⟨rfl, rfl⟩
  | cons w log ih =>
      obtain ⟨hwindow, hpainting⟩ := ih (w.apply dc)
      refine ⟨hwindow.trans ?_, hpainting.trans ?_⟩ <;> cases w <;> rfl

/-- The registers of a context as a history of settings tells them. -/
structure Tells (w : UInt16) (painting : Bool) (log : List Setting) (dc : DeviceContext) :
    Prop where
  window : dc.window = w
  painting : dc.painting = painting
  textColor : dc.textColor = last textColor? .white log
  backgroundColor : dc.backgroundColor = last backgroundColor? .black log
  backgroundMode : dc.backgroundMode = last backgroundMode? .filled log
  position : dc.position = last position? ⟨0, 0⟩ log
  selection : ∀ kind, dc.selection.get kind = last (selection? kind) .null log

/-- A new context with some settings has the registers that these tell. -/
lemma tells_foldl (w : UInt16) (painting : Bool) (log : List Setting) :
    Tells w painting log (log.foldl (fun dc w => w.apply dc)
      { DeviceContext.fresh w with painting := painting }) where
  window := (window_foldl log _).1
  painting := (window_foldl log _).2
  textColor := last_foldl DeviceContext.textColor (fun _ w => by cases w <;> rfl) log _
  backgroundColor :=
    last_foldl DeviceContext.backgroundColor (fun _ w => by cases w <;> rfl) log _
  backgroundMode := last_foldl DeviceContext.backgroundMode (fun _ w => by cases w <;> rfl) log _
  position := last_foldl DeviceContext.position (fun _ w => by cases w <;> rfl) log _
  selection := by
    intro kind
    rw [last_foldl (fun dc : DeviceContext => dc.selection.get kind) (get_selection_apply kind)]
    cases kind <;> rfl

end Setting

/-- The kind of the live object under a handle. -/
def Session.kind? (s : Session) (o : ObjectHandle) : Option ObjectKind :=
  s.display.bind fun d => (d.objects.get? o.code).map (·.kind)

namespace Request

/-- What a request sets a register of the context under `h` to, if it succeeds. -/
def setting? (h : ContextHandle) (s : Session) : Request → Option Setting
  | .setTextColor g c => if g = h then some (.textColor c) else none
  | .setBackgroundColor g c => if g = h then some (.backgroundColor c) else none
  | .setBackgroundMode g m => if g = h then some (.backgroundMode m) else none
  | .moveTo g pt => if g = h then some (.position pt) else none
  | .draw g (.lineTo pt) => if g = h then some (.position pt) else none
  | .selectObject g o => if g = h then (s.kind? o).map fun kind => .selection kind o else none
  | _ => none

/-- What a request has set a register of the context under `h` to. -/
def set? (h : ContextHandle) (s : Session) (r : Request) : Option Setting :=
  if (r.perform s).1.isOk then r.setting? h s else none

/-- The context that a request has opened: its handle, its window, and whether it paints. -/
def opened? (r : Request) (answer : Except Error Reply) : Option (ContextHandle × UInt16 × Bool) :=
  match r, answer with
  | .openContext w, .ok (.context h) => some (h, w, false)
  | .openMemoryContext _ _, .ok (.context h) => some (h, 0, false)
  | .beginPaint w, .ok (.paintSession session) => some (session.context, w, true)
  | _, _ => none

end Request

namespace Session

/-- What the requests of a run have set registers of the context under `h` to, in their order. -/
def settings (h : ContextHandle) : Session → List Request → List Setting :=
  log fun s r => r.set? h s

/-- The handle is live after every request of a run. -/
def StaysLive (h : ContextHandle) : Session → List Request → Prop :=
  Along fun s r => (r.perform s).2.Live h

/-! ## One request -/

/-- The context under the handle is live and has the registers of `dc`. -/
def HasRegisters (h : ContextHandle) (dc : DeviceContext) (s : Session) : Prop :=
  ∃ d, s = ⟨some d⟩ ∧ d.HasRegisters h dc

variable {α : Type} {s : Session} {h g : ContextHandle} {dc : DeviceContext}

lemma HasRegisters.answer (hs : s.HasRegisters h dc) {a : DisplayAction α}
    (ha : Keeps (Display.HasRegisters h dc) a) (reply : α → Reply) :
    (Request.answer s a reply).2.HasRegisters h dc := by
  obtain ⟨d, rfl, hd⟩ := hs
  exact ⟨(a.on d).2, rfl, ha d hd⟩

/-- Asked for a register, a live context answers it and stays as it is. -/
lemma HasRegisters.register (hs : s.HasRegisters h dc) {get : DeviceContext → α}
    (hget : ∀ surface, get { dc with surface := surface } = get dc) (reply : α → Reply) :
    Request.answer s (register h get) reply = (.ok (reply (get dc)), s) := by
  obtain ⟨d, rfl, surface, hlive⟩ := hs
  simp only [Request.answer, perform_some, on_register, context_eq_ok_iff.mpr hlive, Except.map,
    hget]

/-- An exchange on a live context succeeds and answers what was there. -/
lemma HasRegisters.exchange (hs : s.HasRegisters h dc) {get : DeviceContext → α}
    (hget : ∀ surface, get { dc with surface := surface } = get dc) (w : Setting)
    (reply : α → Reply) :
    (Request.answer s (exchange h get w.apply) reply).1 = .ok (reply (get dc)) ∧
      (Request.answer s (exchange h get w.apply) reply).2.HasRegisters h (w.apply dc) := by
  obtain ⟨d, rfl, surface, hlive⟩ := hs
  simp only [Request.answer, perform_some, on_exchange, context_eq_ok_iff.mpr hlive, Except.map,
    hget]
  exact ⟨trivial, _, rfl, HasRegisters.set ⟨surface, hlive⟩ w⟩

/-- An exchange under any handle sets the register of that handle only. -/
lemma HasRegisters.exchange_at (hs : s.HasRegisters h dc) (g : ContextHandle)
    {get : DeviceContext → α}
    (hget : ∀ dc surface, get { dc with surface := surface } = get dc) (w : Setting)
    (reply : α → Reply) :
    (Request.answer s (Display.exchange g get w.apply) reply).2.HasRegisters h
      ((if (Request.answer s (Display.exchange g get w.apply) reply).1.isOk then
          if g = h then some w else none else none).elim dc fun w => w.apply dc) := by
  by_cases hgh : g = h
  · subst hgh
    obtain ⟨hok, hset⟩ := hs.exchange (hget dc) w reply
    rw [hok, if_pos rfl]
    exact hset
  · rw [if_neg hgh, ite_self]
    exact hs.answer (spares_exchange dc hgh get w.apply) reply

lemma HasRegisters.selectObject (hs : s.HasRegisters h dc) (g : ContextHandle) (o : ObjectHandle) :
    ((Request.selectObject g o).perform s).2.HasRegisters h
      (((Request.selectObject g o).set? h s).elim dc fun w => w.apply dc) := by
  by_cases hgh : g = h
  · subst hgh
    obtain ⟨d, rfl, surface, hlive⟩ := hs
    have hctx := context_eq_ok_iff.mpr hlive
    cases hobject : d.object o with
    | error e =>
        simp only [Request.set?, Request.perform, Request.answer, perform_some, on_selectObject,
          hctx, hobject]
        exact ⟨d, rfl, surface, hlive⟩
    | ok object =>
        have hkind : kind? ⟨some d⟩ o = some object.kind := by
          rw [kind?, Option.bind_some, object_eq_ok_iff.mp hobject, Option.map_some]
        simp only [Request.set?, Request.setting?, Request.perform, Request.answer, perform_some,
          on_selectObject, hctx, hobject, hkind]
        exact ⟨_, rfl, Display.HasRegisters.set ⟨surface, hlive⟩ (.selection object.kind o)⟩
  · rw [Request.set?, Request.setting?, if_neg hgh, ite_self]
    exact hs.answer (spares_selectObject dc hgh o) _

/-- The line from the current position moves it, whether the pen draws or not. -/
lemma HasRegisters.lineTo (hs : s.HasRegisters h dc) (g : ContextHandle) (pt : Point) :
    ((Request.draw g (.lineTo pt)).perform s).2.HasRegisters h
      (((Request.draw g (.lineTo pt)).set? h s).elim dc fun w => w.apply dc) := by
  by_cases hgh : g = h
  · subst hgh
    obtain ⟨d, rfl, surface, hlive⟩ := hs
    have hstroke : ∃ f, Drawing.stroke d g (.lineTo pt) = .ok f := by
      rw [Drawing.stroke, context_eq_ok_iff.mpr hlive]
      exact ⟨_, rfl⟩
    obtain ⟨f, hf⟩ := hstroke
    have hpaint := Display.HasRegisters.paint ⟨surface, hlive⟩ g f
    simp only [Request.set?, Request.setting?, Request.perform_draw, hf]
    exact ⟨_, rfl, hpaint.set (.position pt)⟩
  · rw [Request.set?, Request.setting?, if_neg hgh, ite_self]
    exact hs.answer (spares_perform h dc _ g fun heq => absurd heq hgh) _

/-- What is closed is live no more. -/
lemma not_live_closeContext (hs : s.HasRegisters h dc) (w : UInt16) {reply : Unit → Reply} :
    ¬ (Request.answer s (closeContext w h) reply).2.Live h := by
  obtain ⟨d, rfl, -⟩ := hs
  rintro ⟨d', dc', hd', hlive⟩
  cases hd'
  have hdead : ((closeContext w h).on d).2.contexts.get? h.code = none := by
    rw [on_closeContext, Registry.get?_release, if_pos rfl]
  cases hdead.symm.trans hlive

lemma HasRegisters.closeContext (hs : s.HasRegisters h dc) (g : ContextHandle) (w : UInt16)
    {reply : Unit → Reply} (hlive : (Request.answer s (Display.closeContext w g) reply).2.Live h) :
    (Request.answer s (Display.closeContext w g) reply).2.HasRegisters h dc := by
  by_cases hgh : g = h
  · subst hgh
    exact absurd hlive (not_live_closeContext hs w)
  · exact hs.answer (spares_closeContext dc hgh w) reply

/-- A new display has no contexts. -/
lemma not_live_start {heap : Heap} {chosen : Settings} {started : Session}
    (hstart : start heap chosen = .ok started) : ¬ started.Live h := by
  obtain ⟨d, hopen, rfl⟩ := Drawing.of_map_eq_ok hstart
  rintro ⟨d', dc', hd', hlive⟩
  cases hd'
  rw [(empty_of_open hopen).1, Registry.get?_empty] at hlive
  cases hlive

/-- **One request sets one register of a context at most**, and leaves all others alone, if the
context is still live after it. -/
lemma HasRegisters.perform (hs : s.HasRegisters h dc) (r : Request)
    (hlive : (r.perform s).2.Live h) :
    (r.perform s).2.HasRegisters h ((r.set? h s).elim dc fun w => w.apply dc) := by
  -- most requests set nothing, whatever they answer
  have hunset : r.setting? h s = none → (r.perform s).2.HasRegisters h dc →
      (r.perform s).2.HasRegisters h ((r.set? h s).elim dc fun w => w.apply dc) := by
    intro hnone hspared
    rw [Request.set?, hnone, ite_self]
    exact hspared
  cases r with
  | setTextColor g c => exact hs.exchange_at g (fun _ _ => rfl) (.textColor c) _
  | setBackgroundColor g c => exact hs.exchange_at g (fun _ _ => rfl) (.backgroundColor c) _
  | setBackgroundMode g m => exact hs.exchange_at g (fun _ _ => rfl) (.backgroundMode m) _
  | moveTo g pt => exact hs.exchange_at g (fun _ _ => rfl) (.position pt) _
  | selectObject g o => exact hs.selectObject g o
  | start heap chosen =>
      refine hunset rfl ?_
      simp only [Request.perform] at hlive ⊢
      cases hstart : start heap chosen with
      | ok started =>
          rw [hstart] at hlive
          exact absurd hlive (not_live_start hstart)
      | error e => exact hs
  | free =>
      obtain ⟨d, dc', hclosed, -⟩ := hlive
      cases hclosed
  | closeContext w g => exact hunset rfl (hs.closeContext g w hlive)
  | endPaint w session => exact hunset rfl (hs.closeContext session.context w hlive)
  | openContext w => exact hunset rfl (hs.answer (spares_addContext h dc _).keeps _)
  | beginPaint w => exact hunset rfl (hs.answer (spares_beginPaint dc w) _)
  | openMemoryContext heap g =>
      exact hunset rfl (hs.answer (spares_openMemoryContext h dc heap g).keeps _)
  | createPen style width c => exact hunset rfl (hs.answer (spares_addObject h dc _) _)
  | createBrush style c => exact hunset rfl (hs.answer (spares_addObject h dc _) _)
  | createFont height width weight name =>
      exact hunset rfl (hs.answer (spares_addObject h dc _) _)
  | createBitmap heap width height planes bpp initial =>
      exact hunset rfl (hs.answer (spares_createBitmap h dc heap width height planes bpp initial) _)
  | createCompatibleBitmap heap g width height =>
      exact hunset rfl (hs.answer (spares_createBitmap h dc heap width height 1 8 none) _)
  | deleteObject o => exact hunset rfl (hs.answer (spares_deleteObject h dc o) _)
  | setBitmapBits o bytes => exact hunset rfl (hs.answer (spares_setBitmapBits h dc o bytes) _)
  | draw g drawing =>
      cases drawing with
      | lineTo pt => exact hs.lineTo g pt
      | _ => exact hunset rfl (hs.answer (spares_perform h dc _ g fun _ => rfl) _)
  | setPixel g pt c =>
      refine hunset rfl ?_
      have hsame : ((Request.setPixel g pt c).perform s).2
          = (Request.answer s (writePixel g pt c) fun _ => .done).2 := snd_setPixel s g pt c
      rw [hsame]
      exact hs.answer (spares_writePixel h dc g pt c) _
  | renderScene heap => exact hunset rfl (hs.answer (Scene.spares_render h dc heap) _)
  | isOpen | settings | counts | getPixel => exact hunset rfl hs
  | window | isPainting | textColor | backgroundColor | backgroundMode | position | selected
  | textExtent => exact hunset rfl (hs.answer (Keeps.ask _) _)
  | extent | describe | bitmapBits => exact hunset rfl (hs.answer (Keeps.ask _) _)

/-! ## Runs -/

/-- **A run sets the registers of a context one after the other.** -/
lemma HasRegisters.run (hs : s.HasRegisters h dc) {rs : List Request} (hlive : StaysLive h s rs) :
    (s.run rs).2.HasRegisters h ((s.settings h rs).foldl (fun dc w => w.apply dc) dc) :=
  rel_run (fun _ _ r hs hlive => hs.perform r hlive) hs hlive

/-- A context that has just been opened has its initial registers. -/
lemma hasRegisters_of_opened {r : Request} {w : UInt16} {painting : Bool}
    (hopen : r.opened? (r.perform s).1 = some (h, w, painting)) :
    (r.perform s).2.HasRegisters h { DeviceContext.fresh w with painting := painting } := by
  rcases s with ⟨_ | d⟩
  · cases r <;> cases hopen
  · cases r with
    | openContext w' =>
        simp only [Request.perform, Request.answer, perform_some] at hopen ⊢
        rcases hrun : (openContext w').on d with ⟨_ | g, d'⟩
        · rw [hrun] at hopen
          cases hopen
        · rw [hrun] at hopen
          cases hopen
          exact ⟨d', rfl, none, get?_of_addContext hrun⟩
    | openMemoryContext heap reference =>
        simp only [Request.perform, Request.answer, perform_some] at hopen ⊢
        rcases hrun : (openMemoryContext heap reference).on d with ⟨_ | g, d'⟩
        · rw [hrun] at hopen
          cases hopen
        · rw [hrun] at hopen
          cases hopen
          exact ⟨d', rfl, hasRegisters_of_openMemoryContext hrun⟩
    | beginPaint w' =>
        simp only [Request.perform, Request.answer, perform_some] at hopen ⊢
        rcases hrun : (beginPaint w').on d with ⟨_ | session, d'⟩
        · rw [hrun] at hopen
          cases hopen
        · rw [hrun] at hopen
          cases hopen
          exact ⟨d', rfl, hasRegisters_of_beginPaint hrun⟩
    | _ => cases hopen

/-! ## What a session shows -/

open Setting in
/-- Asked for the registers of the context under `h`, a session answers the window and the mark that
it was opened with, and for everything else the last of the settings; a request that sets a register
answers what it held before. -/
structure Shows (h : ContextHandle) (w : UInt16) (painting : Bool) (log : List Setting)
    (s : Session) : Prop where
  window : (Request.window h).perform s = (.ok (.window w), s)
  isPainting : (Request.isPainting h).perform s = (.ok (.flag painting), s)
  textColor : (Request.textColor h).perform s = (.ok (.color (last textColor? .white log)), s)
  setTextColor : ∀ c, ((Request.setTextColor h c).perform s).1
    = .ok (.color (last textColor? .white log))
  backgroundColor : (Request.backgroundColor h).perform s
    = (.ok (.color (last backgroundColor? .black log)), s)
  setBackgroundColor : ∀ c, ((Request.setBackgroundColor h c).perform s).1
    = .ok (.color (last backgroundColor? .black log))
  backgroundMode : (Request.backgroundMode h).perform s
    = (.ok (.mode (last backgroundMode? .filled log)), s)
  setBackgroundMode : ∀ m, ((Request.setBackgroundMode h m).perform s).1
    = .ok (.mode (last backgroundMode? .filled log))
  position : (Request.position h).perform s = (.ok (.position (last position? ⟨0, 0⟩ log)), s)
  moveTo : ∀ pt, ((Request.moveTo h pt).perform s).1
    = .ok (.position (last position? ⟨0, 0⟩ log))
  selected : ∀ kind, (Request.selected h kind).perform s
    = (.ok (.object (last (selection? kind) .null log)), s)
  selectObject : ∀ o kind, s.kind? o = some kind →
    ((Request.selectObject h o).perform s).1 = .ok (.object (last (selection? kind) .null log))

/-- A live context shows what its registers hold. -/
lemma HasRegisters.shows {w : UInt16} {painting : Bool} {log : List Setting}
    (hs : s.HasRegisters h dc) (hdc : Setting.Tells w painting log dc) :
    s.Shows h w painting log where
  window := by rw [← hdc.window]; exact hs.register (fun _ => rfl) _
  isPainting := by rw [← hdc.painting]; exact hs.register (fun _ => rfl) _
  textColor := by rw [← hdc.textColor]; exact hs.register (fun _ => rfl) _
  setTextColor := fun c => by
    rw [← hdc.textColor]; exact (hs.exchange (fun _ => rfl) (.textColor c) _).1
  backgroundColor := by rw [← hdc.backgroundColor]; exact hs.register (fun _ => rfl) _
  setBackgroundColor := fun c => by
    rw [← hdc.backgroundColor]; exact (hs.exchange (fun _ => rfl) (.backgroundColor c) _).1
  backgroundMode := by rw [← hdc.backgroundMode]; exact hs.register (fun _ => rfl) _
  setBackgroundMode := fun m => by
    rw [← hdc.backgroundMode]; exact (hs.exchange (fun _ => rfl) (.backgroundMode m) _).1
  position := by rw [← hdc.position]; exact hs.register (fun _ => rfl) _
  moveTo := fun pt => by
    rw [← hdc.position]; exact (hs.exchange (fun _ => rfl) (.position pt) _).1
  selected := fun kind => by rw [← hdc.selection]; exact hs.register (fun _ => rfl) _
  selectObject := by
    intro o kind hkind
    obtain ⟨d, rfl, surface, hlive⟩ := hs
    rw [kind?, Option.bind_some, Option.map_eq_some_iff] at hkind
    obtain ⟨object, hobject, rfl⟩ := hkind
    simp only [Request.perform, Request.answer, perform_some, on_selectObject,
      context_eq_ok_iff.mpr hlive, object_eq_ok_iff.mpr hobject, Except.map, hdc.selection]

/-- **Registers hold what they were last set to.**  Whenever a context is opened and its handle then
stays live through a run of requests, the session answers at the end of the run, for every register
of the context, the last value that a request of the run has set this very register of this very
context to, or else what a new context has there.  Deleting what is selected makes no difference,
nor does a pen that draws nothing when a line is drawn.  A request that sets nothing of this context
leaves all of it as it is, whatever it does to other contexts, to objects or to pictures. -/
theorem registers_of_run {opening : Request} {w : UInt16} {painting : Bool}
    (hopen : opening.opened? (opening.perform s).1 = some (h, w, painting)) {rs : List Request}
    (hlive : StaysLive h (opening.perform s).2 rs) :
    ((opening.perform s).2.run rs).2.Shows h w painting ((opening.perform s).2.settings h rs) ∧
      ∀ r : Request, r.set? h ((opening.perform s).2.run rs).2 = none →
        (r.perform ((opening.perform s).2.run rs).2).2.Live h →
        (r.perform ((opening.perform s).2.run rs).2).2.Shows h w painting
          ((opening.perform s).2.settings h rs) := by
  have hafter := (hasRegisters_of_opened hopen).run hlive
  have htells := Setting.tells_foldl w painting ((opening.perform s).2.settings h rs)
  refine ⟨hafter.shows htells, ?_⟩
  intro r hunset hstays
  have hnext := hafter.perform r hstays
  rw [hunset] at hnext
  exact HasRegisters.shows hnext htells

/-- Two contexts, of which the first is followed.  Its pen is replaced by one that draws nothing,
with which its line is drawn before the pen is deleted; the color of the other context is not
taken for its own. -/
theorem registers_of_run_two :
    ∃ after, (closed.run [.start .ample ⟨2, 1, 2, 2⟩, .beginPaint 7, .openContext 3,
        .createPen .solid 1 ⟨1⟩, .createPen .null 1 ⟨2⟩, .selectObject ⟨1⟩ ⟨1⟩,
        .selectObject ⟨1⟩ ⟨2⟩, .setTextColor ⟨1⟩ ⟨4⟩, .setTextColor ⟨2⟩ ⟨5⟩,
        .draw ⟨1⟩ (.lineTo ⟨1, 0⟩), .deleteObject ⟨2⟩]).2 = after ∧
      (Request.isPainting ⟨1⟩).perform after = (.ok (.flag true), after) ∧
      (Request.textColor ⟨1⟩).perform after = (.ok (.color ⟨4⟩), after) ∧
      (Request.position ⟨1⟩).perform after = (.ok (.position ⟨1, 0⟩), after) ∧
      (Request.selected ⟨1⟩ .pen).perform after = (.ok (.object ⟨2⟩), after) ∧
      (Request.selected ⟨1⟩ .brush).perform after = (.ok (.object .null), after) := by
  have hopen : (Request.beginPaint 7).opened?
      ((Request.beginPaint 7).perform (closed.run [.start .ample ⟨2, 1, 2, 2⟩]).2).1
      = some (⟨1⟩, 7, true) := rfl
  have hlive : StaysLive ⟨1⟩
      ((Request.beginPaint 7).perform (closed.run [.start .ample ⟨2, 1, 2, 2⟩]).2).2
      [.openContext 3, .createPen .solid 1 ⟨1⟩, .createPen .null 1 ⟨2⟩, .selectObject ⟨1⟩ ⟨1⟩,
        .selectObject ⟨1⟩ ⟨2⟩, .setTextColor ⟨1⟩ ⟨4⟩, .setTextColor ⟨2⟩ ⟨5⟩,
        .draw ⟨1⟩ (.lineTo ⟨1, 0⟩), .deleteObject ⟨2⟩] := by
    repeat' first | exact trivial | refine ⟨⟨_, _, rfl, rfl⟩, ?_⟩
  have hshows := (registers_of_run hopen hlive).1
  exact ⟨_, rfl, hshows.isPainting, hshows.textColor, hshows.position, hshows.selected .pen,
    hshows.selected .brush⟩

end Session

end Paintbox

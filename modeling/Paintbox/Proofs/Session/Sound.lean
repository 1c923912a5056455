import Paintbox.Proofs.Display.Sound

/-!
# What is true after every run

Whatever has been asked of a session, in whatever order and with whatever answers, the display that
it holds is sound: it is the one of the last start that succeeded, and nothing asked since then has
broken what was true when it was new.

* `Scene.keeps_render` — the demo scene, too, is made of actions that keep displays sound.
* `Request.started?`, `Session.lastStarted` — the settings of the last start of a run.
* `Session.Sound` — a session whose display, if it has one, is sound for certain settings.
* `Session.sound_perform` — **one request keeps a session sound**, for the settings that it starts
  with or for those from before.
* `Session.sound_run` — and so does a run.
* `Display.Picture` — the pictures that a display holds.
* **`Session.sound_of_run`** — what is true of the display after any run from the beginning.
-/

namespace Paintbox

open DisplayAction Display

variable {chosen : Settings}

/-! ## The demo scene -/

namespace Scene

lemma keeps_checkerboard (heap : Heap) (reference : ContextHandle) :
    Keeps (Display.Sound chosen) (checkerboard heap reference) :=
  .bind (keeps_openMemoryContext heap reference) fun tiles =>
  .bind (keeps_perform (.patternTransfer _ _) tiles) fun _ =>
  .bind (keeps_perform (.patternTransfer _ _) tiles) fun _ =>
  .bind (keeps_perform (.patternTransfer _ _) tiles) fun _ => .pure tiles

/-- The steps of the scene one after the other. -/
lemma keeps_render (heap : Heap) : Keeps (Display.Sound chosen) (render heap) :=
  .bind (.ask _) fun _ =>
  .bind (keeps_openContext 1) fun dc =>
  .bind (keeps_createBrush .solid background) fun ground =>
  .bind (keeps_perform (.fillRect _ ground) dc) fun _ =>
  .bind (keeps_createPen .solid 1 outline) fun pen =>
  .bind (keeps_createBrush .solid panel) fun brush =>
  .bind (keeps_selectObject dc pen) fun _ =>
  .bind (keeps_selectObject dc brush) fun _ =>
  .bind (keeps_perform (.rectangle _) dc) fun _ =>
  .bind (keeps_perform (.ellipse _) dc) fun _ =>
  .bind (keeps_perform (.path _ true) dc) fun _ =>
  .bind (keeps_setTextColor dc accent) fun _ =>
  .bind (keeps_perform (.text _ caption none) dc) fun _ =>
  .bind (keeps_checkerboard heap dc) fun tiles =>
  .bind (keeps_perform (.stretchTransfer _ tiles _ .srcCopy) dc) fun _ =>
  .bind (keeps_closeContext 0 tiles) fun _ =>
  .bind (keeps_perform (.invertRect _) dc) fun _ =>
  .bind (keeps_createBrush .null background) fun hollow =>
  .bind (keeps_selectObject dc hollow) fun _ =>
  .bind (keeps_perform (.rectangle _) dc) fun _ =>
  .bind (keeps_closeContext 1 dc) fun _ =>
  .bind (keeps_deleteObject ground) fun _ =>
  .bind (keeps_deleteObject pen) fun _ =>
  .bind (keeps_deleteObject brush) fun _ => keeps_deleteObject hollow

end Scene

/-! ## One request -/

/-- The settings that a request has started a display with, if it is a start that succeeded. -/
def Request.started? (r : Request) (answer : Except Error Reply) : Option Settings :=
  match r with
  | .start _ chosen => answer.toOption.map fun _ => chosen
  | _ => none

namespace Session

/-- The settings of the last start of a run that succeeded, or else those from before the run. -/
def lastStarted (before : Option Settings) (s : Session) : List Request → Option Settings
  | [] => before
  | r :: rs => lastStarted ((r.started? (r.perform s).1).or before) (r.perform s).2 rs

/-- The display, if there is one, is sound for the settings. -/
def Sound (last : Option Settings) (s : Session) : Prop :=
  ∀ d, s.display = some d → ∃ chosen, last = some chosen ∧ d.Sound chosen

variable {last : Option Settings} {s : Session}

lemma sound_closed (last : Option Settings) : Sound last closed := fun _ hd => nomatch hd

lemma sound_answer (hs : s.Sound last) {α : Type} {a : DisplayAction α}
    (ha : ∀ chosen, Keeps (Display.Sound chosen) a) (reply : α → Reply) :
    (Request.answer s a reply).2.Sound last := by
  rcases s with ⟨_ | d⟩
  · exact sound_closed last
  · obtain ⟨chosen, hlast, hd⟩ := hs d rfl
    rintro d' ⟨⟩
    exact ⟨chosen, hlast, ha chosen d hd⟩

lemma snd_setPixel (s : Session) (h : ContextHandle) (pt : Point) (c : Color) :
    (s.setPixel h pt c).2 = (s.perform (writePixel h pt c)).2 := by
  rw [setPixel]
  rcases s.perform (writePixel h pt c) with ⟨_ | landed, s'⟩
  · rfl
  · cases landed <;> rfl

/-- **One request keeps a session sound.**  A start that succeeds sets new terms; everything else
keeps to those from before. -/
lemma sound_perform (hs : s.Sound last) (r : Request) :
    (r.perform s).2.Sound ((r.started? (r.perform s).1).or last) := by
  cases r with
  | start heap chosen =>
      simp only [Request.perform, start]
      cases hopen : Display.open heap chosen with
      | error e => exact hs
      | ok d =>
          rintro d' ⟨⟩
          exact ⟨chosen, rfl, sound_of_open hopen⟩
  | free => exact sound_closed last
  | openContext w => exact sound_answer hs (fun _ => keeps_openContext w) _
  | closeContext w h => exact sound_answer hs (fun _ => keeps_closeContext w h) _
  | beginPaint w => exact sound_answer hs (fun _ => keeps_beginPaint w) _
  | endPaint w session => exact sound_answer hs (fun _ => keeps_closeContext w session.context) _
  | openMemoryContext heap h => exact sound_answer hs (fun _ => keeps_openMemoryContext heap h) _
  | setTextColor h c => exact sound_answer hs (fun _ => keeps_setTextColor h c) _
  | setBackgroundColor h c => exact sound_answer hs (fun _ => keeps_setBackgroundColor h c) _
  | setBackgroundMode h m => exact sound_answer hs (fun _ => keeps_setBackgroundMode h m) _
  | moveTo h pt => exact sound_answer hs (fun _ => keeps_moveTo h pt) _
  | createPen style width color =>
      exact sound_answer hs (fun _ => keeps_createPen style width color) _
  | createBrush style color => exact sound_answer hs (fun _ => keeps_createBrush style color) _
  | createFont height width weight name =>
      exact sound_answer hs (fun _ => keeps_createFont height width weight name) _
  | createBitmap heap width height planes bpp initial =>
      exact sound_answer hs (fun _ => keeps_createBitmap heap width height planes bpp initial) _
  | createCompatibleBitmap heap h width height =>
      exact sound_answer hs (fun _ => keeps_createBitmap heap width height 1 8 none) _
  | selectObject h o => exact sound_answer hs (fun _ => keeps_selectObject h o) _
  | deleteObject o => exact sound_answer hs (fun _ => keeps_deleteObject o) _
  | setBitmapBits o bytes => exact sound_answer hs (fun _ => keeps_setBitmapBits o bytes) _
  | draw h g => exact sound_answer hs (fun _ => keeps_perform g h) _
  | setPixel h pt c =>
      have hsame : ((Request.setPixel h pt c).perform s).2
          = (Request.answer s (writePixel h pt c) fun _ => .done).2 := snd_setPixel s h pt c
      rw [hsame]
      exact sound_answer hs (fun _ => keeps_writePixel h pt c) _
  | renderScene heap => exact sound_answer hs (fun _ => Scene.keeps_render heap) _
  | isOpen | settings | counts | getPixel => exact hs
  | window | isPainting | textColor | backgroundColor | backgroundMode | position | selected
  | textExtent => exact sound_answer hs (fun _ => Keeps.ask _) _
  | extent | describe | bitmapBits => exact sound_answer hs (fun _ => Keeps.ask _) _

/-! ## Runs -/

/-- A run keeps a session sound, for the settings that it started with last. -/
lemma sound_run (hs : s.Sound last) (rs : List Request) :
    (s.run rs).2.Sound (lastStarted last s rs) := by
  induction rs generalizing s last with
  | nil => exact hs
  | cons r rs ih => exact ih (sound_perform hs r)

end Session

/-- The pictures that a display holds: the screen, the surfaces and the bitmaps. -/
inductive Display.Picture (d : Display) : Pixmap → Prop where
  | screen : Picture d d.screen
  | surface {h : UInt16} {dc : DeviceContext} {p : Pixmap} (live : d.contexts.get? h = some dc)
      (own : dc.surface = some p) : Picture d p
  | bitmap {o : UInt16} {b : Bitmap} (live : d.objects.get? o = some (.bitmap b)) :
      Picture d b.pixels

/-- Asked for the size of its picture, every context of a sound display answers the size that was
chosen for the screen. -/
lemma Request.perform_extent {d : Display} (hd : d.Sound chosen) {h : ContextHandle}
    {dc : DeviceContext} (hdc : d.contexts.get? h.code = some dc) :
    (Request.extent h).perform ⟨some d⟩
      = (.ok (.size chosen.width chosen.height), ⟨some d⟩) := by
  obtain ⟨hw, hh⟩ := hd.target hdc
  simp only [perform, answer, Session.perform_some, Display.extent, on_ask, surface_of_live hdc,
    Except.map, hw, hh]

/-- **After every run the display is sound.**  However a session was brought to hold a display, it
is the display of the last start that succeeded: the settings are the ones that were chosen then,
and they pass their check.  The screen has that size, and so has every private surface, however many
memory contexts were opened one from another; painting contexts have none.  Bitmaps keep to the
range of device coordinates, every picture has its bytes, face names fit, and no more contexts and
objects are live than were asked for, each under a handle of its own. -/
theorem Session.sound_of_run {rs : List Request} {d : Display}
    (hrun : (Session.closed.run rs).2 = ⟨some d⟩) :
    ∃ chosen, Session.lastStarted none .closed rs = some chosen ∧ d.Sound chosen ∧
      (∀ p, d.Picture p → 0 < p.width ∧ 0 < p.height ∧ p.data.size = p.width * p.height) ∧
      d.contexts.Bounded chosen.maxContexts ∧ d.objects.Bounded chosen.maxObjects ∧
      ∀ h dc, d.contexts.get? h = some dc → (Request.extent ⟨h⟩).perform ⟨some d⟩
        = (.ok (.size chosen.width chosen.height), ⟨some d⟩) := by
  obtain ⟨chosen, hlast, hd⟩ :=
    sound_run (sound_closed none) rs d (congrArg Session.display hrun)
  refine ⟨chosen, hlast, hd, ?_, ?_, ?_, ?_⟩
  · exact fun p _ => ⟨p.width_pos, p.height_pos, p.size_eq⟩
  · rw [← hd.maxContexts]
    exact d.contexts.bounded
  · rw [← hd.maxObjects]
    exact d.objects.bounded
  · exact fun h dc hdc => Request.perform_extent hd (h := ⟨h⟩) hdc

/-- A second start has chosen another size, and a third one has been refused.  A memory context
that was opened from a memory context has the size of the second start. -/
theorem Session.sound_of_run_restarted :
    ∃ d, (Session.closed.run [.start .ample ⟨4, 4, 1, 1⟩, .start .ample ⟨2, 1, 3, 2⟩,
        .start .ample ⟨0, 1, 1, 1⟩, .openMemoryContext .ample .null,
        .openMemoryContext .ample ⟨1⟩, .beginPaint 7]).2 = ⟨some d⟩ ∧
      d.Sound ⟨2, 1, 3, 2⟩ ∧ d.contexts.Bounded 3 ∧
      (Request.extent ⟨2⟩).perform ⟨some d⟩ = (.ok (.size 2 1), ⟨some d⟩) := by
  obtain ⟨d, hrun, dc, hdc⟩ : ∃ d, (Session.closed.run [.start .ample ⟨4, 4, 1, 1⟩,
        .start .ample ⟨2, 1, 3, 2⟩, .start .ample ⟨0, 1, 1, 1⟩, .openMemoryContext .ample .null,
        .openMemoryContext .ample ⟨1⟩, .beginPaint 7]).2 = ⟨some d⟩ ∧
      ∃ dc, d.contexts.get? 2 = some dc := ⟨_, rfl, _, rfl⟩
  obtain ⟨chosen, hlast, hd, -, hcontexts, -, hextent⟩ := sound_of_run hrun
  have hchosen : chosen = ⟨2, 1, 3, 2⟩ := (Option.some.inj hlast).symm
  rw [hchosen] at hd hcontexts hextent
  exact ⟨d, hrun, hd, hcontexts, hextent 2 dc hdc⟩

end Paintbox

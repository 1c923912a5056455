import Paintbox.Proofs.Display.Guests
import Paintbox.Proofs.Display.Known
import Paintbox.Proofs.Pixmap.Pixels
import Paintbox.Proofs.Session.Scene

/-!
# The picture of the demo scene

Before anything else the demo scene paints the whole screen in one color.  What it draws then goes
through a context of its own, with objects of its own, and what it copies comes from a memory
context of its own.  Nothing that was on the screen, and nothing else that is there, is left to be
seen.

* `Scene.ground`, `Scene.tiles`, `Scene.figures` — the parts of the picture.
* `Scene.picture` — **the picture of the scene**, on a screen like a given one.
* `Scene.leads_checkerboard`, `Scene.leads_render` — the steps of the scene one after the other,
  each with the picture so far.
* `Scene.ground_eq_fill`, `Scene.picture_congr` — nothing of the old picture is left, whatever its
  size.
* `Scene.screen_of_done`, `Scene.hosts_of_done`, `Scene.exists_done` — a scene that has been drawn,
  and one that will be.
* **`Session.screen_of_renderScene`** — on screens of one size all scenes look the same, and so does
  a scene that is drawn again.
-/

namespace Paintbox

open DisplayAction Display

namespace Scene

/-! ## The parts of the picture -/

/-- The screen in the color that everything else is drawn on. -/
def ground (p : Pixmap) : Pixmap :=
  p.fillBox 0 0 (side p.width).toInt (side p.height).toInt background.index

/-- The surface with the tiles, for a screen that shows `p`. -/
def tiles (p : Pixmap) : Pixmap :=
  let square := fun (corner side : Int16) (op : RasterOp) (p : Pixmap) =>
    p.patternTransfer corner.toInt corner.toInt side.toInt side.toInt op Inks.defaultBrush
  let half := tile / 2
  square half half .blackness (square 0 half .blackness (square 0 tile .whiteness (p.fill 0)))

/-- What is drawn on the ground of a screen with the given sides. -/
def figures (w h : Int16) (p : Pixmap) : Pixmap :=
  let p := p.rectangle (w / 16).toInt (h / 16).toInt (w / 2).toInt (h / 2).toInt outline.index
    panel.index
  let p := p.oval
    (.inscribed (w / 2).toInt (h / 8).toInt (w - w / 16).toInt (h / 2).toInt) outline.index
  let p := p.path
    [((w / 8).toInt, (h - h / 8).toInt), ((w / 4).toInt, (h / 2 + h / 8).toInt),
      ((w / 2 - w / 16).toInt, (h - h / 8).toInt)] outline.index true
  let p := p.text (w / 16 + 4).toInt (h / 16 + 4).toInt (Lettering.span caption none) accent.index
  let p := p.stretchTransfer (w / 2).toInt (h / 2 + h / 8).toInt (w / 4).toInt (h / 4).toInt
    (tiles p) 0 0 tile.toInt tile.toInt .srcCopy panel.index
  let p := p.invertBox (w - w / 8).toInt 0 w.toInt (h / 16).toInt
  p.rectangle 0 0 w.toInt h.toInt outline.index none

/-- The picture of the scene, drawn on a screen that shows `p`. -/
def picture (p : Pixmap) : Pixmap := figures (side p.width) (side p.height) (ground p)

/-! ## The steps of the scene -/

variable {p q : Pixmap} {cs : List (ContextHandle × DeviceContext)}
  {os : List (ObjectHandle × GraphicsObject)} {h : ContextHandle} {dc : DeviceContext}
  {heap : Heap}

/-- The surface is blank at first, and nothing is selected into its context. -/
lemma leads_checkerboard (hdc : (h, dc) ∈ cs) (hscreen : dc.surface = none) :
    Leads (Known p cs os) (checkerboard heap h) fun g =>
      Known p ((g, .onSurface (tiles p)) :: cs) os :=
  .bind (leads_openMemoryContext hdc hscreen) fun _ =>
  .bind (leads_draw_surface rfl (fun d _ => inks_of_unselected d rfl) _) fun _ =>
  .bind (leads_draw_surface rfl (fun d _ => inks_of_unselected d rfl) _) fun _ =>
  .bind (leads_draw_surface rfl (fun d _ => inks_of_unselected d rfl) _) fun _ =>
    .pure fun _ hd => hd

/-- The pen and the brush that are drawn with are known from the moment they are made. -/
lemma leads_render :
    Leads (fun d => d.screen = p) (render heap) fun _ d => d.screen = picture p :=
  
  .bind .ask fun x =>
  .assume (p := x = (side p.width, side p.height))
    (fun _ hd => hd.1 ▸ (Except.ok.inj hd.2).symm) fun hsides => hsides ▸
  .bind ((leads_addContext _).pre fun _ hd => .of_screen hd.1) fun _ =>
  .bind (leads_addObject _) fun ground =>
  .bind (leads_fillRect rfl (.head _) _) fun _ =>
  .bind (leads_addObject _) fun pen =>
  .bind (leads_addObject _) fun brush =>
  .bind (leads_selectObject (.tail _ (.head _))) fun _ =>
  .bind (leads_selectObject (.head _)) fun _ =>
  .bind (leads_draw rfl (fun _ hd => hd.inks (.tail _ (.head _)) (.head _)) _) fun _ =>
  .bind (leads_draw rfl (fun _ hd => hd.inks (.tail _ (.head _)) (.head _)) _) fun _ =>
  .bind (leads_path rfl (fun _ hd => hd.inks (.tail _ (.head _)) (.head _)) (by simp) true) fun _ =>
  .bind (leads_exchange _ _) fun _ =>
  .bind (leads_draw rfl (fun _ hd => hd.inks (.tail _ (.head _)) (.head _)) _) fun _ =>
  .bind (leads_checkerboard (.head _) rfl) fun _ =>
  -- the context that is drawn through, or closed, is the one that is listed first
  .bind ((leads_stretchTransfer rfl (fun _ hd => hd.inks (.tail _ (.head _)) (.head _)) (.head _)
    rfl _ _ _).pre fun _ hd => hd.permContexts (.swap ..)) fun _ =>
  .bind ((leads_closeContext 0).pre fun _ hd => hd.permContexts (.swap ..)) fun _ =>
  .bind (leads_draw rfl (fun _ hd => hd.inks (.tail _ (.head _)) (.head _)) _) fun _ =>
  .bind (leads_addObject _) fun hollow =>
  .bind (leads_selectObject (.head _)) fun _ =>
  .bind (leads_draw rfl (fun _ hd => hd.inks (.tail _ (.tail _ (.head _))) (.head _)) _) fun _ =>
  .bind (leads_closeContext 1) fun _ =>
  .bind (leads_deleteObject ground) fun _ =>
  .bind (leads_deleteObject pen) fun _ =>
  .bind (leads_deleteObject brush) fun _ =>
    (leads_deleteObject hollow).post fun _ _ hd => hd.screen

/-! ## The size of the screen -/

/-- A side that a screen can have is a device coordinate. -/
lemma toInt_side {n : ℕ} (hn : n ≤ Settings.maxSide) : (side n).toInt = n := by
  rw [Settings.maxSide] at hn
  rw [side, Nat.min_eq_left hn]
  exact Int16.toInt_ofNat_of_lt (by omega)

/-- The ground covers every pixel of a screen. -/
lemma ground_eq_fill (hw : p.width ≤ Settings.maxSide) (hh : p.height ≤ Settings.maxSide) :
    ground p = p.fill background.index := by
  refine Pixmap.ext_get? (Pixmap.sameSize_fillBox p _ _ _ _ _) fun x y => ?_
  rw [ground, Pixmap.get?_fillBox, toInt_side hw, toInt_side hh, Pixmap.get?_fill]
  by_cases hin : p.Contains x y
  · obtain ⟨hx, hxw, hy, hyh⟩ := hin
    rw [if_pos ⟨hx, hxw, hy, hyh⟩]
  · rw [Pixmap.get?_eq_none hin, Option.map_none, ite_self]

/-- The picture is the same on all screens of one size. -/
lemma picture_congr (hsize : q.SameSize p) (hw : p.width ≤ Settings.maxSide)
    (hh : p.height ≤ Settings.maxSide) : picture q = picture p := by
  have hfill : q.fill background.index = p.fill background.index := by
    simp only [Pixmap.fill, hsize.1, hsize.2]
  rw [picture, picture, ground_eq_fill hw hh,
    ground_eq_fill (by rwa [hsize.1]) (by rwa [hsize.2]), hfill, hsize.1, hsize.2]

/-! ## Scenes that have been drawn -/

variable {chosen : Settings} {d e : Display}

lemma perform_eq_done_iff :
    (Request.renderScene heap).perform ⟨some d⟩ = (.ok .done, ⟨some e⟩) ↔
      (render heap).on d = (.ok (), e) := by
  have hanswer : (Request.renderScene heap).perform ⟨some d⟩
      = (((render heap).on d).1.map fun _ => .done, ⟨some ((render heap).on d).2⟩) := rfl
  rw [hanswer]
  rcases (render heap).on d with ⟨_ | _, d'⟩ <;> simp [Except.map]

/-- What is on the screen after the scene. -/
lemma screen_of_done (hdone : (Request.renderScene heap).perform ⟨some d⟩ = (.ok .done, ⟨some e⟩)) :
    e.screen = picture d.screen :=
  leads_render d () e rfl (perform_eq_done_iff.mp hdone)

/-- A scene that has been drawn has found room, and has left the entries as they were. -/
lemma hosts_of_done (hd : d.Sound chosen)
    (hdone : (Request.renderScene heap).perform ⟨some d⟩ = (.ok .done, ⟨some e⟩)) :
    Hosts chosen d [] [] e ∧ d.HasRoom 2 4 ∧ heap.grants chosen.area = true := by
  have hon := perform_eq_done_iff.mp hdone
  rcases yields_render heap d (.refl hd) with ⟨_, e', hon', hleft⟩ | ⟨_, _, hfail, -⟩
  · obtain rfl : e = e' := congrArg Prod.snd (hon.symm.trans hon')
    exact hleft
  · rw [hon] at hfail
    cases hfail

/-- With room enough the scene is drawn. -/
lemma exists_done (heap : Heap) {d₀ : Display} (hd : Hosts chosen d₀ [] [] d)
    (hroom : d₀.HasRoom 2 4) (hheap : heap.grants chosen.area = true) :
    ∃ e, (Request.renderScene heap).perform ⟨some d⟩ = (.ok .done, ⟨some e⟩) := by
  rcases yields_render heap d hd with
    ⟨_, e, hon, -⟩ | ⟨_, _, -, ⟨-, hcrowded⟩ | ⟨-, hstarved⟩⟩
  · exact ⟨e, perform_eq_done_iff.mpr hon⟩
  · exact absurd hroom hcrowded
  · rw [hheap] at hstarved
    cases hstarved

end Scene

open Scene

/-- **The picture of the scene depends on the size of the screen only.**  Take a display that any
run has led to, and another one with a screen of that size.  Whatever is on the two screens, however
many entries the tables hold and could hold, whatever is selected and whichever handles come next:
if the scene is drawn on both, the screens are equal, byte for byte.  Drawn once more, with the heap
that it was drawn with, it succeeds again and leaves the same picture. -/
theorem Session.screen_of_renderScene {rs : List Request} {d d' e e' : Display}
    {heap heap' : Heap}
    (hrun : (Session.closed.run rs).2 = ⟨some d⟩) (hsize : d'.screen.SameSize d.screen)
    (hdone : (Request.renderScene heap).perform ⟨some d⟩ = (.ok .done, ⟨some e⟩))
    (hdone' : (Request.renderScene heap').perform ⟨some d'⟩ = (.ok .done, ⟨some e'⟩)) :
    e'.screen = e.screen ∧
      ∃ again, (Request.renderScene heap).perform ⟨some e⟩ = (.ok .done, ⟨some again⟩) ∧
        again.screen = e.screen := by
  obtain ⟨chosen, -, hd⟩ := sound_run (sound_closed none) rs d (congrArg Session.display hrun)
  have hvalid := (Settings.check_eq_ok_iff chosen).mp hd.valid
  have hwidth : d.screen.width ≤ Settings.maxSide :=
    Int.ofNat_le.mp (hd.screen.1.trans_le hvalid.width.2)
  have hheight : d.screen.height ≤ Settings.maxSide :=
    Int.ofNat_le.mp (hd.screen.2.trans_le hvalid.height.2)
  obtain ⟨hleft, hroom, hheap⟩ := hosts_of_done hd hdone
  obtain ⟨again, hagain⟩ := exists_done heap hleft hroom hheap
  refine ⟨?_, again, hagain, ?_⟩
  · rw [screen_of_done hdone', screen_of_done hdone]
    exact picture_congr hsize hwidth hheight
  · rw [screen_of_done hagain, screen_of_done hdone,
      picture_congr (screen_of_done hdone ▸ (hleft.restored hd).size) hwidth hheight]

/-- One display is new, and there is just room enough.  On the other one, with larger tables, a
white dot has been drawn with a context that is still there and has a brush selected; a memory
context has come and gone. -/
theorem Session.screen_of_renderScene_littered :
    ∃ d d' e e' again : Display,
      (Session.closed.run [.start .ample ⟨3, 2, 2, 4⟩]).2 = ⟨some d⟩ ∧
      (Session.closed.run [.start .ample ⟨3, 2, 5, 9⟩, .openContext 7,
        .openMemoryContext .ample .null, .closeContext 0 ⟨2⟩, .createBrush .null Scene.panel,
        .selectObject ⟨1⟩ ⟨1⟩, .draw ⟨1⟩ (.dot ⟨1, 1⟩ .white)]).2 = ⟨some d'⟩ ∧
      d'.screen ≠ d.screen ∧
      (Request.renderScene .ample).perform ⟨some d⟩ = (.ok .done, ⟨some e⟩) ∧
      (Request.renderScene .ample).perform ⟨some d'⟩ = (.ok .done, ⟨some e'⟩) ∧
      (Request.renderScene .ample).perform ⟨some e⟩ = (.ok .done, ⟨some again⟩) ∧
      e'.screen = e.screen ∧ again.screen = e.screen := by
  obtain ⟨d, d', hrun, hrun', hroom, hroom', hsize, hother⟩ : ∃ d d',
      (Session.closed.run [.start .ample ⟨3, 2, 2, 4⟩]).2 = ⟨some d⟩ ∧
      (Session.closed.run [.start .ample ⟨3, 2, 5, 9⟩, .openContext 7,
        .openMemoryContext .ample .null, .closeContext 0 ⟨2⟩, .createBrush .null Scene.panel,
        .selectObject ⟨1⟩ ⟨1⟩, .draw ⟨1⟩ (.dot ⟨1, 1⟩ .white)]).2 = ⟨some d'⟩ ∧
      d.HasRoom 2 4 ∧ d'.HasRoom 2 4 ∧ d'.screen.SameSize d.screen ∧ d'.screen ≠ d.screen :=
    ⟨_, _, rfl, rfl, by decide +kernel, by decide +kernel, ⟨rfl, rfl⟩, by decide +kernel⟩
  obtain ⟨_, -, hd⟩ := sound_run (sound_closed none) _ d (congrArg Session.display hrun)
  obtain ⟨_, -, hd'⟩ := sound_run (sound_closed none) _ d' (congrArg Session.display hrun')
  obtain ⟨e, hdone⟩ := exists_done .ample (.refl hd) hroom rfl
  obtain ⟨e', hdone'⟩ := exists_done .ample (.refl hd') hroom' rfl
  obtain ⟨hsame, again, hagain, hscreen⟩ := screen_of_renderScene hrun hsize hdone hdone'
  exact ⟨d, d', e, e', again, hrun, hrun', hother, hdone, hdone', hagain, hsame, hscreen⟩

end Paintbox

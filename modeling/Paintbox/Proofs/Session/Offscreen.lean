import Paintbox.Proofs.Pixmap.Pixels
import Paintbox.Proofs.Session.Frame
import Paintbox.Proofs.Session.History
import Paintbox.Proofs.Session.Sound
import Paintbox.Proofs.Transfer.Pixels

/-!
# Drawing off the screen

Whether one draws on the screen or on a memory context, the same pixels come out, and in the end a
copy of the whole surface brings them to the screen.  The two runs are followed side by side: at
every moment the surface of the memory context in one of them is the screen of the other.

* `Order`, `Order.through` — what can be asked of a context that draws and reads nothing else.
* `Order.exists_drawn` — **an order does the same to every context of equal registers and equal
  picture**.
* `Display.Mirrors` — how the two runs are tied.
* `Display.Mirrors.step`, `Display.Mirrors.run` — **every order keeps that tie and is answered
  alike in both runs**.
* `Display.Mirrors.copy` — the last copy makes the two screens one.
* **`Session.offscreen_eq_direct`** — the two runs from the outside.
-/

namespace Paintbox

open DisplayAction Display

/-- Something asked of a context that draws: a register is set, a pixel is written, or something is
drawn that reads no picture besides the one it changes. -/
inductive Order where
  | moveTo (pt : Point)
  | selectObject (o : ObjectHandle)
  | setTextColor (color : Color)
  | setPixel (pt : Point) (color : Color)
  | draw (drawing : Drawing) (own : drawing.source? = none)

/-- The request that asks an order of the context under a handle. -/
def Order.through (h : ContextHandle) : Order → Request
  | .moveTo pt => .moveTo h pt
  | .selectObject o => .selectObject h o
  | .setTextColor color => .setTextColor h color
  | .setPixel pt color => .setPixel h pt color
  | .draw drawing _ => .draw h drawing

/-! ## What an order does -/

/-- A change of registers that leaves the surface alone and does the same to registers that are the
same. -/
structure DeviceContext.Settling (k : DeviceContext → DeviceContext) : Prop where
  surface : ∀ c, (k c).surface = c.surface
  alike : ∀ c c', c.Alike c' → (k c).Alike (k c')

lemma DeviceContext.settling_id : Settling id := ⟨fun _ => rfl, fun _ _ hc => hc⟩

lemma DeviceContext.settling_position (pt : Point) : Settling fun c => { c with position := pt } :=
  ⟨fun _ => rfl, fun _ _ hc => ⟨rfl, hc.selection, hc.textColor⟩⟩

lemma DeviceContext.settling_textColor (color : Color) :
    Settling fun c => { c with textColor := color } :=
  ⟨fun _ => rfl, fun _ _ hc => ⟨hc.position, hc.selection, rfl⟩⟩

lemma DeviceContext.settling_selection (kind : ObjectKind) (o : ObjectHandle) :
    Settling fun c => { c with selection := c.selection.set kind o } :=
  ⟨fun _ => rfl, fun _ _ hc => ⟨hc.position, by rw [hc.selection], hc.textColor⟩⟩

lemma Drawing.settling_settle (g : Drawing) : DeviceContext.Settling g.settle := by
  cases g with
  | lineTo b => exact DeviceContext.settling_position b
  | _ => exact DeviceContext.settling_id

/-- What an order does to the picture and the registers of a live context, and what it is answered
by, is the same for every context, on whatever display, that has the same registers and the same
picture among the same objects. -/
lemma Order.exists_drawn {d : Display} {h : ContextHandle} {dc : DeviceContext} (order : Order)
    (hdc : d.contexts.get? h.code = some dc) :
    ∃ answer f k, (∀ p, (f p).SameSize p) ∧ DeviceContext.Settling k ∧
      ∀ d' h' dc', d'.contexts.get? h'.code = some dc' → d'.objects = d.objects →
        dc.Alike dc' → d'.target dc' = d.target dc →
        (order.through h').perform ⟨some d'⟩ = (answer, ⟨some (d'.drawn h' f k)⟩) := by
  have hctx := context_eq_ok_iff.mpr hdc
  cases order with
  | moveTo pt =>
      refine ⟨.ok (.position dc.position), id, _, Pixmap.SameSize.refl,
        DeviceContext.settling_position pt, ?_⟩
      intro d' h' dc' hdc' _ halike _
      rw [← halike.position]
      exact Request.answer_exchange hdc' _ _ _
  | setTextColor color =>
      refine ⟨.ok (.color dc.textColor), id, _, Pixmap.SameSize.refl,
        DeviceContext.settling_textColor color, ?_⟩
      intro d' h' dc' hdc' _ halike _
      rw [← halike.textColor]
      exact Request.answer_exchange hdc' _ _ _
  | selectObject o =>
      cases hobject : d.object o with
      | error e =>
          refine ⟨.error e, id, id, Pixmap.SameSize.refl, DeviceContext.settling_id, ?_⟩
          intro d' h' dc' hdc' hobjects _ _
          have hobject' : d'.object o = .error e := by rw [← hobject, object, hobjects, object]
          simp only [through, Request.perform, Request.answer, Session.perform_some,
            on_selectObject, context_eq_ok_iff.mpr hdc', hobject', drawn_nothing]
          rfl
      | ok object =>
          refine ⟨.ok (.object (dc.selection.get object.kind)), id, _, Pixmap.SameSize.refl,
            DeviceContext.settling_selection object.kind o, ?_⟩
          intro d' h' dc' hdc' hobjects halike _
          have hobject' : d'.object o = .ok object := by
            rw [← hobject, Display.object, hobjects, Display.object]
          simp only [through, Request.perform, Request.answer, Session.perform_some,
            on_selectObject, context_eq_ok_iff.mpr hdc', hobject', drawn, paint_id,
            halike.selection]
          rfl
  | setPixel pt color =>
      refine ⟨.ok (.color (if (d.target dc).Contains pt.x.toInt pt.y.toInt
          then .ofIndex color.index else .invalid)),
        fun p => p.put pt.x.toInt pt.y.toInt color.index, id,
        fun p => Pixmap.sameSize_put p _ _ _, DeviceContext.settling_id, ?_⟩
      intro d' h' dc' hdc' _ _ htarget
      rw [through, Request.perform_setPixel (context_eq_ok_iff.mpr hdc'), htarget]
  | draw g hown =>
      have hstroke : ∀ d' h' dc', d'.contexts.get? h'.code = some dc' → d'.objects = d.objects →
          dc.Alike dc' → g.stroke d' h' = g.stroke d h :=
        fun d' h' dc' hdc' hobjects halike =>
          g.stroke_of_alike hown hobjects hctx (context_eq_ok_iff.mpr hdc') halike
      cases hg : g.stroke d h with
      | ok f =>
          refine ⟨.ok .done, f, g.settle, Drawing.sameSize_stroke hg, g.settling_settle, ?_⟩
          intro d' h' dc' hdc' hobjects halike _
          rw [through, Request.perform_draw, hstroke d' h' dc' hdc' hobjects halike, hg]
      | error e =>
          refine ⟨.error e, id, id, Pixmap.SameSize.refl, DeviceContext.settling_id, ?_⟩
          intro d' h' dc' hdc' hobjects halike _
          rw [through, Request.perform_draw, hstroke d' h' dc' hdc' hobjects halike, hg,
            drawn_nothing]

/-! ## Two runs side by side -/

namespace Display

/-- In `a` something is drawn on the screen through `s`, in `b` off the screen through `m`: the
surface there is the screen here, and the two contexts have equal registers.  Meanwhile the screen
in `b` stays the picture `front`, and `s` stays a context on it. -/
structure Mirrors (front : Pixmap) (s m : ContextHandle) (a b : Display) : Prop where
  objects : b.objects = a.objects
  pair : ∃ x y, a.contexts.get? s.code = some x ∧ x.isMemory = false ∧
    b.contexts.get? m.code = some y ∧ y.surface = some a.screen ∧ x.Alike y
  window : ∃ z, b.contexts.get? s.code = some z ∧ z.isMemory = false
  untouched : b.screen = front
  size : a.screen.SameSize front

variable {front : Pixmap} {s m : ContextHandle} {a b : Display}

/-- A change of one kind on both sides keeps the tie. -/
lemma Mirrors.drawn (hab : Mirrors front s m a b) {f : Pixmap → Pixmap}
    (hf : ∀ p, (f p).SameSize p) {k : DeviceContext → DeviceContext}
    (hk : DeviceContext.Settling k) : Mirrors front s m (a.drawn s f k) (b.drawn m f k) := by
  obtain ⟨x, y, hx, hxmem, hy, hsurface, halike⟩ := hab.pair
  obtain ⟨z, hz, hzmem⟩ := hab.window
  have hymem : y.isMemory = true := by rw [DeviceContext.isMemory, hsurface, Option.isSome_some]
  have hsm : s ≠ m := by
    rintro rfl
    rw [hy] at hz
    cases hz
    rw [hymem] at hzmem
    cases hzmem
  have hscreen : (a.drawn s f k).screen = f a.screen := by rw [drawn_eq hx, hxmem]; rfl
  refine ⟨?_, ⟨k x, touched f k y, ?_, ?_, ?_, ?_, ?_⟩, ⟨z, ?_, hzmem⟩, ?_, ?_⟩
  · rw [drawn_eq hx, drawn_eq hy]
    exact hab.objects
  · rw [get?_drawn_self hx, touched_of_screen hxmem]
  · rw [DeviceContext.isMemory, hk.surface]
    exact hxmem
  · exact get?_drawn_self hy f k
  · rw [touched, hk.surface, hsurface, hscreen]
    rfl
  · exact hk.alike _ _ ⟨halike.position, halike.selection, halike.textColor⟩
  · rw [get?_drawn_of_ne hsm, hz]
  · rw [drawn_eq hy, hymem]
    exact hab.untouched
  · rw [hscreen]
    exact (hf a.screen).trans hab.size

/-- **Every order keeps the tie and is answered alike.** -/
lemma Mirrors.step (hab : Mirrors front s m a b) (order : Order) :
    ∃ answer a' b', (order.through s).perform ⟨some a⟩ = (answer, ⟨some a'⟩) ∧
      (order.through m).perform ⟨some b⟩ = (answer, ⟨some b'⟩) ∧ Mirrors front s m a' b' := by
  obtain ⟨x, y, hx, hxmem, hy, hsurface, halike⟩ := hab.pair
  obtain ⟨answer, f, k, hf, hk, hdrawn⟩ := order.exists_drawn hx
  have htarget : b.target y = a.target x := by
    rw [target_screen hxmem, target, hsurface, Option.getD_some]
  exact ⟨answer, a.drawn s f k, b.drawn m f k, hdrawn a s x hx rfl ⟨rfl, rfl, rfl⟩ rfl,
    hdrawn b m y hy hab.objects halike htarget, hab.drawn hf hk⟩

lemma Mirrors.run (hab : Mirrors front s m a b) (orders : List Order) :
    ∃ answers a' b',
      Session.run ⟨some a⟩ (orders.map (Order.through s)) = (answers, ⟨some a'⟩) ∧
      Session.run ⟨some b⟩ (orders.map (Order.through m)) = (answers, ⟨some b'⟩) ∧
      Mirrors front s m a' b' := by
  induction orders generalizing a b with
  | nil => exact ⟨[], a, b, rfl, rfl, hab⟩
  | cons order orders ih =>
      obtain ⟨answer, a₁, b₁, ha, hb, hab₁⟩ := hab.step order
      obtain ⟨answers, a₂, b₂, has, hbs, hab₂⟩ := ih hab₁
      refine ⟨answer :: answers, a₂, b₂, ?_, ?_, hab₂⟩
      · simp only [List.map_cons, Session.run, ha, has]
      · simp only [List.map_cons, Session.run, hb, hbs]

/-! ## The copy -/

/-- The box of the whole screen. -/
def wholeScreen (d : Display) : Box :=
  ⟨0, 0, Int16.ofNat d.screen.width, Int16.ofNat d.screen.height⟩

/-- Device coordinates reach all of the screen. -/
lemma Sound.toInt_wholeScreen {chosen : Settings} {d : Display} (hd : d.Sound chosen) :
    d.wholeScreen.width.toInt = d.screen.width ∧ d.wholeScreen.height.toInt = d.screen.height := by
  obtain ⟨hw, hh⟩ := hd.sides_le hd.screen
  rw [Settings.maxSide] at hw hh
  exact ⟨Int16.toInt_ofNat_of_lt (by omega), Int16.toInt_ofNat_of_lt (by omega)⟩

/-- A copy of a picture over all of another one of its size leaves the first one. -/
lemma transfer_srcCopy {p q : Pixmap} (hsize : q.SameSize p) (pattern : UInt8) :
    p.transfer 0 0 p.width p.height (some q) (.shift 0 0) .srcCopy pattern = q := by
  refine Pixmap.ext_get?
    ((Pixmap.sameSize_transfer p _ _ _ _ _ _ _ _).trans ⟨hsize.1.symm, hsize.2.symm⟩) fun X Y => ?_
  rw [Pixmap.get?_transfer, Mapping.locate_shift]
  by_cases hin : p.Contains X Y
  · have hcov : Covers 0 0 p.width p.height X Y := by
      obtain ⟨hX, hXw, hY, hYh⟩ := hin
      exact ⟨hX, by omega, hY, by omega⟩
    have hqin : q.Contains X Y := by rwa [Pixmap.Contains, hsize.1, hsize.2]
    rw [if_pos hcov, Pixmap.get?_eq_some hin, Option.map_some]
    simp only [RasterOp.apply, sourceByte, Option.bind_some, Int.zero_add, Int.sub_zero,
      Pixmap.get?_eq_some hqin, Option.getD_some]
  · have hqout : ¬ q.Contains X Y := by rwa [Pixmap.Contains, hsize.1, hsize.2]
    rw [Pixmap.get?_eq_none hin, Pixmap.get?_eq_none hqout]
    split_ifs <;> rfl

/-- The whole surface copied to the screen in one run makes it the screen of the other. -/
lemma Mirrors.copy (hab : Mirrors front s m a b) (box : Box) (hx : box.x = 0) (hy : box.y = 0)
    (hwidth : box.width.toInt = front.width) (hheight : box.height.toInt = front.height) :
    ∃ b', (Request.draw s (.bitTransfer box m 0 0 .srcCopy)).perform ⟨some b⟩
        = (.ok .done, ⟨some b'⟩) ∧ b'.screen = a.screen := by
  obtain ⟨x, y, -, -, hlive, hsurface, -⟩ := hab.pair
  obtain ⟨z, hz, hzmem⟩ := hab.window
  have hsource : b.source m = .ok (some a.screen) := by
    rw [source_of_live hlive, target, hsurface, Option.getD_some]
  have hstroke : Drawing.stroke b s (.bitTransfer box m 0 0 .srcCopy) = .ok fun p =>
      p.transfer 0 0 front.width front.height (some a.screen) (.shift 0 0) .srcCopy
        (b.inks z).pattern := by
    rw [Drawing.stroke, transferStroke, context_eq_ok_iff.mpr hz, hsource, ← hwidth, ← hheight, hx,
      hy]
    rfl
  refine ⟨_, by rw [Request.perform_draw, hstroke], ?_⟩
  rw [drawn_eq hz, hzmem, hab.untouched]
  exact transfer_srcCopy hab.size _

end Display

namespace Session

/-- **Drawing off the screen is drawing on it.**  Take any display that a session can hold, a live
context `s` on the screen and a live memory context `m` with the same position, the same selection
and the same text color, whose pictures have the same bytes.  Then any orders are answered through
`m` as they are through `s`, and if the surface of `m` is copied to the screen in the end, the
screen is the one that the orders through `s` leave. -/
theorem offscreen_eq_direct {rs : List Request} {d : Display}
    (hrun : (closed.run rs).2 = ⟨some d⟩) {s m : ContextHandle} {ds dm : DeviceContext}
    (hs : d.contexts.get? s.code = some ds) (hm : d.contexts.get? m.code = some dm)
    (hsmem : ds.isMemory = false) (hmmem : dm.isMemory = true) (halike : ds.Alike dm)
    (hdata : (d.target dm).data = (d.target ds).data) (orders : List Order) :
    ∃ answers direct copied,
      run ⟨some d⟩ (orders.map (Order.through s)) = (answers, ⟨some direct⟩) ∧
      run ⟨some d⟩ (orders.map (Order.through m) ++
          [.draw s (.bitTransfer d.wholeScreen m 0 0 .srcCopy)])
        = (answers ++ [.ok .done], ⟨some copied⟩) ∧
      copied.screen = direct.screen := by
  obtain ⟨chosen, -, hd⟩ := sound_run (sound_closed none) rs d (congrArg Session.display hrun)
  obtain ⟨hwidth, hheight⟩ := hd.screen
  obtain ⟨hmwidth, hmheight⟩ := hd.target hm
  -- equal bytes are equal pictures, since the surface has the size of the screen
  have htarget : d.target dm = d.screen := by
    rw [target_screen hsmem] at hdata
    exact Pixmap.ext (by omega) (by omega) hdata
  have hmirrors : Mirrors d.screen s m d d :=
    { objects := rfl
      pair := ⟨ds, dm, hs, hsmem, hm, by rw [surface_eq_target hmmem, htarget], halike⟩
      window := ⟨ds, hs, hsmem⟩
      untouched := rfl
      size := Pixmap.SameSize.refl d.screen }
  obtain ⟨answers, a', b', hdirect, hoff, hend⟩ := hmirrors.run orders
  obtain ⟨hboxw, hboxh⟩ := hd.toInt_wholeScreen
  obtain ⟨c, hcopy, hscreen⟩ := hend.copy d.wholeScreen rfl rfl hboxw hboxh
  refine ⟨answers, a', c, hdirect, ?_, hscreen⟩
  rw [run_append, hoff]
  simp only [run, hcopy]

/-- A context on the screen and a fresh memory context, on a screen of two pixels: a text color is
set, a pixel is written next to the picture and a rectangle is drawn. -/
theorem offscreen_eq_direct_of_fresh :
    ∃ d answers direct copied, (closed.run
        [.start .ample ⟨2, 1, 2, 1⟩, .openContext 7, .openMemoryContext .ample ⟨1⟩]).2 = ⟨some d⟩ ∧
      run ⟨some d⟩ ([.setTextColor (.ofIndex 3), .setPixel ⟨2, 0⟩ .white,
          .draw (.rectangle ⟨0, 0, 2, 1⟩) rfl].map (Order.through ⟨1⟩))
        = (answers, ⟨some direct⟩) ∧
      run ⟨some d⟩ ([.setTextColor (.ofIndex 3), .setPixel ⟨2, 0⟩ .white,
          .draw (.rectangle ⟨0, 0, 2, 1⟩) rfl].map (Order.through ⟨2⟩) ++
          [.draw ⟨1⟩ (.bitTransfer d.wholeScreen ⟨2⟩ 0 0 .srcCopy)])
        = (answers ++ [.ok .done], ⟨some copied⟩) ∧
      copied.screen = direct.screen := by
  obtain ⟨d, ds, dm, hrun, hs, hm, hsmem, hmmem, halike, hdata⟩ : ∃ d ds dm, (closed.run
        [.start .ample ⟨2, 1, 2, 1⟩, .openContext 7, .openMemoryContext .ample ⟨1⟩]).2 = ⟨some d⟩ ∧
      d.contexts.get? (ContextHandle.mk 1).code = some ds ∧
      d.contexts.get? (ContextHandle.mk 2).code = some dm ∧
      ds.isMemory = false ∧ dm.isMemory = true ∧ ds.Alike dm ∧
      (d.target dm).data = (d.target ds).data :=
    ⟨_, _, _, rfl, rfl, rfl, rfl, rfl, ⟨rfl, rfl, rfl⟩, rfl⟩
  obtain ⟨answers, direct, copied, hruns⟩ := offscreen_eq_direct hrun hs hm hsmem hmmem halike hdata
    [.setTextColor (.ofIndex 3), .setPixel ⟨2, 0⟩ .white, .draw (.rectangle ⟨0, 0, 2, 1⟩) rfl]
  exact ⟨d, answers, direct, copied, hrun, hruns⟩

end Session

end Paintbox

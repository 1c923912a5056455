import Paintbox.Proofs.Figure.Path
import Paintbox.Proofs.Session.Frame
import Paintbox.Proofs.Session.History

/-!
# Three ways to draw a path

A path can be drawn at once, or leg by leg from the current position.  The first way looks its
context up once, with its pen; the second one looks both up again for each leg, and the context has
changed in between, since the position has moved.  But a leg leaves the pen alone, and it starts
where the one before has ended, so in the end the pictures are the same and only the position is
not.  The third way, the closed path, is an open one that comes back.

* `Display.penByte` — what a pen draws, if it draws at all.
* `Display.Traced` — **the reference**: a display before and after a path.
* `Display.penned` — a display after some legs, and `Display.penned_penned` — after some more.
* `Request.perform_lineTo`, `Session.run_lineTo` — **one leg, and a run of them**.
* `Session.paths_agree` — all three ways.
-/

namespace Paintbox

open DisplayAction Display

/-! ## The reference -/

namespace Display

/-- The low byte of the color of the pen in a context, unless the pen is of the null style and draws
nothing; that of white if the slot holds no live pen. -/
def penByte (d : Display) (dc : DeviceContext) : Option UInt8 :=
  match d.objects.get? dc.selection.pen.code with
  | some (.pen pen) => if pen.style = .null then none else some pen.color.word.toUInt8
  | _ => some 0xFF

/-- The display `d'` is `d` after a path through the points has been drawn with the pen of the
context `dc` under `h`, which is at `pt` then. -/
structure Traced (d d' : Display) (h : ContextHandle) (dc : DeviceContext)
    (points : List (ℤ × ℤ)) (pt : Point) : Prop where
  /-- Nothing has changed but the picture of the context, which keeps its size, and its position. -/
  frame : d.Confined d' h dc True
  pixels : ∃ p, d'.surface h = .ok p ∧ ∀ X Y, p.get? X Y =
    if (X, Y) ∈ (Pixmap.legs points).flatMap Segment.points then
      ((d.target dc).get? X Y).map fun old => (d.penByte dc).getD old
    else (d.target dc).get? X Y
  position : (d'.context h).map (·.position) = .ok pt

variable {d : Display} {h : ContextHandle} {dc : DeviceContext}

lemma pen_eq_penByte (d : Display) (dc : DeviceContext) : (d.inks dc).pen = d.penByte dc := by
  simp only [inks, penByte, pen?]
  cases d.objects.get? dc.selection.pen.code with
  | none => rfl
  | some object => cases object <;> rfl

/-! ## Legs -/

/-- The display after a picture has been changed by `f` and the position of its context has moved
to `pt`. -/
def penned (d : Display) (h : ContextHandle) (f : Pixmap → Pixmap) (pt : Point) : Display :=
  d.drawn h f fun c => { c with position := pt }

lemma get?_penned (hdc : d.contexts.get? h.code = some dc) (f : Pixmap → Pixmap) (pt : Point) :
    (d.penned h f pt).contexts.get? h.code
      = some { dc with surface := dc.surface.map f, position := pt } :=
  get?_drawn_self hdc f _

/-- A change and a move after another one: of the moves the last one counts. -/
lemma penned_penned (hdc : d.contexts.get? h.code = some dc) (f g : Pixmap → Pixmap)
    (a b : Point) : (d.penned h f a).penned h g b = d.penned h (g ∘ f) b := by
  have hlive := get?_penned hdc f a
  have hmemory : DeviceContext.isMemory { dc with surface := dc.surface.map f, position := a }
      = dc.isMemory := Option.isSome_map
  rw [penned, drawn_eq hlive, penned, drawn_eq hdc, penned, drawn_eq hdc, Registry.modify_modify,
    hmemory]
  congr 1
  · split_ifs <;> rfl
  · congr 1
    funext c
    simp only [touched, Function.comp_apply, Option.map_map]

/-- A change without a move. -/
lemma penned_here (hdc : d.contexts.get? h.code = some dc) (f : Pixmap → Pixmap) :
    d.penned h f dc.position = d.paint h f := by
  have hlive := get?_paint_self hdc f
  have hstays : (d.paint h f).contexts.modify h.code (fun c => { c with position := dc.position })
      = (d.paint h f).contexts.modify h.code id := Registry.modify_congr _ hlive rfl
  rw [penned, drawn, mapContext, hstays]
  exact mapContext_id (d.paint h f) h

/-- The position does not matter for the picture. -/
lemma surface_penned (hdc : d.contexts.get? h.code = some dc) (f : Pixmap → Pixmap) (pt : Point) :
    (d.penned h f pt).surface h = .ok (f (d.target dc)) := by
  rw [surface_of_live (get?_penned hdc f pt)]
  exact congrArg Except.ok (target_paint hdc f)

/-- The pen is the same after a leg. -/
lemma pen_penned (d : Display) (h : ContextHandle) (f : Pixmap → Pixmap) (pt : Point)
    (dc : DeviceContext) (surface : Option Pixmap) :
    ((d.penned h f pt).inks { dc with surface, position := pt }).pen = (d.inks dc).pen := by
  have hobjects : (d.penned h f pt).objects = d.objects := objects_drawn d h f _
  rw [Drawing.inks_of_objects hobjects]
  rfl

/-- What a path in the color of a pen does to a picture. -/
def pathStroke (pen : Option UInt8) (points : List Point) : Pixmap → Pixmap :=
  inked pen fun v p => p.path (points.map Point.toPlane) v false

lemma pathStroke_none (points : List Point) : pathStroke none points = id := rfl

lemma pathStroke_some (v : UInt8) (points : List Point) (p : Pixmap) :
    pathStroke (some v) points p = p.path (points.map Point.toPlane) v false := rfl

lemma pathStroke_singleton (pen : Option UInt8) (a : Point) : pathStroke pen [a] = id := by
  cases pen with
  | none => rfl
  | some v =>
      funext p
      exact p.path_singleton v a.toPlane

/-- A path is its first leg and the rest. -/
lemma pathStroke_cons_cons (pen : Option UInt8) (a b : Point) (rest : List Point) :
    pathStroke pen (b :: rest) ∘ inked pen (fun v p => p.line (segment a b) v)
      = pathStroke pen (a :: b :: rest) := by
  cases pen with
  | none =>
      rw [pathStroke_none, pathStroke_none]
      rfl
  | some v =>
      funext p
      rw [pathStroke_some, List.map_cons, List.map_cons, Pixmap.path_cons_cons]
      rfl

lemma get?_pathStroke (pen : Option UInt8) (points : List Point) (p : Pixmap) (X Y : ℤ) :
    (pathStroke pen points p).get? X Y
      = if (X, Y) ∈ (Pixmap.legs (points.map Point.toPlane)).flatMap Segment.points then
          (p.get? X Y).map fun old => pen.getD old
        else p.get? X Y := by
  cases pen with
  | none => simp only [pathStroke_none, Option.getD_none, Option.map_id', ite_self, id_eq]
  | some v => exact Pixmap.get?_path p v _ X Y

lemma sameSize_pathStroke (pen : Option UInt8) (points : List Point) (p : Pixmap) :
    (pathStroke pen points p).SameSize p :=
  Drawing.sameSize_inked (fun v p => Pixmap.sameSize_path p _ v false) p

/-- A path drawn on the picture of a context is the reference, wherever its position is then. -/
lemma traced_penned (hdc : d.contexts.get? h.code = some dc) (points : List Point) (pt : Point) :
    d.Traced (d.penned h (pathStroke (d.inks dc).pen points) pt) h dc (points.map Point.toPlane)
      pt where
  frame := confined_drawn hdc (sameSize_pathStroke _ points) (fun c => ⟨pt, rfl⟩)
    fun hstays => absurd trivial hstays
  pixels := by
    refine ⟨_, surface_penned hdc _ pt, fun X Y => ?_⟩
    rw [get?_pathStroke, pen_eq_penByte]
  position := by
    rw [context_eq_ok_iff.mpr (get?_penned hdc _ pt)]
    rfl

end Display

/-! ## Requests -/

variable {d : Display} {h : ContextHandle} {dc : DeviceContext}

namespace Request

lemma perform_moveTo (hdc : d.contexts.get? h.code = some dc) (pt : Point) :
    (Request.moveTo h pt).perform ⟨some d⟩
      = (.ok (.position dc.position), ⟨some (d.penned h id pt)⟩) :=
  answer_exchange hdc _ _ _

/-- One leg, with the pen and from the position that the context has then. -/
lemma perform_lineTo (hdc : d.contexts.get? h.code = some dc) (pt : Point) :
    (Request.draw h (.lineTo pt)).perform ⟨some d⟩
      = (.ok .done, ⟨some (d.penned h
          (inked (d.inks dc).pen fun v p => p.line (segment dc.position pt) v) pt)⟩) := by
  rw [perform_draw, Drawing.stroke, context_eq_ok_iff.mpr hdc]
  rfl

lemma perform_path (hdc : d.contexts.get? h.code = some dc) {points : List Point}
    (htwo : 2 ≤ points.length) :
    (Request.draw h (.path points false)).perform ⟨some d⟩
      = (.ok .done, ⟨some (d.paint h (pathStroke (d.inks dc).pen points))⟩) := by
  rw [perform_draw, Drawing.stroke, if_neg (not_lt.mpr htwo), context_eq_ok_iff.mpr hdc]
  simp only [Except.map, Drawing.settle, drawn_id]
  rfl

/-- A closed path is answered as the open one that comes back to its first point, and does the
same. -/
lemma perform_path_closed (d : Display) (h : ContextHandle) (a : Point) {rest : List Point}
    (hrest : rest ≠ []) :
    (Request.draw h (.path (a :: rest) true)).perform ⟨some d⟩
      = (Request.draw h (.path (a :: rest ++ [a]) false)).perform ⟨some d⟩ := by
  have hlength : 0 < rest.length := List.length_pos_of_ne_nil hrest
  have hstroke : (Drawing.path (a :: rest) true).stroke d h
      = (Drawing.path (a :: rest ++ [a]) false).stroke d h := by
    rw [Drawing.stroke, Drawing.stroke, if_neg (by rw [List.length_cons]; omega),
      if_neg (by rw [List.length_append, List.length_cons]; omega)]
    simp only [List.map_append, List.map_cons, List.map_nil, Pixmap.path_closed]
  rw [perform_draw, perform_draw, hstroke]
  rfl

end Request

namespace Session

/-- **A run of legs** draws the path from the position of the context, and ends at the last point.
Each leg finds the same pen, and the position that the one before has left. -/
lemma run_lineTo (hdc : d.contexts.get? h.code = some dc) (stops : List Point) :
    run ⟨some d⟩ (stops.map fun pt => .draw h (.lineTo pt))
      = (stops.map fun _ => .ok .done,
        ⟨some (d.penned h (pathStroke (d.inks dc).pen (dc.position :: stops))
          (stops.getLastD dc.position))⟩) := by
  induction stops generalizing d dc with
  | nil => rw [pathStroke_singleton, List.getLastD_nil, penned_here hdc, paint_id]; rfl
  | cons pt stops ih =>
      have hnext := get?_penned hdc
        (inked (d.inks dc).pen fun v p => p.line (segment dc.position pt) v) pt
      simp only [List.map_cons, run, Request.perform_lineTo hdc, ih hnext, pen_penned,
        penned_penned hdc, pathStroke_cons_cons, List.getLastD_cons]

/-- **Three ways to draw a path.**  Take a live context of any display, and a path of two points or
more.  The path drawn at once, and the one drawn leg by leg after a move to its first point, are
both answered, and leave the same picture behind.  It is the old one with the pixels of all legs in
the color of the pen, or the old one itself if the pen is of the null style.  Nothing else changes
but the position: leg by leg it comes to the last point, at once it stays.  The closed path is
answered as the open one that comes back to its first point, and leaves the same display.  On any
picture a path may be cut at any of its points. -/
theorem paths_agree (hdc : d.contexts.get? h.code = some dc) (start : Point) {stops : List Point}
    (hstops : stops ≠ []) :
    ∃ drawn moved,
      (Request.draw h (.path (start :: stops) false)).perform ⟨some d⟩
        = (.ok .done, ⟨some drawn⟩) ∧
      run ⟨some d⟩ (.moveTo h start :: stops.map fun pt => .draw h (.lineTo pt))
        = (.ok (.position dc.position) :: stops.map fun _ => .ok .done, ⟨some moved⟩) ∧
      moved.surface h = drawn.surface h ∧
      moved = drawn.mapContext h (fun c => { c with position := stops.getLast hstops }) ∧
      d.Traced drawn h dc ((start :: stops).map Point.toPlane) dc.position ∧
      d.Traced moved h dc ((start :: stops).map Point.toPlane) (stops.getLast hstops) ∧
      (Request.draw h (.path (start :: stops) true)).perform ⟨some d⟩
        = (Request.draw h (.path (start :: stops ++ [start]) false)).perform ⟨some d⟩ ∧
      ∀ (p : Pixmap) (xs : List (ℤ × ℤ)) (q : ℤ × ℤ) (ys : List (ℤ × ℤ)) (v : UInt8),
        p.path (xs ++ [q] ++ ys) v false
          = (p.path (xs ++ [q]) v false).path ([q] ++ ys) v false := by
  have hlength : 0 < stops.length := List.length_pos_of_ne_nil hstops
  have htwo : 2 ≤ (start :: stops).length := by rw [List.length_cons]; omega
  have hlast : stops.getLastD start = stops.getLast hstops := by
    rw [← List.getLast_eq_getLastD (List.cons_ne_nil start stops), List.getLast_cons hstops]
  have hpath := Request.perform_path hdc htwo
  rw [← penned_here hdc] at hpath
  -- the legs begin on the display after the move, on which `start` is the position
  have hlegs := run_lineTo (get?_penned hdc id start) stops
  rw [pen_penned, penned_penned hdc, Function.comp_id, hlast] at hlegs
  refine ⟨_, _, hpath, ?_, ?_, ?_, traced_penned hdc _ _, traced_penned hdc _ _,
    Request.perform_path_closed d h start hstops, fun p xs q ys v => ?_⟩
  · simp only [run, Request.perform_moveTo hdc, hlegs]
  · rw [surface_penned hdc, surface_penned hdc]
  · rw [penned_here hdc]
    rfl
  · rw [List.append_assoc]
    exact p.path_append v xs q ys

/-- On a surface of four by four the pen of the context has been deleted.  The path leaves the
surface, comes back and stays at a point for one leg. -/
theorem paths_agree_of_stalePen :
    ∃ d dc drawn moved, (closed.run [.start .ample ⟨4, 4, 1, 1⟩, .openContext 7,
          .createPen .null 1 .white, .selectObject ⟨1⟩ ⟨1⟩, .deleteObject ⟨1⟩]).2 = ⟨some d⟩ ∧
      d.contexts.get? (ContextHandle.mk 1).code = some dc ∧ d.pen? dc.selection.pen = none ∧
      (Request.draw ⟨1⟩ (.path [⟨1, 1⟩, ⟨5, -1⟩, ⟨2, 2⟩, ⟨2, 2⟩] false)).perform ⟨some d⟩
        = (.ok .done, ⟨some drawn⟩) ∧
      run ⟨some d⟩ [.moveTo ⟨1⟩ ⟨1, 1⟩, .draw ⟨1⟩ (.lineTo ⟨5, -1⟩), .draw ⟨1⟩ (.lineTo ⟨2, 2⟩),
          .draw ⟨1⟩ (.lineTo ⟨2, 2⟩)]
        = ([.ok (.position ⟨0, 0⟩), .ok .done, .ok .done, .ok .done], ⟨some moved⟩) ∧
      moved.surface ⟨1⟩ = drawn.surface ⟨1⟩ ∧
      (moved.context ⟨1⟩).map (·.position) = .ok ⟨2, 2⟩ := by
  obtain ⟨d, dc, hrun, hdc, hstale, horigin⟩ : ∃ d dc, (closed.run [.start .ample ⟨4, 4, 1, 1⟩,
        .openContext 7, .createPen .null 1 .white, .selectObject ⟨1⟩ ⟨1⟩,
        .deleteObject ⟨1⟩]).2 = ⟨some d⟩ ∧
      d.contexts.get? (ContextHandle.mk 1).code = some dc ∧ d.pen? dc.selection.pen = none ∧
      dc.position = ⟨0, 0⟩ :=
    ⟨_, _, rfl, rfl, rfl, rfl⟩
  obtain ⟨drawn, moved, hpath, hlegs, hsame, -, -, htraced, -⟩ :=
    paths_agree hdc ⟨1, 1⟩ (List.cons_ne_nil ⟨5, -1⟩ [⟨2, 2⟩, ⟨2, 2⟩])
  rw [horigin] at hlegs
  exact ⟨d, dc, drawn, moved, hrun, hdc, hstale, hpath, hlegs, hsame, htraced.position⟩

end Session

end Paintbox

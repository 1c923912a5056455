import Paintbox.Proofs.Pixmap.Pixels
import Paintbox.Proofs.Transfer.Pixels

/-!
# Clipping is not seen

To draw on a small picture is to draw on a larger one and cut the small one out of it.  Every way to
draw clips in a way of its own: points are dropped one by one, boxes are cut off at the edges, text
stops at the first cell right of the picture, and a transfer samples the visible part of its box
only.  But each of them changes a pixel by a function of its place and its value that does not
depend on the picture, and this is all that is needed.

* `Pixmap.Pointwise` — such a change; closed under doing one after the other (`Pointwise.comp`).
* `Routine`, `Routine.apply` — the ways to draw on a picture, with their arguments.
* `Routine.pointwise_apply` — **every routine is pointwise**.
* `Pixmap.CropOf` — a picture that is the top left part of another.
* `Routine.cropOf_apply` — so it stays the top left part.
-/

namespace Paintbox

namespace Pixmap

/-! ## Pointwise changes -/

/-- Every pixel is changed by a function of its place and its value, the same on every picture. -/
def Pointwise (f : Pixmap → Pixmap) : Prop :=
  ∃ change : Int → Int → UInt8 → UInt8, ∀ p x y,
    (f p).get? x y = (p.get? x y).map (change x y)

lemma Pointwise.id : Pointwise id := ⟨fun _ _ v => v, fun p x y => by simp⟩

lemma Pointwise.comp {f g : Pixmap → Pixmap} (hg : Pointwise g) (hf : Pointwise f) :
    Pointwise (g ∘ f) := by
  obtain ⟨φ, hφ⟩ := hf
  obtain ⟨ψ, hψ⟩ := hg
  refine ⟨fun x y => ψ x y ∘ φ x y, fun p x y => ?_⟩
  rw [Function.comp_apply, hψ, hφ, Option.map_map]

/-- A change of the pixels at certain places, told apart on the whole plane. -/
lemma Pointwise.of_ite {f : Pixmap → Pixmap} (P : Int → Int → Prop) [∀ x y, Decidable (P x y)]
    (change : Int → Int → UInt8 → UInt8)
    (hf : ∀ p x y, (f p).get? x y
      = if P x y then (p.get? x y).map (change x y) else p.get? x y) : Pointwise f := by
  refine ⟨fun x y => if P x y then change x y else fun v => v, fun p x y => ?_⟩
  by_cases hhere : P x y
  · simp only [hf, if_pos hhere]
  · simp only [hf, if_neg hhere, Option.map_id']

lemma pointwise_put (x y : Int) (v : UInt8) : Pointwise fun p => p.put x y v := by
  refine .of_ite (fun X Y => X = x ∧ Y = y) (fun _ _ _ => v) fun p X Y => ?_
  rw [get?_put]
  split_ifs with hhere
  · rw [hhere.1, hhere.2]
  · rfl

lemma pointwise_lines (segments : List Segment) (v : UInt8) :
    Pointwise fun p => p.lines segments v :=
  .of_ite _ _ fun p x y => get?_lines p segments v x y

lemma pointwise_fillBox (left top right bottom : Int) (v : UInt8) :
    Pointwise fun p => p.fillBox left top right bottom v :=
  .of_ite _ _ fun p x y => get?_fillBox p left top right bottom v x y

lemma pointwise_frameBox (left top right bottom : Int) (v : UInt8) :
    Pointwise fun p => p.frameBox left top right bottom v := by
  unfold frameBox
  split_ifs
  · exact .id
  · exact pointwise_lines _ v

/-- The interior first, then the outline, and either of them may be left out. -/
lemma pointwise_rectangle (left top right bottom : Int) (pen brush : Option UInt8) :
    Pointwise fun p => p.rectangle left top right bottom pen brush := by
  cases brush with
  | none =>
      cases pen with
      | none => exact .id
      | some v => exact pointwise_lines _ v
  | some w =>
      have hfill := pointwise_fillBox (left + 1) (top + 1) (right - 1) (bottom - 1) w
      cases pen with
      | none => exact hfill
      | some v => exact (pointwise_lines (sides left top right bottom) v).comp hfill

lemma pointwise_transfer (x y w h : Int) (source : Option Pixmap) (m : Mapping) (op : RasterOp)
    (pattern : UInt8) : Pointwise fun p => p.transfer x y w h source m op pattern :=
  .of_ite _ _ fun p X Y => get?_transfer p x y w h source m op pattern X Y

end Pixmap

/-! ## The ways to draw -/

/-- A way to draw on a picture, with its arguments.  Device coordinates are among the integers. -/
inductive Routine where
  | dot (x y : Int) (v : UInt8)
  | line (x0 y0 x1 y1 : Int) (v : UInt8)
  | fillBox (left top right bottom : Int) (v : UInt8)
  | frameBox (left top right bottom : Int) (v : UInt8)
  | invertBox (left top right bottom : Int)
  | rectangle (left top right bottom : Int) (pen brush : Option UInt8)
  | ellipse (left top right bottom : Int) (v : UInt8)
  | path (points : List (Int × Int)) (v : UInt8) (closed : Bool)
  | text (x y : Int) (codes : List UInt8) (v : UInt8)
  | bitTransfer (x y w h : Int) (source : Option Pixmap) (sx sy : Int) (op : RasterOp)
      (pattern : UInt8)
  | stretchTransfer (x y w h : Int) (source : Option Pixmap) (sx sy sw sh : Int) (op : RasterOp)
      (pattern : UInt8)
  | patternTransfer (x y w h : Int) (op : RasterOp) (pattern : UInt8)

namespace Routine

def apply : Routine → Pixmap → Pixmap
  | .dot x y v, p => p.put x y v
  | .line x0 y0 x1 y1 v, p => p.line ⟨x0, y0, x1, y1⟩ v
  | .fillBox left top right bottom v, p => p.fillBox left top right bottom v
  | .frameBox left top right bottom v, p => p.frameBox left top right bottom v
  | .invertBox left top right bottom, p => p.invertBox left top right bottom
  | .rectangle left top right bottom pen brush, p => p.rectangle left top right bottom pen brush
  | .ellipse left top right bottom v, p => p.oval (.inscribed left top right bottom) v
  | .path points v closed, p => p.path points v closed
  | .text x y codes v, p => p.text x y codes v
  | .bitTransfer x y w h source sx sy op pattern, p =>
      p.bitTransfer x y w h source sx sy op pattern
  | .stretchTransfer x y w h source sx sy sw sh op pattern, p =>
      p.stretchTransfer x y w h source sx sy sw sh op pattern
  | .patternTransfer x y w h op pattern, p => p.patternTransfer x y w h op pattern

/-- Every routine changes a pixel by a function of its place and its value. -/
lemma pointwise_apply (r : Routine) : Pixmap.Pointwise r.apply := by
  cases r with
  | dot x y v => exact Pixmap.pointwise_put x y v
  | line x0 y0 x1 y1 v => exact .of_ite _ _ fun p x y => p.get?_line ⟨x0, y0, x1, y1⟩ v x y
  | fillBox left top right bottom v => exact Pixmap.pointwise_fillBox left top right bottom v
  | frameBox left top right bottom v => exact Pixmap.pointwise_frameBox left top right bottom v
  | invertBox left top right bottom =>
      exact .of_ite _ _ fun p x y => p.get?_invertBox left top right bottom x y
  | rectangle left top right bottom pen brush =>
      exact Pixmap.pointwise_rectangle left top right bottom pen brush
  | ellipse left top right bottom v =>
      exact .of_ite _ _ fun p x y => p.get?_oval (.inscribed left top right bottom) v x y
  | path points v closed =>
      obtain ⟨change, hchange⟩ := Pixmap.pointwise_lines (Pixmap.pathSegments points closed) v
      refine ⟨change, fun p x y => ?_⟩
      rw [apply, Pixmap.path_eq_lines]
      exact hchange p x y
  | text x y codes v => exact .of_ite _ _ fun p X Y => Pixmap.get?_text y v X Y codes p x
  | bitTransfer x y w h source sx sy op pattern =>
      exact Pixmap.pointwise_transfer x y w h source _ op pattern
  | stretchTransfer x y w h source sx sy sw sh op pattern =>
      exact Pixmap.pointwise_transfer x y w h source _ op pattern
  | patternTransfer x y w h op pattern =>
      exact Pixmap.pointwise_transfer x y w h none _ op pattern

lemma sameSize_apply (r : Routine) (p : Pixmap) : (r.apply p).SameSize p := by
  cases r with
  | dot x y v => exact Pixmap.sameSize_put p x y v
  | line x0 y0 x1 y1 v => exact Pixmap.sameSize_line p _ v
  | fillBox left top right bottom v => exact Pixmap.sameSize_fillBox p _ _ _ _ v
  | frameBox left top right bottom v => exact Pixmap.sameSize_frameBox p _ _ _ _ v
  | invertBox left top right bottom => exact Pixmap.sameSize_invertBox p _ _ _ _
  | rectangle left top right bottom pen brush =>
      exact Pixmap.sameSize_rectangle p _ _ _ _ pen brush
  | ellipse left top right bottom v => exact Pixmap.sameSize_oval p _ v
  | path points v closed => exact Pixmap.sameSize_path p points v closed
  | text x y codes v => exact Pixmap.sameSize_text codes v y p x
  | bitTransfer x y w h source sx sy op pattern =>
      exact Pixmap.sameSize_transfer p x y w h source _ op pattern
  | stretchTransfer x y w h source sx sy sw sh op pattern =>
      exact Pixmap.sameSize_transfer p x y w h source _ op pattern
  | patternTransfer x y w h op pattern =>
      exact Pixmap.sameSize_transfer p x y w h none _ op pattern

end Routine

/-! ## Parts of pictures -/

/-- The picture `a` is the top left part of `b`. -/
structure Pixmap.CropOf (a b : Pixmap) : Prop where
  width_le : a.width ≤ b.width
  height_le : a.height ≤ b.height
  get?_eq : ∀ x y, a.Contains x y → a.get? x y = b.get? x y

/-- A pointwise change that keeps sizes keeps one picture a part of another. -/
lemma Pixmap.CropOf.map {a b : Pixmap} (h : a.CropOf b) {f : Pixmap → Pixmap} (hf : Pointwise f)
    (hsize : ∀ p, (f p).SameSize p) : (f a).CropOf (f b) where
  width_le := by rw [(hsize a).1, (hsize b).1]; exact h.width_le
  height_le := by rw [(hsize a).2, (hsize b).2]; exact h.height_le
  get?_eq := by
    intro x y hin
    obtain ⟨change, hchange⟩ := hf
    rw [Contains, (hsize a).1, (hsize a).2] at hin
    rw [hchange, hchange, h.get?_eq x y hin]

namespace Routine

/-- **Clipping is not seen.**  If one picture is the top left part of another and the same is drawn
on both, in the part, across its edges or outside of it, then the sizes stay and the one picture is
still the top left part of the other. -/
theorem cropOf_apply (r : Routine) {a b : Pixmap} (h : a.CropOf b) :
    (r.apply a).SameSize a ∧ (r.apply b).SameSize b ∧ (r.apply a).CropOf (r.apply b) :=
  ⟨r.sameSize_apply a, r.sameSize_apply b, h.map r.pointwise_apply r.sameSize_apply⟩

end Routine

lemma Pixmap.cropOf_blank {w h w' h' : ℕ} (hw : 0 < w) (hh : 0 < h) (hww : w ≤ w') (hhh : h ≤ h') :
    (blank w h hw hh).CropOf (blank w' h' (by omega) (by omega)) where
  width_le := hww
  height_le := hhh
  get?_eq := by
    rintro x y ⟨hx, hxw, hy, hyh⟩
    simp only [blank, solid] at hxw hyh
    rw [blank, blank, solid_eq_tabulate, solid_eq_tabulate, get?_tabulate, get?_tabulate,
      if_pos (by omega), if_pos (by omega)]

namespace Routine

/-- Two letters, of which the first starts left of both pictures and above them and the second is
seen on the larger one only, leave a picture of six by five pixels the top left part of one of nine
by six. -/
theorem cropOf_apply_text :
    ∃ a b : Pixmap, a.width = 6 ∧ a.height = 5 ∧ b.width = 9 ∧ b.height = 6 ∧ a.CropOf b ∧
      ((Routine.text (-1) (-2) [65, 66] 7).apply a).SameSize a ∧
      ((Routine.text (-1) (-2) [65, 66] 7).apply b).SameSize b ∧
      ((Routine.text (-1) (-2) [65, 66] 7).apply a).CropOf
        ((Routine.text (-1) (-2) [65, 66] 7).apply b) := by
  have hblank : (Pixmap.blank 6 5 (by omega) (by omega)).CropOf
      (Pixmap.blank 9 6 (by omega) (by omega)) :=
    Pixmap.cropOf_blank (by omega) (by omega) (by omega) (by omega)
  exact ⟨_, _, rfl, rfl, rfl, rfl, hblank, cropOf_apply (.text (-1) (-2) [65, 66] 7) hblank⟩

end Routine

end Paintbox

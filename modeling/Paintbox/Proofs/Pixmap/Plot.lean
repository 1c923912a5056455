import Mathlib
import Paintbox.Figure
import Paintbox.Lettering
import Paintbox.Oval
import Paintbox.Transfer

/-!
# Drawing as a list of points

A segment and an oval are drawn while they are walked, but what they draw is their points: to draw
them is to write one color at each point of a list, in the order of the list.  Text and block
transfers do not fit this pattern.  What all of them share is that they change pixels only.

* `Touching` — two points that are neighbors, or one and the same.
* `Pixmap.plot` — one color at each point of a list.
* `Pixmap.line_eq_plot`, `Pixmap.oval_eq_plot` — **a figure is the list of its points**.
* `Pixmap.SameSize` — two pictures of one width and height; every way to draw gives such a picture
  (`sameSize_line`, `sameSize_text`, `sameSize_transfer` and so on).
-/

namespace Paintbox

/-- The points have a side or a corner in common, or they are one and the same. -/
def Touching (a b : ℤ × ℤ) : Prop := |a.1 - b.1| ≤ 1 ∧ |a.2 - b.2| ≤ 1

/-! ## Walks and their points -/

namespace Segment

variable {β : Type}

/-- Visiting points is folding over the list of visited points. -/
lemma foldFrom_eq_foldl (s : Segment) (f : β → Int → Int → β) (fuel : ℕ) :
    ∀ (h : Head) (b : β) (visited : List (Int × Int)),
      s.foldFrom (fun visited x y => (x, y) :: visited) fuel h visited
          = s.foldFrom (fun visited x y => (x, y) :: visited) fuel h [] ++ visited ∧
        s.foldFrom f fuel h b
          = (s.foldFrom (fun visited x y => (x, y) :: visited) fuel h []).reverse.foldl
              (fun b q => f b q.1 q.2) b := by
  induction fuel with
  | zero => simp [foldFrom]
  | succ fuel ih =>
      intro h b visited
      simp only [foldFrom]
      split_ifs with harrived
      · simp
      · have hcons := (ih (s.advance h) b [(h.x, h.y)]).1
        have happend := (ih (s.advance h) b ((h.x, h.y) :: visited)).1
        have hfold := (ih (s.advance h) (f b h.x h.y) []).2
        rw [hcons, happend, hfold]
        simp

lemma fold_eq_foldl_points (s : Segment) (f : β → Int → Int → β) (b : β) :
    s.fold f b = s.points.foldl (fun b q => f b q.1 q.2) b :=
  (s.foldFrom_eq_foldl f s.steps s.start b []).2

end Segment

namespace Oval

variable {β : Type}

lemma foldFlat_eq_foldl (o : Oval) (f : β → Int → Int → β) (fuel : ℕ) :
    ∀ (w : Walker) (b : β) (visited : List (Int × Int)),
      o.foldFlat (fun visited x y => (x, y) :: visited) fuel w visited
          = ((o.foldFlat (fun visited x y => (x, y) :: visited) fuel w []).1,
              (o.foldFlat (fun visited x y => (x, y) :: visited) fuel w []).2 ++ visited) ∧
        o.foldFlat f fuel w b
          = ((o.foldFlat (fun visited x y => (x, y) :: visited) fuel w []).1,
              (o.foldFlat (fun visited x y => (x, y) :: visited) fuel w []).2.reverse.foldl
                (fun b q => f b q.1 q.2) b) := by
  induction fuel with
  | zero => simp [foldFlat]
  | succ fuel ih =>
      intro w b visited
      simp only [foldFlat]
      split_ifs with hflat
      · have hcons := (ih (o.flatStep w) b [(w.x, w.y)]).1
        have happend := (ih (o.flatStep w) b ((w.x, w.y) :: visited)).1
        have hfold := (ih (o.flatStep w) (f b w.x w.y) []).2
        rw [hcons, happend, hfold]
        simp
      · simp

lemma foldSteep_eq_foldl (o : Oval) (f : β → Int → Int → β) (count : ℕ) :
    ∀ (w : Walker) (b : β) (visited : List (Int × Int)),
      o.foldSteep (fun visited x y => (x, y) :: visited) count w visited
          = o.foldSteep (fun visited x y => (x, y) :: visited) count w [] ++ visited ∧
        o.foldSteep f count w b
          = (o.foldSteep (fun visited x y => (x, y) :: visited) count w []).reverse.foldl
              (fun b q => f b q.1 q.2) b := by
  induction count with
  | zero => simp [foldSteep]
  | succ count ih =>
      intro w b visited
      simp only [foldSteep]
      have hcons := (ih (o.steepStep w) b [(w.x, w.y)]).1
      have happend := (ih (o.steepStep w) b ((w.x, w.y) :: visited)).1
      have hfold := (ih (o.steepStep w) (f b w.x w.y) []).2
      rw [hcons, happend, hfold]
      simp

lemma fold_eq_foldl_arc (o : Oval) (f : β → Int → Int → β) (b : β) :
    o.fold f b = o.arc.foldl (fun b q => f b q.1 q.2) b := by
  have hflat := o.foldFlat_eq_foldl f (o.top.py - o.top.px).toNat o.top b []
  simp only [fold, arc]
  rw [hflat.2]
  set flat := o.foldFlat (fun visited x y => (x, y) :: visited) (o.top.py - o.top.px).toNat o.top []
  have hsteep := o.foldSteep_eq_foldl f (flat.1.y + 1).toNat (o.turn flat.1)
    (flat.2.reverse.foldl (fun b q => f b q.1 q.2) b) flat.2
  simp only [hsteep.1, hsteep.2, List.reverse_append, List.foldl_append]

end Oval

namespace Pixmap

/-! ## Points -/

/-- Write the color `v` at each point of a list. -/
def plot (p : Pixmap) (points : List (Int × Int)) (v : UInt8) : Pixmap :=
  points.foldl (fun p q => p.put q.1 q.2 v) p

/-- To draw a segment is to write its color at each of its points. -/
lemma line_eq_plot (p : Pixmap) (s : Segment) (v : UInt8) : p.line s v = p.plot s.points v := by
  rw [line, s.fold_eq_foldl_points, plot]

/-- To draw an oval is to write its color at each of its points. -/
lemma oval_eq_plot (p : Pixmap) (o : Oval) (v : UInt8) : p.oval o v = p.plot o.points v := by
  rw [oval, plot, Oval.points]
  split_ifs with hdeg
  · rfl
  · rw [o.fold_eq_foldl_arc, List.foldl_flatMap]

/-! ## The size stays -/

/-- Two pictures have the same width and height. -/
def SameSize (p q : Pixmap) : Prop := p.width = q.width ∧ p.height = q.height

variable {p q : Pixmap}

lemma SameSize.refl (p : Pixmap) : p.SameSize p := ⟨rfl, rfl⟩

lemma SameSize.trans {r : Pixmap} (hpq : p.SameSize q) (hqr : q.SameSize r) : p.SameSize r :=
  ⟨hpq.1.trans hqr.1, hpq.2.trans hqr.2⟩

/-- Steps that keep the size keep it when they follow each other. -/
lemma sameSize_foldl {ι : Type} (f : Pixmap → ι → Pixmap) (hf : ∀ p i, (f p i).SameSize p) :
    ∀ (l : List ι) (p : Pixmap), (l.foldl f p).SameSize p
  | [], p => SameSize.refl p
  | i :: l, p => (sameSize_foldl f hf l (f p i)).trans (hf p i)

lemma sameSize_fold (n : ℕ) (f : (i : ℕ) → i < n → Pixmap → Pixmap)
    (hf : ∀ i hi p, (f i hi p).SameSize p) (p : Pixmap) : (n.fold f p).SameSize p := by
  induction n with
  | zero => exact SameSize.refl p
  | succ n ih =>
      rw [Nat.fold_succ]
      exact (hf n _ _).trans (ih _ fun i hi p => hf i _ p)

lemma sameSize_put (p : Pixmap) (x y : Int) (v : UInt8) : (p.put x y v).SameSize p := by
  rw [put]
  split_ifs
  · exact SameSize.refl p
  · exact SameSize.refl p

lemma sameSize_modify (p : Pixmap) (x y : Int) (f : UInt8 → UInt8) :
    (p.modify x y f).SameSize p := by
  rw [modify]
  split_ifs
  · exact SameSize.refl p
  · exact SameSize.refl p

lemma sameSize_alter (p : Pixmap) (x0 y0 x1 y1 : Int) (f : Int → Int → UInt8 → UInt8) :
    (p.alter x0 y0 x1 y1 f).SameSize p := by
  rw [alter]
  refine sameSize_fold _ _ (fun j _ p => ?_) p
  exact sameSize_fold _ _ (fun i _ p => sameSize_modify p _ _ _) p

lemma sameSize_plot (p : Pixmap) (points : List (Int × Int)) (v : UInt8) :
    (p.plot points v).SameSize p :=
  sameSize_foldl (fun p (q : Int × Int) => p.put q.1 q.2 v)
    (fun p q => sameSize_put p q.1 q.2 v) points p

lemma sameSize_line (p : Pixmap) (s : Segment) (v : UInt8) : (p.line s v).SameSize p := by
  rw [line_eq_plot]
  exact sameSize_plot p _ v

lemma sameSize_lines (p : Pixmap) (segments : List Segment) (v : UInt8) :
    (p.lines segments v).SameSize p :=
  sameSize_foldl _ (fun p s => sameSize_line p s v) segments p

lemma sameSize_fillBox (p : Pixmap) (l t r b : Int) (v : UInt8) :
    (p.fillBox l t r b v).SameSize p :=
  sameSize_alter p _ _ _ _ _

lemma sameSize_invertBox (p : Pixmap) (l t r b : Int) : (p.invertBox l t r b).SameSize p :=
  sameSize_alter p _ _ _ _ _

lemma sameSize_frameBox (p : Pixmap) (l t r b : Int) (v : UInt8) :
    (p.frameBox l t r b v).SameSize p := by
  rw [frameBox]
  split_ifs
  · exact SameSize.refl p
  · exact sameSize_lines p _ v

lemma sameSize_rectangle (p : Pixmap) (l t r b : Int) (pen brush : Option UInt8) :
    (p.rectangle l t r b pen brush).SameSize p := by
  cases brush with
  | none =>
      cases pen with
      | none => exact SameSize.refl p
      | some v => exact sameSize_lines p _ v
  | some w =>
      have hfilled := sameSize_fillBox p (l + 1) (t + 1) (r - 1) (b - 1) w
      cases pen with
      | none => exact hfilled
      | some v => exact (sameSize_lines _ _ v).trans hfilled

lemma sameSize_oval (p : Pixmap) (o : Oval) (v : UInt8) : (p.oval o v).SameSize p := by
  rw [oval_eq_plot]
  exact sameSize_plot p _ v

lemma sameSize_path (p : Pixmap) (points : List (Int × Int)) (v : UInt8) (closed : Bool) :
    (p.path points v closed).SameSize p := by
  rw [path]
  cases closed with
  | false => exact sameSize_lines p _ v
  | true => exact (sameSize_lines _ _ v).trans (sameSize_lines p _ v)

lemma sameSize_letter (p : Pixmap) (x y : Int) (g : Glyph) (v : UInt8) :
    (p.letter x y g v).SameSize p := by
  refine sameSize_fold _ _ (fun row _ p => ?_) p
  refine sameSize_fold _ _ (fun col _ p => ?_) p
  split_ifs
  · exact sameSize_put p _ _ v
  · exact SameSize.refl p

lemma sameSize_text (codes : List UInt8) (v : UInt8) (y : Int) :
    ∀ (p : Pixmap) (x : Int), (p.text x y codes v).SameSize p := by
  induction codes with
  | nil => exact fun p x => SameSize.refl p
  | cons code codes ih =>
      intro p x
      rw [text]
      split_ifs
      · exact SameSize.refl p
      · exact (ih _ _).trans (sameSize_letter p x y _ v)

lemma sameSize_transfer (p : Pixmap) (x y w h : Int) (source : Option Pixmap) (m : Mapping)
    (op : RasterOp) (pattern : UInt8) : (p.transfer x y w h source m op pattern).SameSize p := by
  rw [transfer]
  cases Clip.of? p.width p.height x y w h with
  | none => exact SameSize.refl p
  | some c => exact sameSize_alter p _ _ _ _ _

end Pixmap

end Paintbox

import Paintbox.Proofs.Pixmap.Pixels

/-!
# Paths in pieces

A path is drawn leg by leg, so it may be cut at any of its points: the point at which it is cut is
the last one of the first piece and the first one of the second.  A closed path is no more than a
path that comes back, since the leg that closes it is the one to its first point.

* `Pixmap.legs_append`, `Pixmap.path_append` — **a path cut at a point**.
* `Pixmap.path_closed` — **a closed path**, also of two points, or of points that coincide.
* `Pixmap.path_cons_cons`, `Pixmap.path_singleton` — a path by its first leg.
* `Pixmap.get?_path` — what an open path draws.
-/

namespace Paintbox

namespace Pixmap

variable (p : Pixmap) (v : UInt8)

/-! ## Legs -/

lemma legs_append (xs : List (ℤ × ℤ)) (q : ℤ × ℤ) (ys : List (ℤ × ℤ)) :
    legs (xs ++ q :: ys) = legs (xs ++ [q]) ++ legs (q :: ys) := by
  induction xs with
  | nil => rfl
  | cons a xs ih =>
      cases xs with
      | nil => rfl
      | cons b xs => exact congrArg (List.cons _) ih

/-- The leg that closes a path leads back to its first point. -/
lemma legs_append_closing (a : ℤ × ℤ) (rest : List (ℤ × ℤ)) :
    legs (a :: rest) ++ closing (a :: rest) = legs (a :: rest ++ [a]) := by
  obtain ⟨init, last, hlast⟩ : ∃ init last, a :: rest = init ++ [last] :=
    ⟨_, _, (List.dropLast_append_getLast (List.cons_ne_nil a rest)).symm⟩
  have hclosing : closing (a :: rest) = legs [last, a] := by
    rw [closing, hlast, List.getLast?_concat, ← hlast]
    rfl
  rw [hclosing, hlast, List.append_assoc, List.singleton_append, legs_append init last [a]]

/-! ## Paths -/

/-- A path cut at one of its points. -/
lemma path_append (xs : List (ℤ × ℤ)) (q : ℤ × ℤ) (ys : List (ℤ × ℤ)) :
    p.path (xs ++ q :: ys) v false = (p.path (xs ++ [q]) v false).path (q :: ys) v false := by
  simp only [path_eq_lines, pathSegments, Bool.false_eq_true, if_false, List.append_nil]
  rw [legs_append, lines, List.foldl_append]
  rfl

/-- A closed path is an open one that comes back to its first point. -/
lemma path_closed (a : ℤ × ℤ) (rest : List (ℤ × ℤ)) :
    p.path (a :: rest) v true = p.path (a :: rest ++ [a]) v false := by
  simp only [path_eq_lines, pathSegments, Bool.false_eq_true, if_false, if_true, List.append_nil]
  rw [legs_append_closing]

lemma path_singleton (a : ℤ × ℤ) : p.path [a] v false = p := rfl

lemma path_cons_cons (a b : ℤ × ℤ) (rest : List (ℤ × ℤ)) :
    p.path (a :: b :: rest) v false
      = (p.line ⟨a.1, a.2, b.1, b.2⟩ v).path (b :: rest) v false := by
  rw [path_eq_lines, path_eq_lines]
  rfl

lemma get?_path (points : List (ℤ × ℤ)) (x y : ℤ) :
    (p.path points v false).get? x y
      = if (x, y) ∈ (legs points).flatMap Segment.points then (p.get? x y).map fun _ => v
        else p.get? x y :=
  get?_lines p (legs points) v x y

end Pixmap

end Paintbox

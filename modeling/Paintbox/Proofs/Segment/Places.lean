import Mathlib
import Paintbox.Proofs.Loop
import Paintbox.Proofs.Pixmap.Pixels

/-!
# The points of a segment

The walk along a segment keeps no count.  It decides each axis by one error term and stops only
where it meets the second endpoint.  That it does meet it, and where it comes by, follows from what
the error is: after `a` steps along the first axis and `b` along the second it is
`(b + 1) * dx - (a + 1) * dy`, and the two tests of a step then compare the walk with the ideal line
half a unit further on.

* `nearest` — rounding to the nearest integer, where a tie goes down.
* `Segment.place` — **the ideal points**: so many units along the longer axis, and the rounded share
  of them along the shorter one.
* `Segment.after`, `Segment.advance_after` — the head in closed form, and what a step makes of it.
* `Segment.iterate_advance` — after `k` steps the head is at the `k`-th place.
* `Segment.exists_loop` — **the walk ends**, when all places have been visited.
* `Pixmap.line_places` — what a line draws.
-/

namespace Paintbox

/-! ## Rounding -/

/-- The integer nearest to a number, and of two that are equally near the lower one. -/
def nearest (q : ℚ) : ℤ := ⌈q - 1 / 2⌉

lemma nearest_div_eq_iff {n : ℕ} (hn : 0 < n) (a : ℕ) (r : ℤ) :
    nearest (a / n) = r ↔ (2 * r - 1) * n < 2 * a ∧ 2 * a ≤ (2 * r + 1) * (n : ℤ) := by
  have hpos : (0 : ℚ) < n := by exact_mod_cast hn
  rw [nearest, Int.ceil_eq_iff, lt_sub_iff_add_lt, lt_div_iff₀ hpos, sub_le_iff_le_add,
    div_le_iff₀ hpos]
  refine and_congr ?_ ?_
  · rw [← Int.cast_lt (R := ℚ)]
    push_cast
    constructor <;> intro h <;> linarith
  · rw [← Int.cast_le (R := ℚ)]
    push_cast
    constructor <;> intro h <;> linarith

namespace Segment

variable (s : Segment)

/-! ## The ideal points -/

/-- The extent along the shorter axis, where `steps` is the one along the longer axis. -/
def breadth : ℕ := min (s.x1 - s.x0).natAbs (s.y1 - s.y0).natAbs

/-- How far the ideal line has come along the shorter axis when it has come `k` units along the
longer one. -/
def ideal (k : ℕ) : ℚ := k * s.breadth / s.steps

/-- The point `k` units along the longer axis from the first endpoint, and along the shorter axis
where the ideal line is nearest.  If both extents are the same, `x` counts as the longer axis. -/
def place (k : ℕ) : ℤ × ℤ :=
  if s.dy ≤ s.dx then (s.x0 + k * s.stepX, s.y0 + nearest (s.ideal k) * s.stepY)
  else (s.x0 + nearest (s.ideal k) * s.stepX, s.y0 + k * s.stepY)

lemma ideal_eq (k : ℕ) : s.ideal k = (k * s.breadth : ℕ) / s.steps := by
  rw [ideal, Nat.cast_mul]

lemma breadth_le_steps : s.breadth ≤ s.steps := min_le_max

variable {s}

lemma nearest_ideal_zero : nearest (s.ideal 0) = 0 := by
  rw [ideal, Nat.cast_zero, zero_mul, zero_div, nearest, Int.ceil_eq_iff]
  norm_num

/-- At the end of the longer axis the ideal line is at the end of the shorter one. -/
lemma nearest_ideal_steps : nearest (s.ideal s.steps) = s.breadth := by
  rcases Nat.eq_zero_or_pos s.steps with hzero | hpos
  · have hbreadth : s.breadth = 0 := Nat.le_zero.mp (hzero ▸ s.breadth_le_steps)
    rw [hzero, hbreadth]
    exact nearest_ideal_zero
  · rw [ideal_eq, nearest_div_eq_iff hpos]
    push_cast
    constructor <;> nlinarith

/-- Where the ideal line rounds to, compared with what the walk has to compare. -/
lemma nearest_ideal_bounds (hpos : 0 < s.steps) (k : ℕ) :
    (2 * nearest (s.ideal k) - 1) * s.steps < 2 * (k * s.breadth) ∧
      2 * (k * s.breadth) ≤ (2 * nearest (s.ideal k) + 1) * (s.steps : ℤ) := by
  have h := (nearest_div_eq_iff hpos (k * s.breadth) (nearest (s.ideal k))).mp
    (congrArg nearest (s.ideal_eq k).symm)
  rwa [Nat.cast_mul] at h

/-- The rounded ideal line takes a step if it is more than half a unit ahead at the next place. -/
lemma nearest_ideal_succ (hpos : 0 < s.steps) (k : ℕ) :
    nearest (s.ideal (k + 1))
      = if (2 * nearest (s.ideal k) + 1) * (s.steps : ℤ) < 2 * (k + 1) * s.breadth
        then nearest (s.ideal k) + 1 else nearest (s.ideal k) := by
  obtain ⟨hlow, hhigh⟩ := nearest_ideal_bounds hpos k
  have hle : (s.breadth : ℤ) ≤ s.steps := by exact_mod_cast s.breadth_le_steps
  have hnonneg : (0 : ℤ) ≤ s.breadth := Int.natCast_nonneg _
  rw [ideal_eq, nearest_div_eq_iff hpos]
  push_cast
  split_ifs with hahead
  · constructor <;> linarith
  · constructor <;> linarith

/-- Along the longer axis there is a step every time. -/
lemma lt_of_nearest_ideal (hpos : 0 < s.steps) (k : ℕ) :
    (2 * k + 1) * (s.breadth : ℤ) < 2 * (nearest (s.ideal k) + 1) * s.steps := by
  obtain ⟨-, hhigh⟩ := nearest_ideal_bounds hpos k
  have hpos' : (0 : ℤ) < s.steps := by exact_mod_cast hpos
  rcases s.breadth_le_steps.lt_or_eq with hlt | heq
  · have hlt' : (s.breadth : ℤ) < s.steps := by exact_mod_cast hlt
    linarith
  · -- on a diagonal the ideal line goes through integer points, and rounding changes nothing
    rw [heq] at hhigh ⊢
    have hk : 2 * (k : ℤ) ≤ 2 * nearest (s.ideal k) + 1 := by
      refine le_of_mul_le_mul_right ?_ hpos'
      linarith
    refine mul_lt_mul_of_pos_right ?_ hpos'
    omega

/-! ## The head in closed form -/

/-- The head after `a` steps along the first axis and `b` along the second. -/
def after (s : Segment) (a b : ℤ) : Head :=
  ⟨s.x0 + a * s.stepX, s.y0 + b * s.stepY, (b + 1) * s.dx - (a + 1) * s.dy⟩

lemma start_eq_after : s.start = s.after 0 0 := by
  simp [start, after]

/-- A step along either axis is taken if that axis is behind the ideal line by more than half a
unit. -/
lemma advance_after (a b : ℤ) : s.advance (s.after a b)
    = s.after (if (2 * a + 1) * s.dy < 2 * (b + 1) * s.dx then a + 1 else a)
        (if (2 * b + 1) * s.dx < 2 * (a + 1) * s.dy then b + 1 else b) := by
  have hx : -s.dy < 2 * ((b + 1) * s.dx - (a + 1) * s.dy)
      ↔ (2 * a + 1) * s.dy < 2 * (b + 1) * s.dx := by
    constructor <;> intro h <;> linarith
  have hy : 2 * ((b + 1) * s.dx - (a + 1) * s.dy) < s.dx
      ↔ (2 * b + 1) * s.dx < 2 * (a + 1) * s.dy := by
    constructor <;> intro h <;> linarith
  simp only [advance, after, hx, hy]
  refine Head.mk.injEq .. ▸ ⟨?_, ?_, ?_⟩
  · split_ifs <;> ring
  · split_ifs <;> ring
  · split_ifs <;> ring

lemma dx_mul_stepX : s.dx * s.stepX = s.x1 - s.x0 := by
  rw [dx, stepX]
  split_ifs <;> omega

lemma dy_mul_stepY : s.dy * s.stepY = s.y1 - s.y0 := by
  rw [dy, stepY]
  split_ifs <;> omega

lemma stepX_ne_zero : s.stepX ≠ 0 := by
  rw [stepX]
  split_ifs <;> decide

lemma stepY_ne_zero : s.stepY ≠ 0 := by
  rw [stepY]
  split_ifs <;> decide

lemma arrived_after_iff (a b : ℤ) : s.Arrived (s.after a b) ↔ a = s.dx ∧ b = s.dy := by
  have hx : a = s.dx ↔ s.x0 + a * s.stepX = s.x1 := by
    rw [← mul_left_inj' s.stepX_ne_zero, dx_mul_stepX, eq_sub_iff_add_eq']
  have hy : b = s.dy ↔ s.y0 + b * s.stepY = s.y1 := by
    rw [← mul_left_inj' s.stepY_ne_zero, dy_mul_stepY, eq_sub_iff_add_eq']
  rw [hx, hy]
  rfl

/-- The longer axis is the first one, or else the second one. -/
lemma extents (s : Segment) : s.dy ≤ s.dx ∧ s.dx = s.steps ∧ s.dy = s.breadth ∨
    ¬ s.dy ≤ s.dx ∧ s.dx = s.breadth ∧ s.dy = s.steps := by
  simp only [dx, dy, steps, breadth]
  omega

/-- The head at the `k`-th place. -/
def headAt (s : Segment) (k : ℕ) : Head :=
  if s.dy ≤ s.dx then s.after k (nearest (s.ideal k)) else s.after (nearest (s.ideal k)) k

lemma place_headAt (k : ℕ) : ((s.headAt k).x, (s.headAt k).y) = s.place k := by
  rw [headAt, place]
  split_ifs <;> rfl

/-- **A step leads from one place to the next.** -/
lemma advance_headAt (hpos : 0 < s.steps) (k : ℕ) : s.advance (s.headAt k) = s.headAt (k + 1) := by
  have hstep := lt_of_nearest_ideal hpos k
  rw [headAt, headAt, nearest_ideal_succ hpos]
  rcases s.extents with ⟨hlong, hdx, hdy⟩ | ⟨hlong, hdx, hdy⟩
  · rw [if_pos hlong, if_pos hlong, advance_after, hdx, hdy, if_pos hstep]
    push_cast
    rfl
  · rw [if_neg hlong, if_neg hlong, advance_after, hdx, hdy, if_pos hstep]
    push_cast
    rfl

lemma iterate_advance (hpos : 0 < s.steps) (k : ℕ) : s.advance^[k] s.start = s.headAt k := by
  induction k with
  | zero =>
      rw [Function.iterate_zero, id_eq, headAt, nearest_ideal_zero, start_eq_after, Nat.cast_zero,
        ite_self]
  | succ k ih => rw [Function.iterate_succ_apply', ih, advance_headAt hpos]

/-- The last place, and no other one, is the second endpoint. -/
lemma arrived_headAt_iff (k : ℕ) : s.Arrived (s.headAt k) ↔ k = s.steps := by
  have hlast : k = s.steps → nearest (s.ideal k) = s.breadth := by
    rintro rfl
    exact nearest_ideal_steps
  rw [headAt]
  rcases s.extents with ⟨hlong, hdx, hdy⟩ | ⟨hlong, hdx, hdy⟩
  · rw [if_pos hlong, arrived_after_iff, hdx, hdy, Nat.cast_inj]
    exact and_iff_left_of_imp hlast
  · rw [if_neg hlong, arrived_after_iff, hdx, hdy, Nat.cast_inj]
    exact and_iff_right_of_imp hlast

lemma place_injective (s : Segment) : Function.Injective s.place := by
  intro i j h
  rw [place, place] at h
  split_ifs at h with hlong
  · exact_mod_cast mul_right_cancel₀ s.stepX_ne_zero (add_left_cancel (congrArg Prod.fst h))
  · exact_mod_cast mul_right_cancel₀ s.stepY_ne_zero (add_left_cancel (congrArg Prod.snd h))

/-! ## The walk -/

lemma touching_advance (s : Segment) (h : Head) :
    Touching (h.x, h.y) ((s.advance h).x, (s.advance h).y) := by
  have hx : |s.stepX| ≤ 1 := by
    rw [stepX]
    split_ifs <;> decide
  have hy : |s.stepY| ≤ 1 := by
    rw [stepY]
    split_ifs <;> decide
  simp only [Touching, advance]
  constructor
  · split_ifs <;> simp [hx]
  · split_ifs <;> simp [hy]

/-- Where the loop ends within the bound, the bound makes no difference. -/
lemma foldFrom_of_loop {β : Type} (f : β → Int → Int → β) {h last : Head} {visited : List Head}
    (hloop : Loop (fun h => ¬ s.Arrived h) s.advance h visited last) :
    ∀ {fuel : ℕ} (b : β), visited.length ≤ fuel →
      s.foldFrom f fuel h b = (visited ++ [last]).foldl (fun b h => f b h.x h.y) b := by
  induction hloop with
  | done hleft =>
      intro fuel b _
      cases fuel with
      | zero => rfl
      | succ fuel => rw [foldFrom, if_pos (not_not.mp hleft)]; rfl
  | next hguard _ ih =>
      intro fuel b hlen
      cases fuel with
      | zero => cases hlen
      | succ fuel =>
          rw [foldFrom, if_neg hguard, ih _ (Nat.le_of_succ_le_succ hlen)]
          rfl

/-- **The walk ends.**  As a loop without a bound it takes a step for each unit of the longer axis,
and the points of the segment are those that it visits. -/
lemma exists_loop (s : Segment) :
    ∃ visited last, Loop (fun h => ¬ s.Arrived h) s.advance s.start visited last ∧
      visited.length = s.steps ∧ s.points = (visited ++ [last]).map (fun h => (h.x, h.y)) ∧
      s.points = (List.range (s.steps + 1)).map s.place := by
  obtain ⟨visited, last, hloop, hlen, hplaces⟩ :
      ∃ visited last, Loop (fun h => ¬ s.Arrived h) s.advance s.start visited last ∧
        visited.length = s.steps ∧
        visited ++ [last] = (List.range (s.steps + 1)).map s.headAt := by
    rcases Nat.eq_zero_or_pos s.steps with hzero | hpos
    · have hstart : s.start = s.headAt 0 := by
        rw [headAt, nearest_ideal_zero, start_eq_after, Nat.cast_zero, ite_self]
      refine ⟨[], s.start, .done ?_, hzero.symm, ?_⟩
      · rw [not_not, hstart, arrived_headAt_iff, hzero]
      · rw [hzero, hstart]
        rfl
    · have hat := fun k => iterate_advance (s := s) hpos k
      refine ⟨_, _, Loop.of_iterate (n := s.steps) (fun k hk => ?_) ?_, ?_, ?_⟩
      · rw [hat, arrived_headAt_iff]
        exact hk.ne
      · rw [hat, not_not, arrived_headAt_iff]
      · rw [List.length_map, List.length_range]
      · simp only [hat]
        rw [List.range_succ, List.map_append, List.map_singleton]
  have hpoints : s.points = (visited ++ [last]).map fun h => (h.x, h.y) := by
    rw [points, fold, foldFrom_of_loop _ hloop _ hlen.le, List.foldl_flip_cons_eq_append,
      List.append_nil, List.reverse_reverse]
  refine ⟨visited, last, hloop, hlen, hpoints, ?_⟩
  rw [hpoints, hplaces, List.map_map]
  exact List.map_congr_left fun k _ => s.place_headAt k

end Segment

/-- **A line draws the rounded ideal points, in their order.**  The walk from one endpoint to the
other ends after one step for each unit of the longer axis.  What it visits, one point more than
there are steps, are the points that lie so many units along the longer axis and along the shorter
one where the ideal line is nearest, where a tie goes to the side of the first endpoint.  It starts
and ends at the endpoints, no point is visited twice, and each is a neighbor of the one before.  On
a picture the line changes the pixels at these points to its color, and no other ones. -/
theorem Pixmap.line_places (p : Pixmap) (s : Segment) (v : UInt8) :
    (∃ visited last, Loop (fun h => ¬ s.Arrived h) s.advance s.start visited last ∧
      visited.length = s.steps ∧ s.points = (visited ++ [last]).map fun h => (h.x, h.y)) ∧
    s.points = (List.range (s.steps + 1)).map s.place ∧
    s.points.head? = some (s.x0, s.y0) ∧ s.points.getLast? = some (s.x1, s.y1) ∧
    s.points.Nodup ∧ s.points.IsChain Touching ∧
    ∀ x y, (p.line s v).get? x y
      = if (x, y) ∈ s.points then (p.get? x y).map fun _ => v else p.get? x y := by
  obtain ⟨visited, last, hloop, hlen, hvisited, hplaces⟩ := s.exists_loop
  obtain ⟨hchain, hhead⟩ := hloop.isChain_map (f := fun h => (h.x, h.y))
    (fun h _ => s.touching_advance h) (List.IsChain.singleton _)
  have hlast : s.Arrived last := not_not.mp hloop.not_guard
  refine ⟨⟨visited, last, hloop, hlen, hvisited⟩, hplaces, ?_, ?_, ?_, ?_, ?_⟩
  · rw [hvisited, List.map_append]
    exact hhead
  · rw [hvisited, List.map_append, List.map_singleton, List.getLast?_concat, hlast.1, hlast.2]
  · rw [hplaces]
    exact List.nodup_range.map s.place_injective
  · rw [hvisited, List.map_append]
    exact hchain
  · exact fun x y => p.get?_line s v x y

/-- On the way back a tie goes to the other side. -/
example : Segment.points ⟨0, 0, 2, 1⟩ = [(0, 0), (1, 0), (2, 1)] ∧
    Segment.points ⟨2, 1, 0, 0⟩ = [(2, 1), (1, 1), (0, 0)] := by
  decide

end Paintbox

import Mathlib
import Paintbox.Proofs.Oval.Walk
import Paintbox.Proofs.Pixmap.Pixels

/-!
# The outline of an oval

An oval is drawn as the four mirror images of one arc.  So its shape is that of the arc: it stays in
the box of the oval because the walk does, it has no gap because each step goes to a neighbor, and
it is symmetric because every offset is mirrored.

* `Oval.Run.isChain` — the offsets of the arc, one neighbor after the other, from the top of the
  oval until below the row of its center.
* `exists_mem_row` — neighbor by neighbor no row is left out.
* `Oval.Outline`, `Oval.outline` — **what the points of an oval are like**.
* `Oval.half_sub_half` — an inscribed oval stays in its box.
* `Pixmap.oval_outline` — what the oval of a box draws.
-/

namespace Paintbox

/-- Points that are neighbors, one to the next, meet every row between that of the first point and
that of a lower one. -/
lemma exists_mem_row {y : ℤ} {rest : List (ℤ × ℤ)} :
    ∀ {q : ℤ × ℤ}, (q :: rest).IsChain Touching → y ≤ q.2 → (∃ q' ∈ q :: rest, q'.2 ≤ y) →
      ∃ x, (x, y) ∈ q :: rest := by
  induction rest with
  | nil =>
      rintro q - hy ⟨q', hmem, hy'⟩
      obtain rfl := List.mem_singleton.mp hmem
      exact ⟨q'.1, by rw [le_antisymm hy hy']; exact hmem⟩
  | cons q₁ rest ih =>
      rintro q hchain hy ⟨q', hmem, hy'⟩
      by_cases hhere : q.2 = y
      · exact ⟨q.1, by rw [← hhere]; exact List.mem_cons_self⟩
      · -- the row is lower than `q`, and the next point is not below it
        obtain ⟨htouch, hrest⟩ := List.isChain_cons_cons.mp hchain
        have hle := (abs_le.mp htouch.2).2
        have hlater : q' ∈ q₁ :: rest := by
          rcases List.mem_cons.mp hmem with rfl | hlater
          · omega
          · exact hlater
        obtain ⟨x, hx⟩ := ih hrest (by omega) ⟨q', hlater, hy'⟩
        exact ⟨x, List.mem_cons_of_mem q hx⟩

namespace Oval

variable {o : Oval} {flat steep : List Walker} {mid last : Walker}

/-! ## The arc -/

lemma touching_flatStep (o : Oval) (w : Walker) : Touching w.offset (o.flatStep w).offset := by
  rw [flatStep]
  split_ifs <;> simp [Touching, Walker.offset]

lemma touching_steepStep (o : Oval) (w : Walker) : Touching w.offset (o.steepStep w).offset := by
  rw [steepStep]
  split_ifs <;> simp [Touching, Walker.offset]

/-- The offsets that the run goes through, together with the one that it does not visit any more.
The two loops meet at one offset: the change over moves nothing. -/
lemma Run.isChain (h : o.Run flat mid steep last) :
    (o.arc ++ [last.offset]).IsChain Touching ∧
      (o.arc ++ [last.offset]).head? = some (0, o.ry) := by
  obtain ⟨hsteep, hhead⟩ := h.steepLoop.isChain_map (f := Walker.offset)
    (fun w _ => o.touching_steepStep w) (List.IsChain.singleton last.offset)
  obtain ⟨rest, hrest⟩ := List.head?_eq_some_iff.mp hhead
  rw [hrest] at hsteep
  obtain ⟨hchain, htop⟩ := h.flatLoop.isChain_map (f := Walker.offset)
    (fun w _ => o.touching_flatStep w) hsteep
  have harc : o.arc ++ [last.offset] = flat.map Walker.offset ++ mid.offset :: rest := by
    rw [h.arc, List.map_append, List.append_assoc, hrest]
    rfl
  rw [harc]
  exact ⟨hchain, htop⟩

/-- The offsets of the arc lie in the first quadrant of the box. -/
lemma Run.mem_arc (h : o.Run flat mid steep last) (hrx : 1 ≤ o.rx) (hry : 1 ≤ o.ry) {q : ℤ × ℤ}
    (hq : q ∈ o.arc) : (0 ≤ q.1 ∧ q.1 ≤ o.rx) ∧ 0 ≤ q.2 ∧ q.2 ≤ o.ry := by
  obtain ⟨hflat, -⟩ := h.flatHead hrx hry
  obtain ⟨hsteep, -⟩ := h.steepHead hrx hry
  rw [h.arc] at hq
  obtain ⟨w, hw, rfl⟩ := List.mem_map.mp hq
  rcases List.mem_append.mp hw with hw | hw
  · obtain ⟨hhead, -⟩ := hflat w hw
    exact ⟨⟨hhead.x_nonneg, hhead.x_le⟩, hhead.y_nonneg, hhead.y_le⟩
  · obtain ⟨hhead, hy⟩ := hsteep w hw
    exact ⟨⟨hhead.x_nonneg, hhead.x_le⟩, hy, hhead.y_le⟩

/-- The offset at which the walk is left is below the row of the center, and only this one is not
visited. -/
lemma Run.mem_arc_of_nonneg (h : o.Run flat mid steep last) {q : ℤ × ℤ}
    (hq : q ∈ o.arc ++ [last.offset]) (hy : 0 ≤ q.2) : q ∈ o.arc := by
  rcases List.mem_append.mp hq with hq | hq
  · exact hq
  · rw [List.mem_singleton.mp hq] at hy
    exact absurd hy h.steepLoop.not_guard

lemma Run.top_mem_arc (h : o.Run flat mid steep last) (hry : 1 ≤ o.ry) : (0, o.ry) ∈ o.arc :=
  h.mem_arc_of_nonneg (List.mem_of_head? h.isChain.2) (Int.le_of_lt hry)

/-- The arc comes by every row. -/
lemma Run.exists_mem_arc (h : o.Run flat mid steep last) {y : ℤ} (hy : 0 ≤ y) (hyry : y ≤ o.ry) :
    ∃ x, (x, y) ∈ o.arc := by
  obtain ⟨hchain, hhead⟩ := h.isChain
  obtain ⟨rest, hrest⟩ := List.head?_eq_some_iff.mp hhead
  have hlast : last.offset ∈ o.arc ++ [last.offset] := List.mem_append_right _ List.mem_cons_self
  rw [hrest] at hchain hlast
  obtain ⟨x, hx⟩ := exists_mem_row hchain hyry
    ⟨last.offset, hlast, ((not_le.mp h.steepLoop.not_guard).trans_le hy).le⟩
  rw [← hrest] at hx
  exact ⟨x, h.mem_arc_of_nonneg hx hy⟩

/-! ## The points -/

lemma not_degenerate (hrx : 1 ≤ o.rx) (hry : 1 ≤ o.ry) : ¬ o.Degenerate := by
  rw [Degenerate]
  omega

lemma points_of_pos (hrx : 1 ≤ o.rx) (hry : 1 ≤ o.ry) :
    o.points = o.arc.flatMap fun q => o.mirror q.1 q.2 :=
  if_neg (not_degenerate hrx hry)

lemma mem_mirror_iff {x y X Y : ℤ} : (X, Y) ∈ o.mirror x y
    ↔ (X = o.cx + x ∨ X = o.cx - x) ∧ (Y = o.cy + y ∨ Y = o.cy - y) := by
  simp only [mirror, List.mem_cons, List.not_mem_nil, Prod.mk.injEq, or_false]
  tauto

/-- A point belongs to the oval if its distances from the axes are an offset of the arc. -/
lemma mem_points_iff (hrx : 1 ≤ o.rx) (hry : 1 ≤ o.ry) {X Y : ℤ} : (X, Y) ∈ o.points
    ↔ ∃ q ∈ o.arc, (X = o.cx + q.1 ∨ X = o.cx - q.1) ∧ (Y = o.cy + q.2 ∨ Y = o.cy - q.2) := by
  simp only [points_of_pos hrx hry, List.mem_flatMap, mem_mirror_iff]

/-- What the points of an oval are like. -/
structure Outline (o : Oval) : Prop where
  /-- Both loops of the walk end, and the offsets at their heads are the arc. -/
  exists_run : ∃ flat mid steep last, o.Run flat mid steep last
  /-- The points are drawn offset by offset, in each quadrant once. -/
  points_eq : o.points = o.arc.flatMap fun q => o.mirror q.1 q.2
  /-- The arc goes from one offset to a neighbor, also where the loops meet. -/
  isChain : o.arc.IsChain Touching
  quadrant : ∀ q ∈ o.arc, (0 ≤ q.1 ∧ q.1 ≤ o.rx) ∧ 0 ≤ q.2 ∧ q.2 ≤ o.ry
  mem_box : ∀ x y, (x, y) ∈ o.points →
    (o.cx - o.rx ≤ x ∧ x ≤ o.cx + o.rx) ∧ o.cy - o.ry ≤ y ∧ y ≤ o.cy + o.ry
  flipX : ∀ x y, (2 * o.cx - x, y) ∈ o.points ↔ (x, y) ∈ o.points
  flipY : ∀ x y, (x, 2 * o.cy - y) ∈ o.points ↔ (x, y) ∈ o.points
  exists_mem_row : ∀ y, o.cy - o.ry ≤ y → y ≤ o.cy + o.ry → ∃ x, (x, y) ∈ o.points

/-- **An oval is a closed, symmetric outline in its box.** -/
lemma outline (hrx : 1 ≤ o.rx) (hry : 1 ≤ o.ry) : o.Outline := by
  obtain ⟨flat, mid, steep, last, h⟩ := exists_run hry
  refine ⟨⟨flat, mid, steep, last, h⟩, points_of_pos hrx hry, ?isChain,
    fun q hq => h.mem_arc hrx hry hq, ?mem_box, ?flipX, ?flipY, ?row⟩
  case isChain => exact h.isChain.1.left_of_append
  case mem_box =>
    intro x y hmem
    obtain ⟨q, hq, hx, hy⟩ := (mem_points_iff hrx hry).mp hmem
    obtain ⟨hqx, hqy⟩ := h.mem_arc hrx hry hq
    omega
  case flipX =>
    intro x y
    simp only [mem_points_iff hrx hry]
    refine exists_congr fun q => and_congr_right fun _ => and_congr_left fun _ => ?_
    omega
  case flipY =>
    intro x y
    simp only [mem_points_iff hrx hry]
    refine exists_congr fun q => and_congr_right fun _ => and_congr_right fun _ => ?_
    omega
  case row =>
    intro y hlow hhigh
    obtain ⟨x, hx⟩ := h.exists_mem_arc (y := |y - o.cy|) (abs_nonneg _)
      (abs_le.mpr (by omega))
    refine ⟨o.cx + x, (mem_points_iff hrx hry).mpr ⟨_, hx, .inl rfl, ?_⟩⟩
    rcases abs_cases (y - o.cy) with ⟨habs, -⟩ | ⟨habs, -⟩
    · rw [habs]
      omega
    · rw [habs]
      omega

/-! ## The box -/

/-- The two halves of a box are rounded toward zero, and together they do not go beyond its ends. -/
lemma half_sub_half {a b : ℤ} (h : 1 ≤ (b - a).tdiv 2) :
    a ≤ (a + b).tdiv 2 - (b - a).tdiv 2 ∧ (a + b).tdiv 2 + (b - a).tdiv 2 ≤ b := by
  have hab : 0 ≤ b - a := by
    by_contra hlt
    have hle : (b - a).tdiv 2 ≤ (0 : ℤ).tdiv 2 := Int.tdiv_le_tdiv two_pos (by omega)
    rw [Int.zero_tdiv] at hle
    omega
  have hsign : Int.sign 2 = 1 := rfl
  rw [Int.tdiv_eq_ediv_of_nonneg hab, Int.tdiv_eq_ediv, hsign]
  split_ifs <;> omega

end Oval

/-- **The oval of a box draws its outline.**  The walk ends.  What it draws lies in the box that the
radii span around the center, which lies in the given box.  It is symmetric in both axes through the
center.  The arc that the walk follows goes from one offset to a neighbor, also where the flat part
meets the steep one, and so the oval has a point in every row from its top to its bottom.  On a
picture the pixels at these points change to the color, and no other ones. -/
theorem Pixmap.oval_outline (p : Pixmap) (v : UInt8) {left top right bottom : ℤ} {o : Oval}
    (ho : Oval.inscribed left top right bottom = o) (hrx : 1 ≤ o.rx) (hry : 1 ≤ o.ry) :
    o.Outline ∧ (left ≤ o.cx - o.rx ∧ o.cx + o.rx ≤ right) ∧
      (top ≤ o.cy - o.ry ∧ o.cy + o.ry ≤ bottom) ∧
      ∀ x y, (p.oval o v).get? x y
        = if (x, y) ∈ o.points then (p.get? x y).map fun _ => v else p.get? x y := by
  refine ⟨Oval.outline hrx hry, ?_, ?_, fun x y => p.get?_oval o v x y⟩
  · subst ho
    exact Oval.half_sub_half hrx
  · subst ho
    exact Oval.half_sub_half hry

/-- A box of odd width around the origin: the center is rounded, the oval ends before the box does
on the left, and its outline is drawn where a small picture lies under it. -/
theorem Pixmap.oval_outline_odd :
    Oval.inscribed (-3) (-2) 2 4 = ⟨0, 1, 2, 3⟩ ∧ (⟨0, 1, 2, 3⟩ : Oval).Outline ∧
      (-3 : ℤ) ≤ 0 - 2 ∧
      ∀ x y, ((Pixmap.blank 7 8 (by omega) (by omega)).oval ⟨0, 1, 2, 3⟩ 7).get? x y
        = if (x, y) ∈ (⟨0, 1, 2, 3⟩ : Oval).points then
            ((Pixmap.blank 7 8 (by omega) (by omega)).get? x y).map fun _ => 7
          else (Pixmap.blank 7 8 (by omega) (by omega)).get? x y := by
  have hbox : Oval.inscribed (-3) (-2) 2 4 = ⟨0, 1, 2, 3⟩ := by decide
  obtain ⟨houtline, ⟨hleft, -⟩, -, hget⟩ :=
    Pixmap.oval_outline (Pixmap.blank 7 8 (by omega) (by omega)) 7 hbox (by decide) (by decide)
  exact ⟨hbox, houtline, hleft, hget⟩

end Paintbox

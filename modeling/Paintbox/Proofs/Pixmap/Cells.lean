import Paintbox.Proofs.Pixmap.Pixels

/-!
# A picture as independent cells

The pixels of a picture are bytes in one row, and where a pixel lies is found by a multiplication
and an addition.  That the pixels are nevertheless cells of their own, each read and written without
regard to the others, rests on two things: a point is compared with both edges of its row before its
place is computed, and a place below the number of bytes has a quotient and a remainder by the
width, which are its row and its column.

* `Pixmap.HasSize` — the size of a picture in the numbers it was asked for; what is made by
  `Pixmap.create` or `Pixmap.createFrom` has it.
* `Pixmap.Edit`, `Pixmap.edited` — what can be done to a picture, and several such things in a row.
* `Edit.onPixel`, `Pixmap.get?_edited` — **what a pixel becomes depends on that pixel alone**.
* `Pixmap.toList_data` — the bytes are the pixels, row by row.
* `Pixmap.Cellular`, `Pixmap.HasSize.cellular` — **the laws of the cells**.
* `Pixmap.cells_independent` — they hold of every picture, whatever was done to it.
-/

namespace Paintbox.Pixmap

variable {heap : Heap} {p q : Pixmap} {width height : ℤ}

/-! ## Sizes -/

def HasSize (p : Pixmap) (width height : ℤ) : Prop :=
  (p.width : ℤ) = width ∧ (p.height : ℤ) = height

lemma SameSize.hasSize (hq : q.SameSize p) (hp : p.HasSize width height) :
    q.HasSize width height := by
  obtain ⟨hw, hh⟩ := hp
  exact ⟨by rw [hq.1, hw], by rw [hq.2, hh]⟩

lemma hasSize_create (hp : Pixmap.create heap width height = .ok p) : p.HasSize width height := by
  unfold Pixmap.create at hp
  split_ifs at hp with hpos
  dsimp only at hp
  split_ifs at hp
  cases hp
  exact ⟨Int.toNat_of_nonneg (by omega), Int.toNat_of_nonneg (by omega)⟩

lemma sameSize_load (p : Pixmap) (src : ByteArray) : (p.load src).SameSize p := ⟨rfl, rfl⟩

lemma hasSize_createFrom {src : ByteArray} (hp : Pixmap.createFrom heap width height src = .ok p) :
    p.HasSize width height := by
  rw [createFrom] at hp
  cases hblank : create heap width height with
  | error e =>
      rw [hblank] at hp
      cases hp
  | ok blank =>
      rw [hblank] at hp
      cases hp
      exact (sameSize_load blank src).hasSize (hasSize_create hblank)

/-! ## Edits -/

/-- What can be done to a picture. -/
inductive Edit where
  | put (x y : ℤ) (v : UInt8)
  | fill (v : UInt8)
  | load (src : ByteArray)

def Edit.apply : Edit → Pixmap → Pixmap
  | .put x y v, p => (p.tryPut x y v).2
  | .fill v, p => p.fill v
  | .load src, p => p.load src

/-- Several edits, one after the other. -/
def edited (p : Pixmap) (edits : List Edit) : Pixmap := edits.foldl (fun p e => e.apply p) p

/-- What an edit makes of the pixel at `x`, `y`, told by its old value, where a row has so many
pixels. -/
def Edit.onPixel (width : ℕ) (x y : ℤ) (old : UInt8) : Edit → UInt8
  | .put x' y' v => if x = x' ∧ y = y' then v else old
  | .fill v => v
  | .load src => src.data[y.toNat * width + x.toNat]?.getD old

lemma sameSize_apply_edit (e : Edit) (p : Pixmap) : (e.apply p).SameSize p := by
  cases e with
  | put x y v =>
      rw [Edit.apply, snd_tryPut]
      exact p.sameSize_put x y v
  | fill v => exact ⟨rfl, rfl⟩
  | load src => exact p.sameSize_load src

/-- An edit changes each pixel by itself. -/
lemma get?_apply_edit (e : Edit) (p : Pixmap) (x y : ℤ) :
    (e.apply p).get? x y = (p.get? x y).map fun old => e.onPixel p.width x y old := by
  cases e with
  | put x' y' v =>
      rw [Edit.apply, snd_tryPut, get?_put]
      simp only [Edit.onPixel]
      split_ifs with hhere
      · rw [hhere.1, hhere.2]
      · exact Option.map_id'.symm
  | fill v => exact p.get?_fill v x y
  | load src => exact p.get?_load src x y

lemma sameSize_edited (edits : List Edit) : ∀ p : Pixmap, (p.edited edits).SameSize p := by
  induction edits with
  | nil => exact fun p => ⟨rfl, rfl⟩
  | cons e edits ih => exact fun p => (ih (e.apply p)).trans (sameSize_apply_edit e p)

/-- **What a pixel has become is the outcome of its own history.** -/
lemma get?_edited (edits : List Edit) (x y : ℤ) : ∀ p : Pixmap,
    (p.edited edits).get? x y
      = (p.get? x y).map fun old => edits.foldl (fun v e => e.onPixel p.width x y v) old := by
  induction edits with
  | nil => exact fun p => Option.map_id'.symm
  | cons e edits ih =>
      intro p
      have hrest := ih (e.apply p)
      rw [get?_apply_edit, (sameSize_apply_edit e p).1, Option.map_map] at hrest
      exact hrest

/-! ## Row by row -/

/-- To count through rows of the same length is to count. -/
lemma map_range_mul {β : Type} {w : ℕ} (hw : 0 < w) (f : ℕ → ℕ → β) (h : ℕ) :
    (List.range (h * w)).map (fun i => f (i % w) (i / w))
      = (List.range h).flatMap fun y => (List.range w).map fun x => f x y := by
  induction h with
  | zero => simp
  | succ h ih =>
      rw [Nat.succ_mul, List.range_add, List.map_append, ih, List.range_succ, List.flatMap_append,
        List.map_map]
      congr 1
      rw [List.flatMap_singleton]
      refine List.map_congr_left fun x hx => ?_
      have hxw := List.mem_range.mp hx
      simp only [Function.comp_apply]
      rw [Nat.mul_comm h w, Nat.mul_add_mod, Nat.mod_eq_of_lt hxw, Nat.mul_add_div hw,
        Nat.div_eq_of_lt hxw, Nat.add_zero]

/-- **The bytes are the pixels, row by row.** -/
lemma toList_data (p : Pixmap) :
    p.data.data.toList.map some = (List.range p.height).flatMap fun y : ℕ =>
      (List.range p.width).map fun x : ℕ => p.get? x y := by
  have hsize : p.data.data.size = p.height * p.width := by
    rw [Nat.mul_comm]
    exact p.size_eq
  rw [← map_range_mul p.width_pos fun x y : ℕ => p.get? x y, ← hsize]
  refine List.ext_getElem (by simp) fun i hi _ => ?_
  have hi : i < p.data.size := by simpa using hi
  have hpixel := get?_eq_getElem? (contains_of_lt hi)
  rw [offset_mod_div, Array.getElem?_eq_getElem hi] at hpixel
  rw [List.getElem_map, List.getElem_map, List.getElem_range, hpixel, Array.getElem_toList]

/-! ## The laws of the cells -/

/-- What a picture of the given size is as a field of cells. -/
structure Cellular (p : Pixmap) (width height : ℤ) : Prop where
  /-- There is a pixel at the points of the picture, and nowhere else. -/
  read_iff : ∀ x y, (p.get? x y).isSome = true ↔ InBox 0 0 width height x y
  /-- A write lands at the same points. -/
  write_iff : ∀ x y v, (p.tryPut x y v).1 = true ↔ InBox 0 0 width height x y
  /-- What was written is read. -/
  read_written : ∀ x y v, InBox 0 0 width height x y → (p.tryPut x y v).2.get? x y = some v
  /-- What was not written is read as before. -/
  read_unwritten : ∀ x y v x' y', (x', y') ≠ (x, y) →
    (p.tryPut x y v).2.get? x' y' = p.get? x' y'
  /-- A write that does not land leaves the picture as it is. -/
  not_written : ∀ x y v, ¬ InBox 0 0 width height x y → (p.tryPut x y v).2 = p
  /-- Where a pixel lies among the bytes. -/
  place : ∀ x y, InBox 0 0 width height x y →
    (p.offset x y : ℤ) = y * width + x ∧ p.offset x y < p.data.size ∧
      p.get? x y = p.data.data[p.offset x y]?
  /-- No two pixels lie at one place. -/
  place_inj : ∀ x y x' y', InBox 0 0 width height x y → InBox 0 0 width height x' y' →
    p.offset x y = p.offset x' y' → x = x' ∧ y = y'
  /-- At no place there is nothing. -/
  exists_place : ∀ i < p.data.size, ∃ x y, InBox 0 0 width height x y ∧ p.offset x y = i
  /-- The bytes are the pixels, row by row. -/
  rows : (p.data.size : ℤ) = width * height ∧
    p.data.data.toList.map some = (List.range height.toNat).flatMap fun y : ℕ =>
      (List.range width.toNat).map fun x : ℕ => p.get? x y
  /-- Bytes from outside overwrite the pixels at their places, and no others. -/
  load : ∀ src x y, InBox 0 0 width height x y → (p.load src).get? x y
    = if p.offset x y < src.size then src.data[p.offset x y]? else p.get? x y
  /-- Bytes outside are overwritten by the pixels at their places, -/
  store : ∀ dst x y, InBox 0 0 width height x y → p.offset x y < dst.size →
    (p.store dst).data[p.offset x y]? = p.get? x y
  /-- and kept where there is none. -/
  store_rest : ∀ dst, (p.store dst).size = dst.size ∧
    ∀ i, p.data.size ≤ i → (p.store dst).data[i]? = dst.data[i]?

lemma HasSize.inBox_iff (hp : p.HasSize width height) (x y : ℤ) :
    InBox 0 0 width height x y ↔ p.Contains x y := by
  rw [InBox, Contains, hp.1, hp.2]

lemma size_store (p : Pixmap) (dst : ByteArray) : (p.store dst).size = dst.size := by
  simp only [store, transferable, ByteArray.size_append, ByteArray.size_extract]
  omega

/-- A loaded picture, at one of its points. -/
lemma get?_load_of_contains {x y : ℤ} (hin : p.Contains x y) (src : ByteArray) :
    (p.load src).get? x y
      = if p.offset x y < src.size then src.data[p.offset x y]? else p.get? x y := by
  rw [get?_load, get?_eq_some hin, Option.map_some]
  split_ifs with hsrc
  · rw [Array.getElem?_eq_getElem hsrc, Option.getD_some]
  · rw [Array.getElem?_eq_none (not_lt.mp hsrc), Option.getD_none]

lemma fst_tryPut_iff (p : Pixmap) (x y : ℤ) (v : UInt8) :
    (p.tryPut x y v).1 = true ↔ p.Contains x y := by
  by_cases hin : p.Contains x y
  · rw [tryPut, dif_pos hin]
    exact iff_of_true rfl hin
  · rw [tryPut, dif_neg hin]
    exact iff_of_false Bool.false_ne_true hin

lemma snd_tryPut_of_outside {x y : ℤ} (hout : ¬ p.Contains x y) (v : UInt8) :
    (p.tryPut x y v).2 = p := by
  rw [tryPut, dif_neg hout]

/-- **The laws hold of every picture of the size.** -/
lemma HasSize.cellular (hp : p.HasSize width height) : p.Cellular width height := by
  have hin := hp.inBox_iff
  obtain ⟨rfl, rfl⟩ := hp
  exact
    { read_iff := fun x y => (p.isSome_get? x y).trans (hin x y).symm
      write_iff := fun x y v => (p.fst_tryPut_iff x y v).trans (hin x y).symm
      read_written := by
        intro x y v hxy
        rw [snd_tryPut, get?_put, if_pos ⟨rfl, rfl⟩, get?_eq_some ((hin x y).mp hxy)]
        rfl
      read_unwritten := by
        intro x y v x' y' hne
        rw [snd_tryPut, get?_put, if_neg fun heq => hne (Prod.ext heq.1 heq.2)]
      not_written := fun x y v hout => snd_tryPut_of_outside ((hin x y).not.mp hout) v
      place := by
        intro x y hxy
        have hcontains := (hin x y).mp hxy
        obtain ⟨hx, -, hy, -⟩ := hxy
        refine ⟨?_, offset_lt hcontains, get?_eq_getElem? hcontains⟩
        rw [offset, Nat.cast_add, Nat.cast_mul, Int.toNat_of_nonneg hx, Int.toNat_of_nonneg hy]
      place_inj := fun x y x' y' hxy hxy' => offset_inj ((hin x y).mp hxy) ((hin x' y').mp hxy')
      exists_place := by
        intro i hi
        obtain ⟨x, y, hcontains, hplace⟩ := exists_offset hi
        exact ⟨x, y, (hin x y).mpr hcontains, hplace⟩
      rows := by
        refine ⟨by rw [p.size_eq, Nat.cast_mul], ?_⟩
        simp only [Int.toNat_natCast]
        exact p.toList_data
      load := fun src x y hxy => get?_load_of_contains ((hin x y).mp hxy) src
      store := by
        intro dst x y hxy hlt
        have hcontains := (hin x y).mp hxy
        have hplace := offset_lt hcontains
        rw [getElem?_store, transferable, if_pos (by omega), get?_eq_getElem? hcontains]
      store_rest := by
        refine fun dst => ⟨p.size_store dst, fun i hi => ?_⟩
        rw [getElem?_store, transferable, if_neg (by omega)] }

/-- **Pixels are independent cells.**  Let a picture be made, blank or with bytes from outside, and
then changed by writing single pixels, by filling it, and by loading bytes over it, any number of
times in any order.

It has the size that it was made with, and it is a field of cells of this size: there is a pixel
exactly at the points between the edges, and exactly there a write lands; it is read at its point,
and at every other point the picture is as before.  A pixel lies at `y * width + x` among the bytes,
which is one of them and is the place of no other pixel.  The bytes are the pixels row by row, so
bytes loaded from outside replace exactly the pixels whose place is below their number, and exactly
these are stored over as many bytes outside.

Each pixel is what its own history has made of it, whatever was done to the others. -/
theorem cells_independent {start : Pixmap}
    (hstart : create heap width height = .ok start ∨
      ∃ src, createFrom heap width height src = .ok start) (edits : List Edit) :
    (start.edited edits).HasSize width height ∧
      (start.edited edits).Cellular width height ∧
      ∀ x y, (start.edited edits).get? x y = (start.get? x y).map fun old =>
        edits.foldl (fun v e => e.onPixel start.width x y v) old := by
  have hsize : start.HasSize width height := by
    rcases hstart with hblank | ⟨src, hloaded⟩
    · exact hasSize_create hblank
    · exact hasSize_createFrom hloaded
  have hedited := (sameSize_edited edits start).hasSize hsize
  exact ⟨hedited, hedited.cellular, fun x y => get?_edited edits x y start⟩

/-- Three bytes loaded over four pixels, then a write beyond the right edge, which would otherwise
land on the first pixel of the next row. -/
theorem cells_independent_edge :
    create .ample 2 2 = .ok (blank 2 2 (by decide) (by decide)) ∧
      ((blank 2 2 (by decide) (by decide)).edited
        [.load ⟨#[1, 2, 3]⟩, .put 2 0 9, .put 1 1 4]).get? 0 1 = some 3 ∧
      ((blank 2 2 (by decide) (by decide)).edited
        [.load ⟨#[1, 2, 3]⟩, .put 2 0 9, .put 1 1 4]).get? 1 1 = some 4 := by
  have hblank : create .ample 2 2 = .ok (blank 2 2 (by decide) (by decide)) := rfl
  obtain ⟨-, -, hget⟩ := cells_independent (Or.inl hblank)
    [.load ⟨#[1, 2, 3]⟩, .put 2 0 9, .put 1 1 4]
  refine ⟨hblank, ?_, ?_⟩
  · rw [hget]
    decide
  · rw [hget]
    decide

end Paintbox.Pixmap

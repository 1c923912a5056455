import Paintbox.Proofs.Transfer.Words

/-!
# The two passes of a transfer

A transfer goes through the visible part of its box twice, row by row, each time with a running
index into the samples.  The index is nowhere compared with their number: it stays below because
there is room for one byte a point, and because both passes come by the same points in the same
order.  Here both passes are carried out in machine words, and stop at an index outside of the room.

* `Clip.sampleInWords`, `Clip.combineInWords` — the passes, built from `Clip.sampleStep` and
  `Clip.combineStep`.
* `Pixmap.transferInWords` — **a transfer that stops where it would go wrong**.
* `Clip.foldlM_sampleStep`, `Clip.foldlM_combineStep` — what a pass has come to after some points.
* `Clip.sampleInWords_eq`, `Clip.combineInWords_eq` — the passes do not stop.
* `Pixmap.transfers_in_words` — **no transfer stops**, and each does what a transfer does.
-/

namespace Paintbox

namespace Clip

/-! ## Passes that stop -/

/-- Look up the source of a point and store it at the running index, which has to lie within the
room.  A place that no word of 32 bits has is nowhere on the source, and nothing is stored. -/
def sampleStep (c : Clip) (p : Pixmap) (m : Mapping) (pass : Array UInt8 × ℕ) (pt : ℤ × ℤ) :
    Option (Array UInt8 × ℕ) := do
  let iy ← word32? (pt.2 - c.originY)
  let ix ← word32? (pt.1 - c.originX)
  let place ← m.locateInWords ix iy
  match word32? place.1, word32? place.2 with
  | some sx, some sy =>
      if hroom : pass.2 < pass.1.size then
        return (pass.1.set pass.2 ((p.get? sx sy).getD 0), pass.2 + 1)
      else
        none
  | _, _ => return (pass.1, pass.2 + 1)

/-- The first pass: there is room for one byte a point, and the source of every point is stored,
unless the operation does not look at it. -/
def sampleInWords (c : Clip) (source : Option Pixmap) (m : Mapping) (op : RasterOp) :
    Option (Array UInt8) := do
  let width ← word32? (c.x1 - c.x0)
  let height ← word32? (c.y1 - c.y0)
  let count ← word64? (width * height)
  let room := Array.replicate count.toNat 0
  match source with
  | some p =>
      if op.usesSource then return (← c.points.foldlM (c.sampleStep p m) (room, 0)).1
      else return room
  | none => return room

/-- Combine a point of the picture with the sample at the running index, which has to be one. -/
def combineStep (samples : Array UInt8) (op : RasterOp) (pattern : UInt8) (pass : Pixmap × ℕ)
    (pt : ℤ × ℤ) : Option (Pixmap × ℕ) :=
  match pass.1.get? pt.1 pt.2 with
  | some old =>
      if hroom : pass.2 < samples.size then
        return (pass.1.put pt.1 pt.2 (op.apply old samples[pass.2] pattern), pass.2 + 1)
      else
        none
  | none => return (pass.1, pass.2 + 1)

/-- The second pass. -/
def combineInWords (c : Clip) (dst : Pixmap) (samples : Array UInt8) (op : RasterOp)
    (pattern : UInt8) : Option Pixmap := do
  return (← c.points.foldlM (combineStep samples op pattern) (dst, 0)).1

end Clip

/-- Both passes, if there is a visible part. -/
def Pixmap.transferInWords (dst : Pixmap) (x y w h : ℤ) (source : Option Pixmap) (m : Mapping)
    (op : RasterOp) (pattern : UInt8) : Option Pixmap := do
  match ← Clip.inWords dst.width dst.height x y w h with
  | some c => c.combineInWords dst (← c.sampleInWords source m op) op pattern
  | none => return dst

/-! ## One point -/

namespace Pixmap

/-- The sides of the picture fit into words of 32 bits. -/
structure FitsWords (p : Pixmap) : Prop where
  width : p.width ≤ 0x7FFFFFFF
  height : p.height ≤ 0x7FFFFFFF

variable {p : Pixmap} {x y : ℤ}

/-- Both coordinates of a point of the picture fit into words of 32 bits. -/
lemma FitsWords.word32? (hp : p.FitsWords) (hin : p.Contains x y) :
    word32? x = some x ∧ word32? y = some y := by
  obtain ⟨hx, hxw, hy, hyh⟩ := hin
  have hwidth := hp.width
  have hheight := hp.height
  exact ⟨word32?_eq (by omega) (by omega), word32?_eq (by omega) (by omega)⟩

lemma put_eq_modify_of_get? {old : UInt8} (hget : p.get? x y = some old) (f : UInt8 → UInt8) :
    p.put x y (f old) = p.modify x y f := by
  have hin : p.Contains x y := (p.isSome_get? x y).mp (by rw [hget]; rfl)
  rw [get?_eq_some hin, Option.some.injEq] at hget
  subst hget
  rw [put, dif_pos hin, modify, dif_pos hin]

lemma modify_of_get?_eq_none (hget : p.get? x y = none) (f : UInt8 → UInt8) :
    p.modify x y f = p := by
  rw [modify, dif_neg]
  intro hin
  rw [get?_eq_some hin] at hget
  cases hget

end Pixmap

namespace Clip

variable {c : Clip} {p : Pixmap} {m : Mapping}

/-- The byte that the first pass stores for a point, unless the operation does not look at it. -/
def sampled (c : Clip) (source : Option Pixmap) (m : Mapping) (op : RasterOp) (pt : ℤ × ℤ) :
    UInt8 :=
  if op.usesSource then
    sourceByte source (m.locate (pt.1 - c.originX) (pt.2 - c.originY)).1
      (m.locate (pt.1 - c.originX) (pt.2 - c.originY)).2
  else 0

/-- The byte of a point is stored behind those stored before, in the first place that is left. -/
lemma sampleStep_eq (hc : c.FitsWords) (hp : p.FitsWords) (hm : m.FitsWords) {op : RasterOp}
    (huses : op.usesSource = true) {pt : ℤ × ℤ} (hpt : pt ∈ c.points) (done rest : List UInt8) :
    c.sampleStep p m ((done ++ 0 :: rest).toArray, done.length) pt
      = some ((done ++ c.sampled (some p) m op pt :: rest).toArray, done.length + 1) := by
  obtain ⟨hx, hy⟩ := hc.offset pt hpt
  have hroom : done.length < (done ++ 0 :: rest).toArray.size := by simp
  have hset : ∀ v, (done ++ 0 :: rest).toArray.set done.length v hroom
      = (done ++ v :: rest).toArray := fun v => by simp
  rw [sampleStep, word32?_eq (by omega) hy.2, word32?_eq (by omega) hx.2, sampled, if_pos huses]
  simp only [bind, Option.bind]
  rw [Mapping.locateInWords_eq hm hx hy]
  generalize m.locate (pt.1 - c.originX) (pt.2 - c.originY) = place
  simp only [sourceByte, Option.bind_some]
  by_cases hin : p.Contains place.1 place.2
  · rw [(hp.word32? hin).1, (hp.word32? hin).2]
    simp only [dif_pos hroom, hset]
    rfl
  · -- the room is zero already, whether the place is told in words or not
    rw [Pixmap.get?_eq_none hin]
    cases hX : word32? place.1 with
    | none => rfl
    | some X =>
        cases hY : word32? place.2 with
        | none => rfl
        | some Y =>
            rw [word32?_eq_some hX, word32?_eq_some hY]
            simp only [dif_pos hroom, hset, Pixmap.get?_eq_none hin]
            rfl

/-- The first pass after some points: their bytes are stored, and there is room left for as many as
are still to come. -/
lemma foldlM_sampleStep (hc : c.FitsWords) (hp : p.FitsWords) (hm : m.FitsWords) {op : RasterOp}
    (huses : op.usesSource = true) (rest : List (ℤ × ℤ)) (hrest : ∀ pt ∈ rest, pt ∈ c.points)
    (done : List UInt8) :
    rest.foldlM (c.sampleStep p m) ((done ++ List.replicate rest.length 0).toArray, done.length)
      = some ((done ++ rest.map (c.sampled (some p) m op)).toArray, done.length + rest.length) := by
  induction rest generalizing done with
  | nil => rfl
  | cons pt rest ih =>
      have hstep := sampleStep_eq hc hp hm huses (hrest pt List.mem_cons_self) done
        (List.replicate rest.length 0)
      have hnext := ih (fun pt' hpt' => hrest pt' (List.mem_cons_of_mem pt hpt'))
        (done ++ [c.sampled (some p) m op pt])
      simp only [List.append_assoc, List.singleton_append, List.length_append,
        List.length_singleton] at hnext
      rw [List.foldlM_cons, List.length_cons, List.replicate_succ, hstep]
      simp only [bind, Option.bind]
      rw [hnext, List.map_cons, Nat.add_right_comm, Nat.add_assoc]

/-- The sample of a point lies behind those of the points before, so the running index is in
bounds. -/
lemma combineStep_eq (done rest : List UInt8) (v : UInt8) (op : RasterOp) (pattern : UInt8)
    (q : Pixmap) (pt : ℤ × ℤ) :
    combineStep (done ++ v :: rest).toArray op pattern (q, done.length) pt
      = some (q.modify pt.1 pt.2 fun old => op.apply old v pattern, done.length + 1) := by
  have hroom : done.length < (done ++ v :: rest).toArray.size := by simp
  have hget : (done ++ v :: rest).toArray[done.length] = v := by simp
  simp only [combineStep]
  cases hold : q.get? pt.1 pt.2 with
  | none =>
      rw [Pixmap.modify_of_get?_eq_none hold]
      rfl
  | some old =>
      simp only [dif_pos hroom, hget]
      rw [Pixmap.put_eq_modify_of_get? hold fun old => op.apply old v pattern]
      rfl

/-- The second pass after some points. -/
lemma foldlM_combineStep (s : ℤ × ℤ → UInt8) (op : RasterOp) (pattern : UInt8)
    (rest : List (ℤ × ℤ)) (done : List UInt8) (q : Pixmap) :
    rest.foldlM (combineStep (done ++ rest.map s).toArray op pattern) (q, done.length)
      = some (rest.foldl (fun q pt => q.modify pt.1 pt.2 fun old => op.apply old (s pt) pattern) q,
          done.length + rest.length) := by
  induction rest generalizing done q with
  | nil => rfl
  | cons pt rest ih =>
      have hnext := ih (done ++ [s pt])
        (q.modify pt.1 pt.2 fun old => op.apply old (s pt) pattern)
      simp only [List.append_assoc, List.singleton_append, List.length_append,
        List.length_singleton] at hnext
      rw [List.foldlM_cons, List.map_cons, combineStep_eq]
      simp only [bind, Option.bind]
      rw [hnext, List.foldl_cons, List.length_cons, Nat.add_right_comm, Nat.add_assoc]

/-! ## Both passes -/

lemma length_points (c : Clip) : c.points.length = c.width * c.height := by
  rw [points, Pixmap.cells, List.length_flatMap]
  simp [width, height, Nat.mul_comm]

/-- There is room for one byte a point. -/
lemma room_eq (c : Clip) :
    Array.replicate ((c.x1 - c.x0) * (c.y1 - c.y0)).toNat (0 : UInt8)
      = (List.replicate c.points.length 0).toArray := by
  rw [Int.toNat_mul (by linarith [c.x_lt]) (by linarith [c.y_lt]), length_points]
  rfl

/-- The first pass does not stop, and stores the byte of every point. -/
lemma sampleInWords_eq (hc : c.FitsWords) {source : Option Pixmap}
    (hsource : ∀ p, source = some p → p.FitsWords) (hm : m.FitsWords) (op : RasterOp) :
    c.sampleInWords source m op = some (c.points.map (c.sampled source m op)).toArray := by
  have hx := c.x_lt
  have hy := c.y_lt
  have hx0 := hc.x0
  have hx1 := hc.x1
  have hy0 := hc.y0
  have hy1 := hc.y1
  have hcount : 0 ≤ (c.x1 - c.x0) * (c.y1 - c.y0) ∧
      (c.x1 - c.x0) * (c.y1 - c.y0) ≤ 0x7FFFFFFF * 0x7FFFFFFF :=
    Mapping.product_bounds (by omega) (by omega) (by omega) (by omega)
  have hzero : (∀ pt, c.sampled source m op pt = 0) →
      (List.replicate c.points.length 0).toArray
        = (c.points.map (c.sampled source m op)).toArray := by
    intro hall
    rw [List.map_congr_left fun pt _ => hall pt, List.map_const']
  rw [sampleInWords, word32?_eq (by omega) (by omega), word32?_eq (by omega) (by omega)]
  simp only [bind, Option.bind]
  rw [word64?_eq (by omega) (by omega)]
  simp only [room_eq]
  cases source with
  | none => exact congrArg some (hzero fun pt => by simp [sampled, sourceByte])
  | some p =>
      simp only
      split_ifs with huses
      · have hpass := foldlM_sampleStep hc (hsource p rfl) hm huses c.points (fun _ hpt => hpt) []
        rw [List.nil_append, List.length_nil] at hpass
        rw [hpass]
        rfl
      · exact congrArg some (hzero fun pt => if_neg huses)

/-- The second pass does not stop, and combines every point with its byte. -/
lemma combineInWords_eq (c : Clip) (dst : Pixmap) (source : Option Pixmap) (m : Mapping)
    (op : RasterOp) (pattern : UInt8) :
    c.combineInWords dst (c.points.map (c.sampled source m op)).toArray op pattern
      = some (c.combine dst (c.sample source m op) op pattern) := by
  have hpass := foldlM_combineStep (c.sampled source m op) op pattern c.points [] dst
  rw [List.nil_append, List.length_nil] at hpass
  rw [combineInWords, hpass, combine, Pixmap.alter_eq_foldl]
  refine congrArg some (List.foldl_ext _ _ _ fun q pt hpt => ?_)
  obtain ⟨hx, hx', hy, hy'⟩ := mem_points.mp hpt
  rw [get?_sample c source m op ⟨hx, hx'⟩ ⟨hy, hy'⟩]
  rfl

end Clip

/-! ## Transfers -/

namespace Pixmap

variable {dst : Pixmap} {source : Option Pixmap}

/-- A transfer through a mapping does not stop, and does what it does. -/
lemma transferInWords_eq (hdst : dst.FitsWords) (hsource : ∀ p, source = some p → p.FitsWords)
    (x y w h : Int32) {m : Mapping} (hm : 0 < w.toInt ∧ 0 < h.toInt → m.FitsWords) (op : RasterOp)
    (pattern : UInt8) :
    dst.transferInWords x.toInt y.toInt w.toInt h.toInt source m op pattern
      = some (dst.transfer x.toInt y.toInt w.toInt h.toInt source m op pattern) := by
  have hwidth := hdst.width
  have hheight := hdst.height
  rw [transferInWords, transfer, Clip.inWords_eq x y w h (by omega) (by omega)]
  simp only [bind, Option.bind]
  cases hclip : Clip.of? dst.width dst.height x.toInt y.toInt w.toInt h.toInt with
  | none => rfl
  | some c =>
      have hc := Clip.fitsWords_of_of? (by omega) (by omega) hclip
      simp only [Clip.sampleInWords_eq hc hsource (hm (Clip.size_pos hclip)) op]
      exact c.combineInWords_eq dst source m op pattern

/-- **No transfer leaves its words.**  Let a box and a source box be told in words of 32 bits,
whatever they are, and let the sides of the pictures fit into such words.

Clipping against a picture of any size does not stop.  There is a visible part exactly if the box
and the picture have a point in common, and its points are those that they have in common.  The
distance of each from the corner of the box lies within the size of the box; looking it up does not
stop, neither for a transfer of pixels one by one nor for a scaled one.  The first pass leaves one
sample for each point, and the second pass does not ask for any other.  So the transfer as a whole
does not stop, and is the one that computes with integers of any size. -/
theorem transfers_in_words (hdst : dst.FitsWords)
    (hsource : ∀ p, source = some p → p.FitsWords) (x y w h sx sy sw sh : Int32) (op : RasterOp)
    (pattern : UInt8) :
    (∀ width height : Int32, ∃ visible,
      Clip.inWords width.toInt height.toInt x.toInt y.toInt w.toInt h.toInt = some visible ∧
      Clip.of? width.toInt height.toInt x.toInt y.toInt w.toInt h.toInt = visible ∧
      ((∃ c, visible = some c) ↔ ∃ X Y, Covers x.toInt y.toInt w.toInt h.toInt X Y ∧
        Covers 0 0 width.toInt height.toInt X Y) ∧
      ∀ c, visible = some c → ∀ X Y, (X, Y) ∈ c.points ↔
        Covers x.toInt y.toInt w.toInt h.toInt X Y ∧
          Covers 0 0 width.toInt height.toInt X Y) ∧
    (∀ c, Clip.of? dst.width dst.height x.toInt y.toInt w.toInt h.toInt = some c →
      ∀ m : Mapping, m = .shift sx.toInt sy.toInt ∨
          m = ⟨sx.toInt, sy.toInt, sw.toInt, sh.toInt, w.toInt, h.toInt⟩ →
        (∀ X Y, (X, Y) ∈ c.points →
          (0 ≤ X - c.originX ∧ X - c.originX < w.toInt) ∧
          (0 ≤ Y - c.originY ∧ Y - c.originY < h.toInt) ∧
          m.locateInWords (X - c.originX) (Y - c.originY)
            = some (m.locate (X - c.originX) (Y - c.originY))) ∧
        ∃ samples, c.sampleInWords source m op = some samples ∧
          samples.size = c.width * c.height ∧
          c.combineInWords dst samples op pattern
            = some (c.combine dst (c.sample source m op) op pattern)) ∧
    dst.transferInWords x.toInt y.toInt w.toInt h.toInt source (.shift sx.toInt sy.toInt) op pattern
      = some (dst.bitTransfer x.toInt y.toInt w.toInt h.toInt source sx.toInt sy.toInt op
          pattern) ∧
    dst.transferInWords x.toInt y.toInt w.toInt h.toInt source
        ⟨sx.toInt, sy.toInt, sw.toInt, sh.toInt, w.toInt, h.toInt⟩ op pattern
      = some (dst.stretchTransfer x.toInt y.toInt w.toInt h.toInt source sx.toInt sy.toInt
          sw.toInt sh.toInt op pattern) := by
  have hwidth := hdst.width
  have hheight := hdst.height
  refine ⟨fun width height => ⟨_, ?_, rfl, Clip.exists_of?_iff, fun c hclip X Y =>
    Clip.mem_points_iff hclip⟩, fun c hclip m hm => ?_, ?_, ?_⟩
  · have hwidth := width.toInt_lt
    have hheight := height.toInt_lt
    exact Clip.inWords_eq x y w h ⟨width.le_toInt, by omega⟩ ⟨height.le_toInt, by omega⟩
  · have hc := Clip.fitsWords_of_of? (by omega) (by omega) hclip
    obtain ⟨hw, hh⟩ := Clip.size_pos hclip
    have hmfits : m.FitsWords := by
      rcases hm with rfl | rfl
      · exact Mapping.fitsWords_shift sx sy
      · exact Mapping.fitsWords_stretch sx sy sw sh hw hh
    refine ⟨fun X Y hpt => ?_, _, Clip.sampleInWords_eq hc hsource hmfits op, ?_,
      c.combineInWords_eq dst source m op pattern⟩
    · obtain ⟨hx, hy⟩ := Clip.offset_mem_box hclip hpt
      obtain ⟨hx', hy'⟩ := hc.offset (X, Y) hpt
      exact ⟨hx, hy, Mapping.locateInWords_eq hmfits hx' hy'⟩
    · rw [List.size_toArray, List.length_map, Clip.length_points]
  · exact transferInWords_eq hdst hsource x y w h (fun _ => Mapping.fitsWords_shift sx sy) op
      pattern
  · exact transferInWords_eq hdst hsource x y w h
      (fun hsize => Mapping.fitsWords_stretch sx sy sw sh hsize.1 hsize.2) op pattern

/-- The box begins so far to the left that only the last of its columns is visible, and its source
so far to the right that no word of 32 bits has the place that is looked up. -/
theorem transfers_in_words_far_left :
    (blank 1 1 Nat.one_pos Nat.one_pos).FitsWords ∧
      (blank 1 1 Nat.one_pos Nat.one_pos).transferInWords (-2147483646) 0 2147483647 1
          (some (blank 1 1 Nat.one_pos Nat.one_pos)) ⟨2147483647, 0, 2147483647, 1, 2147483647, 1⟩
          .notSrcCopy 0
        = some ((blank 1 1 Nat.one_pos Nat.one_pos).stretchTransfer (-2147483646) 0 2147483647 1
            (some (blank 1 1 Nat.one_pos Nat.one_pos)) 2147483647 0 2147483647 1 .notSrcCopy 0) ∧
      ((blank 1 1 Nat.one_pos Nat.one_pos).stretchTransfer (-2147483646) 0 2147483647 1
        (some (blank 1 1 Nat.one_pos Nat.one_pos)) 2147483647 0 2147483647 1 .notSrcCopy 0).get? 0 0
        = some 0xFF := by
  have hdot : (blank 1 1 Nat.one_pos Nat.one_pos).FitsWords :=
    ⟨(by decide : 1 ≤ 0x7FFFFFFF), (by decide : 1 ≤ 0x7FFFFFFF)⟩
  refine ⟨hdot, ?_, by decide⟩
  exact (transfers_in_words hdot (fun p hp => by cases hp; exact hdot) (-2147483646) 0 2147483647 1
    2147483647 0 2147483647 1 .notSrcCopy 0).2.2.2

end Pixmap

end Paintbox

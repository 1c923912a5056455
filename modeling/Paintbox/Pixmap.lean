import Paintbox.Error

/-!
# Pixmaps

A pixmap is a picture with one byte per pixel, stored row by row from the top.  The screen, the
private surface of a memory context and the pixels of a bitmap are pixmaps.

* `Pixmap` — width, height and the bytes; that there are `width * height` of them is part of the
  type.
* `Pixmap.get?` — **the view**: what the pixel at an integer point is, `none` outside.
* `Pixmap.put`, `Pixmap.modify` — one pixel; a point outside is dropped without notice
  (`get?_put`, `get?_modify`), while `Pixmap.tryPut` answers whether the point is on the picture.
* `Pixmap.tabulate`, `Pixmap.blank`, `Pixmap.fill` — a picture by a formula for its pixels
  (`get?_tabulate`).
* `Heap` — where the bytes of pictures are kept, which may have no room left.
* `Pixmap.create` — a blank pixmap of an asked-for size, or why there is none.
* `Pixmap.load`, `Pixmap.store` — the bytes in row order, as much as fits (`get?_load`,
  `getElem?_store`).
* `Pixmap.alter` — every pixel of a box, by a function of its place and its old value
  (`get?_alter`).
-/

namespace Paintbox

/-- Where the bytes of new pictures are kept.  All that is known of it is what it answers when it is
asked for room. -/
structure Heap where
  /-- Is there room for so many bytes? -/
  grants : Nat → Bool

namespace Heap

/-- A heap that never runs out. -/
def ample : Heap := ⟨fun _ => true⟩

/-- A heap that has no room left. -/
def exhausted : Heap := ⟨fun _ => false⟩

/-- A heap that has room for what a machine of 48 address bits can address, and no more. -/
def addressSpace : Heap := ⟨fun bytes => bytes < 0x800000000000⟩

end Heap

/-- A picture of `width` by `height` pixels, one byte each. -/
structure Pixmap where
  width : Nat
  height : Nat
  /-- The pixels, row by row from the top. -/
  data : ByteArray
  width_pos : 0 < width
  height_pos : 0 < height
  size_eq : data.size = width * height

namespace Pixmap

/-- Two pictures are the same if they have the same size and the same bytes. -/
theorem ext {a b : Pixmap} (hw : a.width = b.width) (hh : a.height = b.height)
    (hd : a.data = b.data) : a = b := by
  cases a
  cases b
  cases hw
  cases hh
  cases hd
  rfl

instance : DecidableEq Pixmap := fun a b =>
  if hw : a.width = b.width then
    if hh : a.height = b.height then
      match ByteArray.instDecidableEq a.data b.data with
      | isTrue hd => isTrue (ext hw hh hd)
      | isFalse hd => isFalse fun h => hd (congrArg data h)
    else
      isFalse fun h => hh (congrArg height h)
  else
    isFalse fun h => hw (congrArg width h)

/-! ## Where a pixel lies -/

def Contains (p : Pixmap) (x y : Int) : Prop :=
  0 ≤ x ∧ x < p.width ∧ 0 ≤ y ∧ y < p.height

instance (p : Pixmap) (x y : Int) : Decidable (p.Contains x y) :=
  inferInstanceAs (Decidable (0 ≤ x ∧ x < p.width ∧ 0 ≤ y ∧ y < p.height))

def offset (p : Pixmap) (x y : Int) : Nat := y.toNat * p.width + x.toNat

theorem offset_lt {p : Pixmap} {x y : Int} (h : p.Contains x y) : p.offset x y < p.data.size := by
  obtain ⟨hx, hxw, hy, hyh⟩ := h
  rw [p.size_eq, offset]
  have hrow : (y.toNat + 1) * p.width ≤ p.height * p.width := Nat.mul_le_mul_right _ (by omega)
  rw [Nat.add_mul, Nat.one_mul, Nat.mul_comm p.height] at hrow
  omega

theorem offset_inj {p : Pixmap} {x y x' y' : Int} (h : p.Contains x y) (h' : p.Contains x' y')
    (heq : p.offset x y = p.offset x' y') : x = x' ∧ y = y' := by
  obtain ⟨hx, hxw, hy, hyh⟩ := h
  obtain ⟨hx', hxw', hy', hyh'⟩ := h'
  have hrow : y.toNat = y'.toNat := by
    have h := congrArg (· / p.width) heq
    simp only [offset, Nat.mul_comm _ p.width, Nat.mul_add_div p.width_pos] at h
    rwa [Nat.div_eq_of_lt (by omega), Nat.div_eq_of_lt (by omega)] at h
  rw [offset, offset, hrow] at heq
  omega

/-! ## One pixel -/

/-- The pixel at the point, if there is one. -/
def get? (p : Pixmap) (x y : Int) : Option UInt8 :=
  if h : p.Contains x y then some (p.data.get (p.offset x y) (offset_lt h)) else none

theorem get?_eq_none {p : Pixmap} {x y : Int} (h : ¬ p.Contains x y) : p.get? x y = none :=
  dif_neg h

theorem get?_eq_some {p : Pixmap} {x y : Int} (h : p.Contains x y) :
    p.get? x y = some (p.data.get (p.offset x y) (offset_lt h)) :=
  dif_pos h

/-- There is a pixel exactly at the points of the picture. -/
theorem isSome_get? (p : Pixmap) (x y : Int) : (p.get? x y).isSome = true ↔ p.Contains x y := by
  by_cases h : p.Contains x y
  · rw [get?_eq_some h]
    exact iff_of_true rfl h
  · rw [get?_eq_none h]
    exact iff_of_false Bool.false_ne_true h

theorem get?_eq_getElem? {p : Pixmap} {x y : Int} (h : p.Contains x y) :
    p.get? x y = p.data.data[p.offset x y]? := by
  rw [get?_eq_some h]
  exact (Array.getElem?_eq_getElem (offset_lt h)).symm

/-- The bytes with one of them replaced, among the same width and height. -/
def setAt (p : Pixmap) (i : Nat) (v : UInt8) (h : i < p.data.size) : Pixmap :=
  { p with
    data := p.data.set i v h
    size_eq := by
      have hs : (p.data.set i v h).size = p.data.size := Array.size_set h
      rw [hs, p.size_eq] }

theorem get?_setAt {p : Pixmap} {x y : Int} (h : p.Contains x y) (v : UInt8) (x' y' : Int) :
    (p.setAt (p.offset x y) v (offset_lt h)).get? x' y'
      = if x' = x ∧ y' = y then some v else p.get? x' y' := by
  by_cases h' : p.Contains x' y'
  · have hset : (p.setAt (p.offset x y) v (offset_lt h)).get? x' y'
        = (p.data.data.set (p.offset x y) v (offset_lt h))[p.offset x' y']? :=
      get?_eq_getElem? (p := p.setAt _ v (offset_lt h)) h'
    rw [hset, Array.getElem?_set, get?_eq_getElem? h']
    by_cases hxy : x' = x ∧ y' = y
    · rw [if_pos hxy, if_pos (by rw [hxy.1, hxy.2])]
    · rw [if_neg hxy, if_neg]
      intro heq
      have := offset_inj h h' heq
      exact hxy ⟨this.1.symm, this.2.symm⟩
  · rw [get?_eq_none h', get?_eq_none (show ¬ (p.setAt _ v (offset_lt h)).Contains x' y' from h')]
    rw [if_neg]
    rintro ⟨rfl, rfl⟩
    exact h' h

/-- Write the pixel at the point; a point outside is dropped. -/
def put (p : Pixmap) (x y : Int) (v : UInt8) : Pixmap :=
  if h : p.Contains x y then p.setAt (p.offset x y) v (offset_lt h) else p

/-- Write the pixel at the point, and answer whether there is one. -/
def tryPut (p : Pixmap) (x y : Int) (v : UInt8) : Bool × Pixmap :=
  if h : p.Contains x y then (true, p.setAt (p.offset x y) v (offset_lt h)) else (false, p)

theorem snd_tryPut (p : Pixmap) (x y : Int) (v : UInt8) : (p.tryPut x y v).2 = p.put x y v := by
  rw [tryPut, put]
  split
  · rfl
  · rfl

/-- Replace the pixel at the point by a function of its value; a point outside is dropped. -/
def modify (p : Pixmap) (x y : Int) (f : UInt8 → UInt8) : Pixmap :=
  if h : p.Contains x y then
    let i := p.offset x y
    have hi : i < p.data.size := offset_lt h
    p.setAt i (f (p.data.get i hi)) hi
  else
    p

/-- A write is seen at its point, if that is on the picture, and nowhere else. -/
theorem get?_put (p : Pixmap) (x y : Int) (v : UInt8) (x' y' : Int) :
    (p.put x y v).get? x' y'
      = if x' = x ∧ y' = y then (p.get? x y).map fun _ => v else p.get? x' y' := by
  by_cases h : p.Contains x y
  · rw [put, dif_pos h, get?_setAt h, get?_eq_some h]
    rfl
  · rw [put, dif_neg h, get?_eq_none h]
    split
    · rename_i hxy
      rw [hxy.1, hxy.2, get?_eq_none h]
      rfl
    · rfl

/-- A change is seen at its point and nowhere else. -/
theorem get?_modify (p : Pixmap) (x y : Int) (f : UInt8 → UInt8) (x' y' : Int) :
    (p.modify x y f).get? x' y'
      = if x' = x ∧ y' = y then (p.get? x y).map f else p.get? x' y' := by
  by_cases h : p.Contains x y
  · rw [modify, dif_pos h, get?_setAt h, get?_eq_some h]
    rfl
  · rw [modify, dif_neg h, get?_eq_none h]
    split
    · rename_i hxy
      rw [hxy.1, hxy.2, get?_eq_none h]
      rfl
    · rfl

/-! ## Blank pictures -/

def bytesOf (n : Nat) (f : Nat → UInt8) : ByteArray :=
  n.fold (fun i _ bytes => bytes.push (f i)) (ByteArray.emptyWithCapacity n)

theorem data_bytesOf (n : Nat) (f : Nat → UInt8) : (bytesOf n f).data = (Array.range n).map f := by
  have h : ∀ (m : Nat) (bytes : ByteArray),
      (m.fold (fun i _ bytes => bytes.push (f i)) bytes).data
        = bytes.data ++ (Array.range m).map f := by
    intro m bytes
    induction m with
    | zero => simp
    | succ k ih => rw [Nat.fold_succ, ByteArray.data_push, ih]; simp [Array.range_succ]
  rw [bytesOf, h]
  exact Array.empty_append

theorem size_bytesOf (n : Nat) (f : Nat → UInt8) : (bytesOf n f).size = n := by
  have h : (bytesOf n f).data.size = n := by rw [data_bytesOf, Array.size_map, Array.size_range]
  exact h

/-- The picture whose pixel in column `x` and row `y` is `f x y`. -/
def tabulate (width height : Nat) (hw : 0 < width) (hh : 0 < height) (f : Nat → Nat → UInt8) :
    Pixmap where
  width := width
  height := height
  data := bytesOf (width * height) fun i => f (i % width) (i / width)
  width_pos := hw
  height_pos := hh
  size_eq := size_bytesOf _ _

theorem get?_tabulate {width height : Nat} (hw : 0 < width) (hh : 0 < height)
    (f : Nat → Nat → UInt8) (x y : Int) :
    (tabulate width height hw hh f).get? x y
      = if 0 ≤ x ∧ x < width ∧ 0 ≤ y ∧ y < height then some (f x.toNat y.toNat) else none := by
  by_cases h : 0 ≤ x ∧ x < width ∧ 0 ≤ y ∧ y < height
  · have hc : (tabulate width height hw hh f).Contains x y := h
    have hx : x.toNat < width := by omega
    have hi : y.toNat * width + x.toNat < width * height := by
      have hlt := offset_lt hc
      rwa [(tabulate width height hw hh f).size_eq] at hlt
    rw [if_pos h, get?_eq_getElem? hc]
    simp only [offset, tabulate, data_bytesOf]
    rw [Array.getElem?_map, Array.getElem?_range, if_pos hi, Option.map_some, Nat.mul_comm,
      Nat.mul_add_mod, Nat.mod_eq_of_lt hx, Nat.mul_add_div hw, Nat.div_eq_of_lt hx, Nat.add_zero]
  · rw [if_neg h, get?_eq_none (show ¬ (tabulate width height hw hh f).Contains x y from h)]

def solid (width height : Nat) (hw : 0 < width) (hh : 0 < height) (v : UInt8) : Pixmap where
  width := width
  height := height
  data := bytesOf (width * height) fun _ => v
  width_pos := hw
  height_pos := hh
  size_eq := size_bytesOf _ _

/-- A picture of one color is given by the constant formula. -/
theorem solid_eq_tabulate {width height : Nat} (hw : 0 < width) (hh : 0 < height) (v : UInt8) :
    solid width height hw hh v = tabulate width height hw hh fun _ _ => v := rfl

def blank (width height : Nat) (hw : 0 < width) (hh : 0 < height) : Pixmap :=
  solid width height hw hh 0

/-- A blank picture of the asked-for size.  A side that is not positive is a bad argument, and is
refused before the heap is asked for room. -/
def create (heap : Heap) (width height : Int) : Except Error Pixmap :=
  if h : 0 < width ∧ 0 < height then
    let bytes := width.toNat * height.toNat
    if heap.grants bytes then
      .ok (blank width.toNat height.toNat (by omega) (by omega))
    else
      .error (.outOfMemory bytes)
  else
    .error (.invalidArgument (.size width height))

/-- Kind and size of the picture in words, without its pixels. -/
def summary (p : Pixmap) : String :=
  "PixelBuffer \x7b " ++ s!"width: {p.width}, height: {p.height}" ++ " \x7d"

/-! ## All pixels in row order -/

def fill (p : Pixmap) (v : UInt8) : Pixmap :=
  solid p.width p.height p.width_pos p.height_pos v

theorem get?_fill (p : Pixmap) (v : UInt8) (x y : Int) :
    (p.fill v).get? x y = (p.get? x y).map fun _ => v := by
  rw [fill, solid_eq_tabulate, get?_tabulate]
  split
  · rename_i h
    rw [get?_eq_some h]
    rfl
  · rename_i h
    rw [get?_eq_none h]
    rfl

/-- How many bytes pass between a picture and `n` bytes outside. -/
def transferable (p : Pixmap) (n : Nat) : Nat := min n p.data.size

/-- Overwrite the first pixels, in row order, with the bytes given; bytes beyond the last pixel
are ignored and pixels beyond the last byte are kept. -/
def load (p : Pixmap) (src : ByteArray) : Pixmap :=
  let n := p.transferable src.size
  { p with
    data := src.extract 0 n ++ p.data.extract n p.data.size
    size_eq := by
      have hn : n ≤ src.size ∧ n ≤ p.data.size := by
        simp only [n, transferable]; omega
      rw [ByteArray.size_append, ByteArray.size_extract, ByteArray.size_extract]
      have := p.size_eq
      omega }

/-- Overwrite the first bytes of `dst` with the pixels in row order, as far as both go. -/
def store (p : Pixmap) (dst : ByteArray) : ByteArray :=
  let n := p.transferable dst.size
  p.data.extract 0 n ++ dst.extract n dst.size

/-- The start of one array followed by the rest of another, read at one place. -/
theorem getElem?_overlay (a b : Array UInt8) (n : Nat) (hn : n ≤ a.size) (i : Nat) :
    (a.extract 0 n ++ b.extract n b.size)[i]? = if i < n then a[i]? else b[i]? := by
  have hsize : (a.extract 0 n).size = n := by
    rw [Array.size_extract]
    omega
  by_cases hi : i < n
  · rw [Array.getElem?_append_left (by omega), Array.getElem?_extract, if_pos (by omega),
      if_pos hi, Nat.zero_add]
  · rw [Array.getElem?_append_right (by omega), Array.getElem?_extract, if_neg hi, hsize]
    split
    · rw [show n + (i - n) = i by omega]
    · exact (Array.getElem?_eq_none (by omega)).symm

/-- A pixel is replaced by the byte at its place in row order, if there is one. -/
theorem get?_load (p : Pixmap) (src : ByteArray) (x y : Int) :
    (p.load src).get? x y = (p.get? x y).map fun old => src.data[p.offset x y]?.getD old := by
  by_cases h : p.Contains x y
  · have hp : p.offset x y < p.data.data.size := offset_lt h
    have hload : (p.load src).get? x y
        = (src.data.extract 0 (p.transferable src.size)
          ++ p.data.data.extract (p.transferable src.size) p.data.data.size)[p.offset x y]? := by
      rw [get?_eq_getElem? (p := p.load src) h]
      simp only [load, ByteArray.data_append, ByteArray.data_extract]
      rfl
    have hn : p.transferable src.size = min src.data.size p.data.data.size := rfl
    rw [hload, getElem?_overlay _ _ _ (by omega), get?_eq_getElem? h,
      Array.getElem?_eq_getElem hp, Option.map_some]
    by_cases hs : p.offset x y < src.data.size
    · rw [if_pos (by omega), Array.getElem?_eq_getElem hs, Option.getD_some]
    · rw [if_neg (by omega), Array.getElem?_eq_none (by omega), Option.getD_none]
  · rw [get?_eq_none h, get?_eq_none (show ¬ (p.load src).Contains x y from h)]
    rfl

/-- The bytes outside are overwritten as far as pixels go, and kept from there on. -/
theorem getElem?_store (p : Pixmap) (dst : ByteArray) (i : Nat) :
    (p.store dst).data[i]?
      = if i < p.transferable dst.size then p.data.data[i]? else dst.data[i]? := by
  have hdata : (p.store dst).data
      = p.data.data.extract 0 (p.transferable dst.size)
        ++ dst.data.extract (p.transferable dst.size) dst.data.size := by
    simp only [store, ByteArray.data_append, ByteArray.data_extract]
    rfl
  rw [hdata]
  exact getElem?_overlay _ _ _ (Nat.min_le_right _ _) i

/-- A picture of the asked-for size that starts with the bytes given. -/
def createFrom (heap : Heap) (width height : Int) (src : ByteArray) : Except Error Pixmap :=
  (create heap width height).map (·.load src)

/-! ## A box of pixels -/

/-- Replace the `n` pixels from `x0` on in row `y` by a function of their place and their value. -/
def alterRow (p : Pixmap) (x0 : Int) (n : Nat) (y : Int) (f : Int → Int → UInt8 → UInt8) :
    Pixmap :=
  n.fold (fun i _ p => p.modify (x0 + i) y (f (x0 + i) y)) p

/-- The change of a row is seen in that row and nowhere else. -/
theorem get?_alterRow (p : Pixmap) (x0 : Int) (n : Nat) (y : Int)
    (f : Int → Int → UInt8 → UInt8) (x' y' : Int) :
    (p.alterRow x0 n y f).get? x' y'
      = if x0 ≤ x' ∧ x' < x0 + n ∧ y' = y then (p.get? x' y').map (f x' y')
        else p.get? x' y' := by
  induction n with
  | zero => rw [if_neg (by omega)]; rfl
  | succ n ih =>
      rw [alterRow, Nat.fold_succ, get?_modify, ← alterRow]
      by_cases hx : x' = x0 + n ∧ y' = y
      · obtain ⟨rfl, rfl⟩ := hx
        rw [if_neg (by omega)] at ih
        rw [if_pos ⟨rfl, rfl⟩, if_pos (by omega), ih]
      · rw [if_neg hx, ih]
        split
        · rw [if_pos (by omega)]
        · rw [if_neg (by omega)]

/-- Replace every pixel with `x0 ≤ x < x1` and `y0 ≤ y < y1` by a function of its place and its
value.  Each pixel is visited once, and the part of the box outside the picture is dropped. -/
def alter (p : Pixmap) (x0 y0 x1 y1 : Int) (f : Int → Int → UInt8 → UInt8) : Pixmap :=
  (y1 - y0).toNat.fold (fun j _ p => p.alterRow x0 (x1 - x0).toNat (y0 + j) f) p

/-- The change of a box is seen in the box and nowhere else. -/
theorem get?_alter (p : Pixmap) (x0 y0 x1 y1 : Int) (f : Int → Int → UInt8 → UInt8)
    (x y : Int) :
    (p.alter x0 y0 x1 y1 f).get? x y
      = if x0 ≤ x ∧ x < x1 ∧ y0 ≤ y ∧ y < y1 then (p.get? x y).map (f x y)
        else p.get? x y := by
  have h : ∀ n : Nat,
      (n.fold (fun j _ p => p.alterRow x0 (x1 - x0).toNat (y0 + j) f) p).get? x y
        = if x0 ≤ x ∧ x < x1 ∧ y0 ≤ y ∧ y < y0 + n then (p.get? x y).map (f x y)
          else p.get? x y := by
    intro n
    induction n with
    | zero => rw [if_neg (by omega)]; rfl
    | succ n ih =>
        rw [Nat.fold_succ, get?_alterRow, ih]
        by_cases hx : x0 ≤ x ∧ x < x1 ∧ y = y0 + n
        · rw [if_pos (by omega), if_neg (by omega), if_pos (by omega)]
        · rw [if_neg (by omega)]
          split
          · rw [if_pos (by omega)]
          · rw [if_neg (by omega)]
  rw [alter, h]
  split
  · rw [if_pos (by omega)]
  · rw [if_neg (by omega)]

end Pixmap

end Paintbox

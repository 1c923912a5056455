import Paintbox.Pixmap
import Paintbox.Png.Bytes

/-!
# Filters

A row of a PNG file says how each of its pixels differs from what its neighbors let expect.  Where
the picture is flat or repeats itself, the differences are zero, and zeros are short to write.

* `Filter` — what to expect of a pixel; `Filter.expect` — the value expected.
* `Filter.row` — a row as differences.
* `Filter.best` — the filter that leaves the least of a row.
* `Png.filteredRows` — all rows, each under its best filter.
-/

namespace Paintbox.Png

/-- What to expect of a pixel. -/
inductive Filter where
  /-- Nothing: a zero. -/
  | none
  /-- The pixel left of it. -/
  | left
  /-- The pixel above it. -/
  | above
  /-- The mean of these two. -/
  | mean
  /-- Of the neighbors at the left, above and at the corner between them, the one that is nearest
  to the plane through all three. -/
  | plane
deriving DecidableEq

namespace Filter

/-- The number of a filter, which stands in front of its row. -/
def code : Filter → UInt8
  | none => 0
  | left => 1
  | above => 2
  | mean => 3
  | plane => 4

def distance (m n : Int) : Nat := (m - n).natAbs

/-- The value expected of a pixel, from its neighbors. -/
def expect (filter : Filter) (a b corner : UInt8) : UInt8 :=
  match filter with
  | none => 0
  | left => a
  | above => b
  | mean => UInt8.ofNat ((a.toNat + b.toNat) / 2)
  | plane =>
      let p : Int := Int.ofNat (a.toNat + b.toNat) - Int.ofNat corner.toNat
      let toLeft := distance p (Int.ofNat a.toNat)
      let toAbove := distance p (Int.ofNat b.toNat)
      let toCorner := distance p (Int.ofNat corner.toNat)
      if toLeft ≤ toAbove ∧ toLeft ≤ toCorner then a
      else if toAbove ≤ toCorner then b
      else corner

/-- A pixel, where each side is counted from one and everything outside is zero. -/
def pixel (p : Pixmap) : (x y : Nat) → UInt8
  | x + 1, y + 1 => byteAt p.data (y * p.width + x)
  | _, _ => 0

/-- A row as differences, after the number of the filter. -/
def row (filter : Filter) (p : Pixmap) (y : Nat) : ByteArray :=
  p.width.fold (fun x _ bytes =>
    bytes.push (pixel p (x + 1) (y + 1) -
      filter.expect (pixel p x (y + 1)) (pixel p (x + 1) y) (pixel p x y)))
    ⟨#[filter.code]⟩

/-- How much a difference adds to what is left of a row: its distance from zero, either way
round. -/
def weight (b : UInt8) : Nat := min b.toNat (256 - b.toNat)

/-- What is left of a row.  The number of the filter does not count. -/
def residue (row : ByteArray) : Nat :=
  (row.size - 1).fold (fun i _ sum => sum + weight (byteAt row (i + 1))) 0

/-- The filtered row that leaves the least; of several, the one whose filter comes last. -/
def best (p : Pixmap) (y : Nat) : ByteArray :=
  let first := left.row p y
  ([above, mean, plane].foldl (fun (least : ByteArray × Nat) filter =>
    let candidate := filter.row p y
    let rest := residue candidate
    if rest ≤ least.2 then (candidate, rest) else least) (first, residue first)).1

end Filter

def filteredRows (p : Pixmap) : List ByteArray := (List.range p.height).map (Filter.best p)

/-- All rows as they are, each after the number that says so. -/
def plainRows (p : Pixmap) : ByteArray :=
  p.height.fold (fun y _ bytes =>
    bytes.push Filter.none.code ++ p.data.extract (y * p.width) ((y + 1) * p.width)) .empty

end Paintbox.Png

import Mathlib
import Paintbox.RasterOp

/-!
# Raster operations by their truth tables

The third byte of the code of a raster operation is a truth table: its bit at place `4P + 2S + D` is
what the operation makes of a pattern bit `P`, a source bit `S` and a destination bit `D`.  The
operations are not computed that way, but each of the twelve that have a meaning of their own agrees
with its table.

* `RasterOp.named` — the twelve operations.
* `RasterOp.ternary` — three bytes combined by a table.
* `RasterOp.apply_eq_ternary` — **a named operation is its table**.
* `RasterOp.combined` — what a code makes of three bytes; `RasterOp.apply_ofCode`.
-/

namespace Paintbox.RasterOp

/-- The operations with a meaning of their own. -/
def named : List RasterOp :=
  [srcCopy, srcPaint, srcAnd, srcInvert, srcErase, notSrcCopy, mergePaint, patCopy, patInvert,
    dstInvert, blackness, whiteness]

/-- The place in a truth table where three bits are looked up. -/
def place (d s p : Bool) : ℕ := 4 * p.toNat + 2 * s.toNat + d.toNat

/-- Three bytes combined bit by bit through a truth table. -/
def ternary (table d s p : UInt8) : UInt8 :=
  ⟨BitVec.ofFnLE fun k : Fin 8 =>
    table.toBitVec.getLsbD (place d.toBitVec[k] s.toBitVec[k] p.toBitVec[k])⟩

/-- The truth table in the code of an operation. -/
def table (code : UInt32) : UInt8 := (code >>> 16).toUInt8

/-- A byte is a truth table applied to three others if each of its bits is. -/
lemma eq_ternary {t d s p r : UInt8}
    (h : ∀ k (hk : k < 8), r.toBitVec[k]
      = t.toBitVec.getLsbD (place d.toBitVec[k] s.toBitVec[k] p.toBitVec[k])) :
    r = ternary t d s p := by
  refine UInt8.eq_of_toBitVec_eq (BitVec.eq_of_getElem_eq ?_)
  intro k hk
  rw [h k hk, ternary, BitVec.getElem_ofFnLE]
  rfl

/-- A named operation is its truth table. -/
lemma apply_eq_ternary {op : RasterOp} (hop : op ∈ named) (d s p : UInt8) :
    op.apply d s p = ternary (table op.code) d s p := by
  refine eq_ternary ?_
  intro k hk
  cases op with
  | unknown c => simp [named] at hop
  | blackness =>
      have hbit : (0x00 : UInt8).toBitVec[k] = false := BitVec.getElem_zero hk
      simp only [apply, hbit]
      cases d.toBitVec[k] <;> cases s.toBitVec[k] <;> cases p.toBitVec[k] <;> rfl
  | whiteness =>
      have hbit : (0xFF : UInt8).toBitVec[k] = true := BitVec.getElem_allOnes k hk
      simp only [apply, hbit]
      cases d.toBitVec[k] <;> cases s.toBitVec[k] <;> cases p.toBitVec[k] <;> rfl
  | _ =>
      simp only [apply, UInt8.toBitVec_or, UInt8.toBitVec_and, UInt8.toBitVec_xor,
        UInt8.toBitVec_not, BitVec.getElem_or, BitVec.getElem_and, BitVec.getElem_xor,
        BitVec.getElem_not]
      cases d.toBitVec[k] <;> cases s.toBitVec[k] <;> cases p.toBitVec[k] <;> rfl

/-! ## Codes -/

/-- What a code makes of three bytes: its truth table applied to them if it is the code of a named
operation, and the source byte otherwise. -/
def combined (code : UInt32) (d s p : UInt8) : UInt8 :=
  if code ∈ named.map RasterOp.code then ternary (table code) d s p else s

-- table `0x44` keeps the bits that only the source has
example : combined 0x00440328 0x0F 0xFF 0x5A = 0xF0 := by decide

lemma ofCode_code {op : RasterOp} (hop : op ∈ named) : ofCode op.code = op := by
  cases op with
  | unknown c => simp [named] at hop
  | _ => rfl

/-- A code that no named operation has is kept, whatever it is. -/
lemma ofCode_of_notMem {c : UInt32} (hc : c ∉ named.map RasterOp.code) : ofCode c = unknown c := by
  have hcode := code_ofCode c
  cases hop : ofCode c with
  | unknown c' =>
      rw [hop] at hcode
      exact congrArg unknown hcode
  | _ =>
      rw [hop] at hcode
      exact absurd (List.mem_map.mpr ⟨_, by simp [named], hcode⟩) hc

/-- The operation behind a code combines bytes as the code says. -/
lemma apply_ofCode (c : UInt32) (d s p : UInt8) : (ofCode c).apply d s p = combined c d s p := by
  rw [combined]
  split_ifs with hc
  · obtain ⟨op, hop, rfl⟩ := List.mem_map.mp hc
    rw [ofCode_code hop, apply_eq_ternary hop]
  · rw [ofCode_of_notMem hc, apply]

end Paintbox.RasterOp

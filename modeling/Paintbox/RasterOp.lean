/-!
# Raster operations

A raster operation combines, bit by bit, a destination pixel, a source pixel and a pattern byte.
It is known to callers by a 32-bit code.

* `RasterOp` — the twelve operations with a meaning of their own; every other code is kept and
  copies the source.
* `RasterOp.ofCode`, `RasterOp.code` — between an operation and its code; going there and back
  changes nothing (`RasterOp.code_ofCode`).
* `RasterOp.usesSource` — does the result depend on the source at all?
* `RasterOp.apply` — the combination.
-/

namespace Paintbox

/-- A way to combine destination, source and pattern. -/
inductive RasterOp where
  | srcCopy
  | srcPaint
  | srcAnd
  | srcInvert
  | srcErase
  | notSrcCopy
  | mergePaint
  | patCopy
  | patInvert
  | dstInvert
  | blackness
  | whiteness
  /-- A code without a meaning of its own. -/
  | unknown (code : UInt32)
deriving DecidableEq

namespace RasterOp

def ofCode (code : UInt32) : RasterOp :=
  if code = 0x00CC0020 then srcCopy
  else if code = 0x00EE0086 then srcPaint
  else if code = 0x008800C6 then srcAnd
  else if code = 0x00660046 then srcInvert
  else if code = 0x00440328 then srcErase
  else if code = 0x00330008 then notSrcCopy
  else if code = 0x00BB0226 then mergePaint
  else if code = 0x00F00021 then patCopy
  else if code = 0x005A0049 then patInvert
  else if code = 0x00550009 then dstInvert
  else if code = 0x00000042 then blackness
  else if code = 0x00FF0062 then whiteness
  else unknown code

def code : RasterOp → UInt32
  | srcCopy => 0x00CC0020
  | srcPaint => 0x00EE0086
  | srcAnd => 0x008800C6
  | srcInvert => 0x00660046
  | srcErase => 0x00440328
  | notSrcCopy => 0x00330008
  | mergePaint => 0x00BB0226
  | patCopy => 0x00F00021
  | patInvert => 0x005A0049
  | dstInvert => 0x00550009
  | blackness => 0x00000042
  | whiteness => 0x00FF0062
  | unknown c => c

/-- One question of the reading: an operation is chosen for its own code only. -/
theorem code_ite {c k : UInt32} {op rest : RasterOp} (hop : op.code = k) (hrest : rest.code = c) :
    (if c = k then op else rest).code = c := by
  split
  · rename_i h
    exact hop.trans h.symm
  · exact hrest

@[simp] theorem code_ofCode (c : UInt32) : (ofCode c).code = c := by
  unfold ofCode
  iterate 12 refine code_ite rfl ?_
  rfl

/-- Does the result depend on the source pixel? -/
def usesSource : RasterOp → Bool
  | patCopy | patInvert | dstInvert | blackness | whiteness => false
  | _ => true

/-- The combination of destination `d`, source `s` and pattern `p`. -/
def apply : RasterOp → (d s p : UInt8) → UInt8
  | srcCopy, _, s, _ => s
  | srcPaint, d, s, _ => d ||| s
  | srcAnd, d, s, _ => d &&& s
  | srcInvert, d, s, _ => d ^^^ s
  | srcErase, d, s, _ => s &&& ~~~d
  | notSrcCopy, _, s, _ => ~~~s
  | mergePaint, d, s, _ => ~~~s ||| d
  | patCopy, _, _, p => p
  | patInvert, d, _, p => d ^^^ p
  | dstInvert, d, _, _ => ~~~d
  | blackness, _, _, _ => 0x00
  | whiteness, _, _, _ => 0xFF
  | unknown _, _, s, _ => s

/-- An operation that does not use the source gives the same result for every source. -/
theorem apply_source_irrel {op : RasterOp} (h : op.usesSource = false) (d s s' p : UInt8) :
    op.apply d s p = op.apply d s' p := by
  cases op <;> simp_all [usesSource, apply]

def label : RasterOp → String
  | srcCopy => "SrcCopy"
  | srcPaint => "SrcPaint"
  | srcAnd => "SrcAnd"
  | srcInvert => "SrcInvert"
  | srcErase => "SrcErase"
  | notSrcCopy => "NotSrcCopy"
  | mergePaint => "MergePaint"
  | patCopy => "PatCopy"
  | patInvert => "PatInvert"
  | dstInvert => "DstInvert"
  | blackness => "Blackness"
  | whiteness => "Whiteness"
  | unknown c => s!"Unknown({c.toNat})"

end RasterOp

end Paintbox

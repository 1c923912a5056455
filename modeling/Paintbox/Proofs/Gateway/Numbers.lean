import Paintbox.Gateway
import Paintbox.Proofs.Display.Registers
import Paintbox.Proofs.Lettering

/-!
# What numbers say

A caller who sees numbers only has to be told what they stand for.  A handle is never zero, because
what has been opened or made is found under it; a count is never negative; so no reply reads as a
failure.

* `Reply.Told`, `Error.Told` — the number that tells a reply, and the cause of a failure.
* `Meaning`, `Meaning.Admits` — what a number stands for, and the numbers that do.
* `Display.ensures_addContext`, `Display.ensures_addObject` and those made of them — new handles are
  not zero.
* `Memory`, `Reply.memory?` — what a reply says about the memory of a caller.
-/

namespace Paintbox

open DisplayAction Display

/-! ## Numbers -/

/-- The number tells the reply.  No call is answered by the other replies. -/
def Reply.Told : Reply → ℤ → Prop
  | .done, n => n = 0
  | .flag false, n => n = 0
  | .flag true, n => n = 1
  | .context h, n => n = h.code.toNat
  | .object o, n => n = o.code.toNat
  | .paintSession session, n => n = session.context.code.toNat
  | .size width _, n => n = width
  | .mode .transparent, n => n = 1
  | .mode .filled, n => n = 2
  | .position _, n => n = 0
  | .bits k _, n => n = min (k : ℤ) 2147483647
  | .count k, n => n = min (k : ℤ) 2147483647
  | _, _ => False

/-- The number tells the cause of a failure. -/
def Error.Told : Error → ℤ → Prop
  | .nullArgument, n => n = -1
  | .notInitialized, n => n = -2
  | .capacityExceeded _, n => n = -3
  | .notFound _, n => n = -4
  | .badHandle, n => n = -5
  | .invalidArgument _, n => n = -6
  | .outOfMemory _, n => n = -7

namespace Error

lemma told_code (e : Error) : e.Told e.code := by
  cases e <;> rfl

lemma Told.range {e : Error} {n : ℤ} (h : e.Told n) : -7 ≤ n ∧ n ≤ -1 := by
  cases e <;> simp only [Told] at h <;> omega

end Error

/-- What a number stands for, if it is not that of a failure. -/
inductive Meaning where
  /-- All went well, and there is no more to say. -/
  | status
  /-- The handle of something new. -/
  | handle
  /-- The handle of what was selected before, or zero. -/
  | selection
  /-- A number of bytes or of pixels. -/
  | count
  /-- A background mode. -/
  | mode
  /-- Yes or no. -/
  | flag

namespace Meaning

def Admits : Meaning → ℤ → Prop
  | status, n => n = 0
  | handle, n => 1 ≤ n ∧ n ≤ 65535
  | selection, n => 0 ≤ n ∧ n ≤ 65535
  | count, n => 0 ≤ n ∧ n ≤ 2147483647
  | mode, n => n = 1 ∨ n = 2
  | flag, n => n = 0 ∨ n = 1

lemma Admits.nonneg {m : Meaning} {n : ℤ} (h : m.Admits n) : 0 ≤ n := by
  cases m <;> simp only [Admits] at h <;> omega

lemma admits_selection (code : UInt16) : selection.Admits code.toNat := by
  have hlt := code.toNat_lt
  simp only [Admits]
  omega

/-- A handle is a number from 1 on, since zero is the null handle. -/
lemma admits_handle {code : UInt16} (hcode : code ≠ 0) : handle.Admits code.toNat := by
  have hlt := code.toNat_lt
  have hpos : code.toNat ≠ 0 := fun hzero => hcode (UInt16.toNat_inj.mp hzero)
  simp only [Admits]
  omega

end Meaning

namespace Gateway

/-- A count is cut off at the largest number of 32 bits. -/
lemma countCode_eq (n : ℕ) : countCode n = min (n : ℤ) 2147483647 := by
  rw [countCode, maxCode]
  split_ifs <;> omega

lemma admits_countCode (n : ℕ) : Meaning.count.Admits (countCode n) := by
  rw [countCode_eq, Meaning.Admits]
  omega

end Gateway

/-- The width of a text that fits into memory is reported as it is or cut off. -/
lemma Lettering.admits_extent {count : ℕ} (hcount : count < 2 ^ 63) :
    Meaning.count.Admits (extent count).1 := by
  rw [extent_of_lt hcount]
  simp only [Meaning.Admits, maxWidth, Glyph.side]
  omega

/-! ## What new handles are -/

namespace Display

lemma ensures_addContext (dc : DeviceContext) :
    Ensures (fun _ => True) (·.code ≠ 0) (addContext dc) := by
  intro d _
  refine ⟨trivial, fun h hopen => ?_⟩
  have hrun : (addContext dc).on d = (.ok h, ((addContext dc).on d).2) := Prod.ext hopen rfl
  exact Registry.ne_zero_of_live (get?_of_addContext hrun)

lemma ensures_addObject (object : GraphicsObject) :
    Ensures (fun _ => True) (·.code ≠ 0) (addObject object) := by
  intro d _
  refine ⟨trivial, fun o hmade => ?_⟩
  obtain ⟨code, hcode, rfl⟩ := Drawing.of_map_eq_ok hmade
  exact Registry.ne_zero_of_live (Registry.get?_of_insert (Prod.ext hcode rfl))

lemma ensures_beginPaint (w : UInt16) :
    Ensures (fun _ => True) (·.context.code ≠ 0) (beginPaint w) :=
  (ensures_addContext _).bind fun _ hcode =>
    (Keeps.ensures fun _ _ => trivial).bind fun _ _ => .pure hcode

lemma ensures_openMemoryContext (heap : Heap) (reference : ContextHandle) :
    Ensures (fun _ => True) (·.code ≠ 0) (openMemoryContext heap reference) :=
  (Keeps.ask _).ensures.bind fun _ _ => ensures_addContext _

lemma ensures_createBitmap (heap : Heap) (width height : Int16) (planes bpp : UInt8)
    (initial : Option ByteArray) :
    Ensures (fun _ => True) (·.code ≠ 0) (createBitmap heap width height planes bpp initial) :=
  (Keeps.ask _).ensures.bind fun _ _ => ensures_addObject _

/-- What an action answers has no property that one would have to know of. -/
lemma ensures_trivial {α : Type} (a : DisplayAction α) :
    Ensures (fun _ => True) (fun _ => True) a :=
  fun _ _ => ⟨trivial, fun _ _ => trivial⟩

/-- The extent of a text that fits into memory can be told. -/
lemma ensures_textExtent (h : ContextHandle) {codes : List UInt8} (hcodes : codes.length < 2 ^ 63)
    (len : Option ℕ) :
    Ensures (fun _ => True) (fun size => Meaning.count.Admits size.1)
      (textExtent h codes len) := by
  have hspan : (Lettering.span codes len).length < 2 ^ 63 :=
    (Lettering.length_span_le codes len).trans_lt hcodes
  refine fun d _ => ⟨trivial, fun size hsize => ?_⟩
  obtain ⟨dc, -, rfl⟩ := Drawing.of_map_eq_ok hsize
  exact Lettering.admits_extent hspan

end Display

/-! ## Memory -/

/-- Memory of a caller that a call may fill. -/
inductive Memory where
  | record (session : PaintSession)
  | block (bytes : ByteArray)

/-- What a reply says about memory. -/
def Reply.memory? : Reply → Option Memory
  | .paintSession session => some (.record session)
  | .bits _ out => some (.block out)
  | _ => none

end Paintbox

import Mathlib.Tactic.Common
import Paintbox.Gateway
import Paintbox.Proofs.Lettering
import Paintbox.Proofs.Text.Utf8

/-!
# What callers of the gateway ask for

A call is a request in disguise: its numbers and blocks of memory are read, and what they say is
asked of the shared session, unless the call is refused right away.  Here is written down, call by
call, which request that is.  The numbers of styles, modes and raster operations are given in
tables, a text by the bytes that are meant, and a name by the characters that these stand for, so
that nothing depends on how the gateway reads them.

* `Call.refusal?` — why a call is refused before the session is asked anything.
* `Call.Asks` — the request that a call stands for; `Call.Reads` — what the others tell.
* `Call.ComesTo` — **what becomes of a call**, and of the session.
* `Gateway.run`, `Gateway.Reaches` — runs of calls, and the sessions that they lead to.
* `Call.exists_comesTo` — every call comes to something, at every session.
-/

namespace Paintbox

namespace Call

/-! ## Calls that are refused -/

/-- Has the caller left out a block of memory that the call cannot do without? -/
def lacks : Call → Bool
  | .beginPaint _ none => true
  | .endPaint _ none => true
  | .createFont _ _ _ none => true
  | .bitmapBits _ none => true
  | .setBitmapBits _ none => true
  | .polyline _ none _ => true
  | .polygon _ none _ => true
  | .text _ _ _ none _ => true
  | .textExtent _ none _ => true
  | .fillRect _ none _ => true
  | .frameRect _ none _ => true
  | .invertRect _ none => true
  | .copyScreen none => true
  | _ => false

/-- Why a call is refused before the session is asked anything: there is a display to start already,
a number cannot be meant, or a block of memory is missing. -/
def refusal? (s : Session) : Call → Option Error
  | .start _ =>
      match s.display with
      | some _ => some (.invalidArgument .alreadyOpen)
      | none => none
  | .startWith _ _ _ maxContexts maxObjects =>
      match s.display with
      | some _ => some (.invalidArgument .alreadyOpen)
      | none =>
          if maxContexts.toInt < 0 ∨ maxObjects.toInt < 0 then
            some (.invalidArgument .negativeCapacity)
          else none
  | .setBackgroundMode _ mode =>
      if mode.toInt = 1 ∨ mode.toInt = 2 then none
      else some (.invalidArgument (.noSuchMode mode.toInt))
  | c => if c.lacks then some .nullArgument else none

/-! ## What numbers and memory say -/

/-- The styles of pens by their numbers. -/
def penStyles : List (ℤ × PenStyle) :=
  [(0, .solid), (1, .dash), (2, .dot), (3, .dashDot), (4, .dashDotDot), (5, .null),
    (6, .insideFrame)]

/-- The styles of brushes by their numbers. -/
def brushStyles : List (ℤ × BrushStyle) := [(0, .solid), (1, .null), (2, .hatched), (3, .pattern)]

/-- The raster operations by their codes. -/
def rasterOps : List (UInt32 × RasterOp) :=
  [(0x00CC0020, .srcCopy), (0x00EE0086, .srcPaint), (0x008800C6, .srcAnd),
    (0x00660046, .srcInvert), (0x00440328, .srcErase), (0x00330008, .notSrcCopy),
    (0x00BB0226, .mergePaint), (0x00F00021, .patCopy), (0x005A0049, .patInvert),
    (0x00550009, .dstInvert), (0x00000042, .blackness), (0x00FF0062, .whiteness)]

/-- The style that is meant.  A number without a style means a solid pen. -/
def penStyle (n : Int32) : PenStyle := (penStyles.lookup n.toInt).getD .solid

def brushStyle (n : Int32) : BrushStyle := (brushStyles.lookup n.toInt).getD .solid

/-- The operation that is meant.  A code without a meaning is kept. -/
def rasterOp (code : UInt32) : RasterOp := (rasterOps.lookup code).getD (.unknown code)

/-- The bytes of a text that are meant, and the length that is passed on.  A negative length means
that the text ends before its first zero byte. -/
inductive MeansText (memory : List UInt8) (len : Int32) : List UInt8 → Option ℕ → Prop where
  | ended {codes : List UInt8} (hlen : len.toInt < 0)
      (hcodes : Lettering.IsSpan memory none codes) : MeansText memory len codes none
  | counted {codes : List UInt8} {n : ℕ} (hlen : len.toInt = n)
      (hcodes : Lettering.IsSpan memory (some n) codes) : MeansText memory len codes (some n)

/-- The name in a block of memory: the characters of the bytes before the first zero byte. -/
def MeansName (memory : List UInt8) (name : String) : Prop :=
  ∃ codes, Lettering.IsSpan memory none codes ∧ Utf8.Lossy codes name.toList

/-! ## What a call comes to -/

/-- The request that a call stands for. -/
def Asks : Call → Request → Prop
  | .start heap, r => r = .start heap ⟨640, 480, 32, 256⟩
  | .startWith heap width height maxContexts maxObjects, r =>
      r = .start heap
        ⟨width.toInt, height.toInt, maxContexts.toInt.toNat, maxObjects.toInt.toNat⟩
  | .free, r => r = .free
  | .openContext window, r => r = .openContext window
  | .closeContext window h, r => r = .closeContext window ⟨h⟩
  | .beginPaint window (some _), r => r = .beginPaint window
  | .endPaint window (some record), r => r = .endPaint window record
  | .openMemoryContext heap reference, r => r = .openMemoryContext heap ⟨reference⟩
  | .setTextColor h color, r => r = .setTextColor ⟨h⟩ ⟨color⟩
  | .setBackgroundColor h color, r => r = .setBackgroundColor ⟨h⟩ ⟨color⟩
  | .setBackgroundMode h mode, r =>
      mode.toInt = 1 ∧ r = .setBackgroundMode ⟨h⟩ .transparent ∨
        mode.toInt = 2 ∧ r = .setBackgroundMode ⟨h⟩ .filled
  | .createPen style width color, r => r = .createPen (penStyle style) width ⟨color⟩
  | .createBrush style color, r => r = .createBrush (brushStyle style) ⟨color⟩
  | .createFont height width weight (some memory), r =>
      ∃ name, MeansName memory name ∧ r = .createFont height width weight name
  | .createBitmap heap width height planes bitsPerPixel bits, r =>
      r = .createBitmap heap width height planes bitsPerPixel bits
  | .createCompatibleBitmap heap h width height, r =>
      r = .createCompatibleBitmap heap ⟨h⟩ width height
  | .selectObject h o, r => r = .selectObject ⟨h⟩ ⟨o⟩
  | .deleteObject o, r => r = .deleteObject ⟨o⟩
  | .bitmapBits o (some out), r => r = .bitmapBits ⟨o⟩ out
  | .setBitmapBits o (some bytes), r => r = .setBitmapBits ⟨o⟩ bytes
  | .moveTo h x y, r => r = .moveTo ⟨h⟩ ⟨x, y⟩
  | .lineTo h x y, r => r = .draw ⟨h⟩ (.lineTo ⟨x, y⟩)
  | .line h x₀ y₀ x₁ y₁ color, r => r = .draw ⟨h⟩ (.line ⟨x₀, y₀⟩ ⟨x₁, y₁⟩ ⟨color⟩)
  | .rectangle h left top right bottom, r =>
      r = .draw ⟨h⟩ (.rectangle ⟨left, top, right, bottom⟩)
  | .ellipse h left top right bottom, r => r = .draw ⟨h⟩ (.ellipse ⟨left, top, right, bottom⟩)
  | .polyline h (some points) count, r =>
      r = .draw ⟨h⟩ (.path (points.take count.toInt.toNat) false)
  | .polygon h (some points) count, r =>
      r = .draw ⟨h⟩ (.path (points.take count.toInt.toNat) true)
  | .text h x y (some memory) len, r =>
      ∃ codes length, MeansText memory len codes length ∧ r = .draw ⟨h⟩ (.text ⟨x, y⟩ codes length)
  | .textExtent h (some memory) len, r =>
      ∃ codes length, MeansText memory len codes length ∧ r = .textExtent ⟨h⟩ codes length
  | .setPixel h x y color, r => r = .setPixel ⟨h⟩ ⟨x, y⟩ ⟨color⟩
  | .getPixel h x y, r => r = .getPixel ⟨h⟩ ⟨x, y⟩
  | .fillRect h (some rect) brush, r => r = .draw ⟨h⟩ (.fillRect rect ⟨brush⟩)
  | .frameRect h (some rect) brush, r => r = .draw ⟨h⟩ (.frameRect rect ⟨brush⟩)
  | .invertRect h (some rect), r => r = .draw ⟨h⟩ (.invertRect rect)
  | .bitTransfer h x y width height src sx sy code, r =>
      r = .draw ⟨h⟩ (.bitTransfer ⟨x, y, width, height⟩ ⟨src⟩ sx sy (rasterOp code))
  | .stretchTransfer h x y width height src sx sy srcWidth srcHeight code, r =>
      r = .draw ⟨h⟩ (.stretchTransfer ⟨x, y, width, height⟩ ⟨src⟩ ⟨sx, sy, srcWidth, srcHeight⟩
        (rasterOp code))
  | .patternTransfer h x y width height code, r =>
      r = .draw ⟨h⟩ (.patternTransfer ⟨x, y, width, height⟩ (rasterOp code))
  | _, _ => False

/-- What a call tells that asks nothing of the session.  The level of the log is no business of the
session.  To copy the screen there must be one: as many of its bytes as there is room for are
written over the block, in their order. -/
def Reads (s : Session) : Call → Except Error Reply → Prop
  | .isOpen, result =>
      match s.display with
      | none => result = .ok (.flag false)
      | some _ => result = .ok (.flag true)
  | .setLogLevel _, result => result = .ok .done
  | .copyScreen (some out), result =>
      match s.display with
      | none => result = .error .notInitialized
      | some d =>
          ∃ written : ByteArray,
            result = .ok (.bits (min out.size (d.screen.width * d.screen.height)) written) ∧
            ∀ i : ℕ, written.data[i]? =
              if i < min out.size (d.screen.width * d.screen.height) then d.screen.data.data[i]?
              else out.data[i]?
  | _, _ => False

/-- What becomes of a call, and the session after it. -/
inductive ComesTo (s : Session) (c : Call) : Except Error Reply → Session → Prop where
  /-- It is refused. -/
  | refused {e : Error} (hrefusal : c.refusal? s = some e) : ComesTo s c (.error e) s
  /-- It only looks. -/
  | read {result : Except Error Reply} (hrefusal : c.refusal? s = none)
      (hreads : c.Reads s result) : ComesTo s c result s
  /-- It comes out as the request that it stands for. -/
  | asked {r : Request} (hrefusal : c.refusal? s = none) (hasks : c.Asks r) :
      ComesTo s c (r.perform s).1 (r.perform s).2

end Call

namespace Gateway

/-- The session after a run of calls, each of which has come to something. -/
inductive Reaches : Session → List Call → Session → Prop where
  | nil (s : Session) : Reaches s [] s
  | cons {s s' s'' : Session} {c : Call} {cs : List Call} {result : Except Error Reply}
      (hcall : c.ComesTo s result s') (hrest : Reaches s' cs s'') : Reaches s (c :: cs) s''

/-- The answers to a list of calls, and the shared session after the last. -/
def run (s : Session) : List Call → List Answer × Session
  | [] => ([], s)
  | c :: cs =>
      let (answer, s) := call s c
      let (answers, s) := run s cs
      (answer :: answers, s)

end Gateway

/-! ## Tables -/

namespace Call

variable {memory codes codes' : List UInt8} {len : Int32} {length length' : Option ℕ}
  {name name' : String}

section Tables

variable {κ β : Type} [BEq κ] [LawfulBEq κ] {k k' : κ} {table : List (κ × β)}

/-- An entry of a table for another number is passed over. -/
lemma lookup_of_ne (b : β) (hk : k ≠ k') : ((k', b) :: table).lookup k = table.lookup k := by
  rw [List.lookup_cons, beq_false_of_ne hk]

/-- To ask for a number is to look at the first entry of a table. -/
lemma ite_eq_lookup [DecidableEq κ] {b rest default : β}
    (hrest : rest = (table.lookup k).getD default) :
    (if k = k' then b else rest) = (((k', b) :: table).lookup k).getD default := by
  split_ifs with hk
  · rw [hk, List.lookup_cons, beq_self_eq_true]
    rfl
  · rw [lookup_of_ne b hk, hrest]

end Tables

lemma ofInt_penStyle (n : Int32) : PenStyle.ofInt n.toInt = penStyle n := by
  rw [penStyle]
  generalize n.toInt = i
  unfold PenStyle.ofInt
  split <;> try rfl
  by_cases hzero : i = 0
  · rw [hzero]
    rfl
  · simp_all [penStyles, lookup_of_ne]

lemma ofInt_brushStyle (n : Int32) : BrushStyle.ofInt n.toInt = brushStyle n := by
  rw [brushStyle]
  generalize n.toInt = i
  unfold BrushStyle.ofInt
  split <;> try rfl
  by_cases hzero : i = 0
  · rw [hzero]
    rfl
  · simp_all [brushStyles, lookup_of_ne]

lemma ofCode_rasterOp (code : UInt32) : RasterOp.ofCode code = rasterOp code := by
  unfold RasterOp.ofCode rasterOp rasterOps
  iterate 12 refine ite_eq_lookup ?_
  rfl

/-! ## The gateway reads what is meant -/

/-- The bytes before the first zero byte are those that are taken from a block of memory. -/
lemma takeWhile_of_isSpan (hcodes : Lettering.IsSpan memory none codes) :
    codes = memory.takeWhile (· ≠ 0) := hcodes.eq_span

lemma MeansText.eq (h : MeansText memory len codes length) :
    (codes, length) = Gateway.textIn memory len := by
  cases h with
  | ended hlen hcodes => rw [Gateway.textIn, if_pos hlen, ← takeWhile_of_isSpan hcodes]
  | counted hlen hcodes =>
      rw [Gateway.textIn, if_neg (by omega), hlen, Int.toNat_natCast, hcodes.eq_span,
        Lettering.span]

lemma exists_meansText (memory : List UInt8) (len : Int32) :
    MeansText memory len (Gateway.textIn memory len).1 (Gateway.textIn memory len).2 := by
  rw [Gateway.textIn]
  split_ifs with hlen
  · exact .ended hlen (Lettering.isSpan_ended memory)
  · exact .counted (Int.toNat_of_nonneg (by omega)).symm (Lettering.isSpan_counted memory _)

/-- A name is read in one way. -/
lemma meansName_iff : MeansName memory name ↔ name = Gateway.nameIn memory := by
  rw [Gateway.nameIn, Utf8.toString]
  constructor
  · rintro ⟨codes, hcodes, hname⟩
    rw [← takeWhile_of_isSpan hcodes, Utf8.lossy_iff.mp hname, String.ofList_toList]
  · rintro rfl
    exact ⟨_, Lettering.isSpan_ended memory, Utf8.lossy_iff.mpr String.toList_ofList.symm⟩

/-! ## Every call comes to something -/

/-- A missing block is noticed before anything else. -/
lemma refusal?_of_lacks {c : Call} (hlacks : c.lacks = true) (s : Session) :
    c.refusal? s = some .nullArgument := by
  cases c with
  | start _ | startWith _ _ _ _ _ | setBackgroundMode _ _ => cases hlacks
  | _ => exact if_pos hlacks

/-- A call that is not refused stands for a request, or only looks. -/
lemma exists_asks_or_reads {s : Session} {c : Call} (hrefusal : c.refusal? s = none) :
    (∃ r, c.Asks r) ∨ ∃ result, c.Reads s result := by
  have hlacks : c.lacks ≠ true := by
    intro hlacks
    rw [refusal?_of_lacks hlacks] at hrefusal
    cases hrefusal
  cases c with
  | isOpen => rcases s with ⟨_ | d⟩ <;> exact Or.inr ⟨_, rfl⟩
  | setLogLevel level => exact Or.inr ⟨_, rfl⟩
  | copyScreen out =>
      cases out with
      | none => exact absurd rfl hlacks
      | some out =>
          rcases s with ⟨_ | d⟩
          · exact Or.inr ⟨_, rfl⟩
          · refine Or.inr ⟨_, d.screen.store out, rfl, fun i => ?_⟩
            rw [Pixmap.getElem?_store, Pixmap.transferable, d.screen.size_eq]
  | setBackgroundMode h mode =>
      by_cases hone : mode.toInt = 1
      · exact Or.inl ⟨_, Or.inl ⟨hone, rfl⟩⟩
      · by_cases htwo : mode.toInt = 2
        · exact Or.inl ⟨_, Or.inr ⟨htwo, rfl⟩⟩
        · rw [refusal?, if_neg (not_or.mpr ⟨hone, htwo⟩)] at hrefusal
          cases hrefusal
  | createFont height width weight faceName =>
      cases faceName with
      | none => exact absurd rfl hlacks
      | some memory => exact Or.inl ⟨_, _, meansName_iff.mpr rfl, rfl⟩
  | text _ _ _ memory len | textExtent _ memory len =>
      cases memory with
      | none => exact absurd rfl hlacks
      | some memory => exact Or.inl ⟨_, _, _, exists_meansText memory len, rfl⟩
  | beginPaint _ block | endPaint _ block | bitmapBits _ block | setBitmapBits _ block
  | polyline _ block _ | polygon _ block _ | fillRect _ block _ | frameRect _ block _
  | invertRect _ block =>
      cases block with
      | none => exact absurd rfl hlacks
      | some b => exact Or.inl ⟨_, rfl⟩
  | _ => exact Or.inl ⟨_, rfl⟩

lemma exists_comesTo (s : Session) (c : Call) : ∃ result s', c.ComesTo s result s' := by
  cases hrefusal : c.refusal? s with
  | some e => exact ⟨_, _, .refused hrefusal⟩
  | none =>
      rcases exists_asks_or_reads hrefusal with ⟨r, hasks⟩ | ⟨result, hreads⟩
      · exact ⟨_, _, .asked hrefusal hasks⟩
      · exact ⟨_, _, .read hrefusal hreads⟩

end Call

end Paintbox

import Paintbox.Proofs.Pixmap.Pixels
import Paintbox.Proofs.Session.Frame
import Paintbox.Proofs.Transfer.Pixels

/-!
# Three transfers that are one

There are three ways to ask for a block transfer, and they do not share their code: a transfer of
one size and a scaled one look their source up through different mappings, and a transfer of the
pattern goes the way of all drawings.  Still they agree wherever they can be compared: at equal sizes
scaling is the identity, and without a source the mapping is not noticed.

* `Pixmap.transfer_congr` — a transfer depends on the bytes that are found for the offsets in its
  box.
* `Pixmap.stretchTransfer_same_size`, `Pixmap.patternTransfer_eq` — the agreement between pictures.
* `Session.replaced` — **the reference**: the picture of a context is replaced by what an operation
  between pictures makes of it, of a copy of the source and of the pattern.
* `Request.perform_eq_replaced` — a transfer through any mapping is its reference.
* `Request.transfers_agree` — **the agreement of all three**, for sessions and for pictures.
-/

namespace Paintbox

/-! ## Between pictures -/

/-- Scaled to a size as large as the span, an offset within the span stays where it is. -/
lemma Mapping.scaled_self {span offset : ℤ} (hfrom : 0 ≤ offset) (hto : offset < span) :
    scaled span span offset = offset := by
  have hspan : 0 < span := by omega
  rw [scaled, if_pos hspan, Int.mul_ediv_cancel _ hspan.ne']

namespace Pixmap

variable {source source' : Option Pixmap} {m m' : Mapping} {w h : ℤ}

/-- A transfer depends on the bytes that are found for the offsets in its box. -/
lemma transfer_congr (p : Pixmap) (x y : ℤ) (op : RasterOp) (pattern : UInt8)
    (hsame : ∀ ix iy, 0 ≤ ix → ix < w → 0 ≤ iy → iy < h →
      sourceByte source (m.locate ix iy).1 (m.locate ix iy).2
        = sourceByte source' (m'.locate ix iy).1 (m'.locate ix iy).2) :
    p.transfer x y w h source m op pattern = p.transfer x y w h source' m' op pattern := by
  have hsize := sameSize_transfer p x y w h source m op pattern
  have hsize' := sameSize_transfer p x y w h source' m' op pattern
  refine ext_get? ⟨hsize.1.trans hsize'.1.symm, hsize.2.trans hsize'.2.symm⟩ fun X Y => ?_
  rw [get?_transfer, get?_transfer]
  split_ifs with hcov
  · obtain ⟨hx, hxw, hy, hyh⟩ := hcov
    rw [hsame (X - x) (Y - y) (by omega) (by omega) (by omega) (by omega)]
  · rfl

/-- Without a source every byte is zero, wherever it is looked for. -/
lemma transfer_none (p : Pixmap) (x y w h : ℤ) (m m' : Mapping) (op : RasterOp)
    (pattern : UInt8) :
    p.transfer x y w h none m op pattern = p.transfer x y w h none m' op pattern :=
  transfer_congr p x y op pattern fun _ _ _ _ _ _ => rfl

lemma stretchTransfer_same_size (p : Pixmap) (x y w h : ℤ) (source : Option Pixmap) (sx sy : ℤ)
    (op : RasterOp) (pattern : UInt8) :
    p.stretchTransfer x y w h source sx sy w h op pattern
      = p.bitTransfer x y w h source sx sy op pattern := by
  refine transfer_congr p x y op pattern fun ix iy hx hxw hy hyh => ?_
  rw [Mapping.locate_shift, Mapping.locate_of_nonneg _ hx hy]
  simp only [Mapping.scaled_self hx hxw, Mapping.scaled_self hy hyh]

lemma patternTransfer_eq (p : Pixmap) (x y w h : ℤ) (m : Mapping) (op : RasterOp)
    (pattern : UInt8) :
    p.patternTransfer x y w h op pattern = p.transfer x y w h none m op pattern :=
  transfer_none p x y w h _ m op pattern

end Pixmap

/-! ## Through contexts -/

/-- The reference of a transfer from `src` to `h`: without a display, a live destination and a
source that is live or null it is refused, with the first of these reasons.  Otherwise the picture
of the destination is replaced by what `f` makes of it, of a copy of the source and of the
pattern. -/
def Session.replaced (s : Session) (h src : ContextHandle)
    (f : Pixmap → Option Pixmap → UInt8 → Pixmap) : Except Error Reply × Session :=
  match s with
  | ⟨none⟩ => (.error .notInitialized, ⟨none⟩)
  | ⟨some d⟩ =>
      match d.context h, d.source src with
      | .error e, _ => (.error e, ⟨some d⟩)
      | .ok _, .error e => (.error e, ⟨some d⟩)
      | .ok dc, .ok source =>
          let result := f (d.target dc) source (d.inks dc).pattern
          (.ok .done, ⟨some (d.paint h fun _ => result)⟩)

/-- The null handle gives no source to make anything of. -/
lemma Session.replaced_null (s : Session) (h : ContextHandle)
    {f f' : Pixmap → Option Pixmap → UInt8 → Pixmap}
    (hsame : ∀ p pattern, f p none pattern = f' p none pattern) :
    s.replaced h .null f = s.replaced h .null f' := by
  rcases s with ⟨_ | d⟩
  · rfl
  · have hnull : d.source .null = .ok none := rfl
    rw [replaced, replaced, hnull]
    cases d.context h with
    | error e => rfl
    | ok dc => simp only [hsame]

namespace Request

open Display

variable {h src : ContextHandle}

/-- A drawing whose stroke is a transfer through a mapping is its reference, also when the source is
the destination or shares the screen with it. -/
lemma perform_eq_replaced (s : Session) {g : Drawing} {box : Box} {m : Mapping} {op : RasterOp}
    (hstroke : ∀ d, g.stroke d h = d.transferStroke h box src m op) (hsettle : g.settle = id) :
    (Request.draw h g).perform s = s.replaced h src fun p source pattern =>
      p.transfer box.x.toInt box.y.toInt box.width.toInt box.height.toInt source m op pattern := by
  rcases s with ⟨_ | d⟩
  · rfl
  · rw [perform_draw, hstroke, transferStroke, hsettle, Session.replaced]
    cases hctx : d.context h with
    | error e => rfl
    | ok dc =>
        cases d.source src with
        | error e => rfl
        | ok source =>
            have hdc := context_eq_ok_iff.mp hctx
            simp only [bind, Except.bind, pure, Except.pure, drawn_id]
            exact congrArg (fun d' => (Except.ok Reply.done, Session.mk (some d')))
              (paint_congr hdc rfl)

/-- The pattern is transferred without a source, whatever mapping one thinks of. -/
lemma stroke_patternTransfer (d : Display) (h : ContextHandle) (box : Box) (m : Mapping)
    (op : RasterOp) :
    (Drawing.patternTransfer box op).stroke d h = d.transferStroke h box .null m op := by
  have hnull : d.source .null = .ok none := rfl
  rw [Drawing.stroke, transferStroke, hnull]
  cases d.context h with
  | error e => rfl
  | ok dc =>
      simp only [Except.map, bind, Except.bind, pure, Except.pure,
        Pixmap.patternTransfer_eq _ _ _ _ _ m]

/-- **The three transfers agree.**  In every session, with a display or without, and for all
handles, dead, null or live: a scaled transfer whose source box is as large as its destination box
is answered as, and leaves the session as, the transfer of one size; and the transfer of the pattern
does as either of them without a source, wherever that is looked for.  The same is true of the
operations between pictures, and each of the three is its operation between pictures, applied to the
picture of the destination and a copy of the source as it was before. -/
theorem transfers_agree (s : Session) (h src : ContextHandle) (box srcBox : Box) (sx sy : Int16)
    (op : RasterOp) :
    -- through contexts
    ((draw h (.stretchTransfer box src ⟨sx, sy, box.width, box.height⟩ op)).perform s
        = (draw h (.bitTransfer box src sx sy op)).perform s ∧
      (draw h (.patternTransfer box op)).perform s
        = (draw h (.bitTransfer box .null sx sy op)).perform s ∧
      (draw h (.patternTransfer box op)).perform s
        = (draw h (.stretchTransfer box .null srcBox op)).perform s) ∧
    -- between pictures
    (∀ (p : Pixmap) (source : Option Pixmap) (x y w h sx sy sw sh : ℤ) (pattern : UInt8),
      p.stretchTransfer x y w h source sx sy w h op pattern
          = p.bitTransfer x y w h source sx sy op pattern ∧
        p.patternTransfer x y w h op pattern = p.bitTransfer x y w h none sx sy op pattern ∧
        p.patternTransfer x y w h op pattern
          = p.stretchTransfer x y w h none sx sy sw sh op pattern) ∧
    -- from the one to the other
    (draw h (.bitTransfer box src sx sy op)).perform s
      = s.replaced h src (fun p source pattern =>
          p.bitTransfer box.x.toInt box.y.toInt box.width.toInt box.height.toInt source sx.toInt
            sy.toInt op pattern) ∧
    (draw h (.stretchTransfer box src srcBox op)).perform s
      = s.replaced h src (fun p source pattern =>
          p.stretchTransfer box.x.toInt box.y.toInt box.width.toInt box.height.toInt source
            srcBox.x.toInt srcBox.y.toInt srcBox.width.toInt srcBox.height.toInt op pattern) ∧
    (draw h (.patternTransfer box op)).perform s
      = s.replaced h .null (fun p _ pattern =>
          p.patternTransfer box.x.toInt box.y.toInt box.width.toInt box.height.toInt op
            pattern) := by
  have hbit : ∀ src, (draw h (.bitTransfer box src sx sy op)).perform s = s.replaced h src _ :=
    fun src => perform_eq_replaced s (fun _ => rfl) rfl
  have hstretch : ∀ src srcBox, (draw h (.stretchTransfer box src srcBox op)).perform s
      = s.replaced h src _ := fun src srcBox => perform_eq_replaced s (fun _ => rfl) rfl
  have hpattern : ∀ m, (draw h (.patternTransfer box op)).perform s = s.replaced h .null _ :=
    fun m => perform_eq_replaced s (fun d => stroke_patternTransfer d h box m op) rfl
  refine ⟨⟨?_, ?_, ?_⟩, ?_, hbit src, hstretch src srcBox, ?_⟩
  · rw [hbit src, hstretch src]
    refine congrArg (s.replaced h src) ?_
    funext p source pattern
    exact Pixmap.stretchTransfer_same_size p _ _ _ _ source _ _ op pattern
  · rw [hbit .null, hpattern]
  · rw [hstretch .null srcBox, hpattern]
  · intro p source x y w h sx sy sw sh pattern
    exact ⟨Pixmap.stretchTransfer_same_size p x y w h source sx sy op pattern,
      Pixmap.patternTransfer_eq p x y w h _ op pattern,
      Pixmap.patternTransfer_eq p x y w h _ op pattern⟩
  · rw [hpattern (.shift 0 0)]
    exact s.replaced_null h fun p pattern => rfl

end Request

end Paintbox

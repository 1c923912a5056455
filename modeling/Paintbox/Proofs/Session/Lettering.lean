import Paintbox.Proofs.Lettering
import Paintbox.Proofs.Session.Frame
import Paintbox.Proofs.Session.Sound

/-!
# Text through contexts

A text is drawn through a context in its text color, whatever else is selected there, and its extent
is asked of the same context.  Both take the same bytes of the text, so no ink is outside the
extent: a screen is narrow enough for that, also where the width of a very long text is cut off.

* `Display.Lettered` — **the reference**: a display before and after a text.
* `Request.perform_text`, `Request.perform_textExtent` — the two requests on a live context.
* `Session.covers_extent` — ink on a screen is within the extent.
* `Session.run_text_pieces` — a text in two pieces.
* **`Session.picture_of_text`** — what a text draws, and where.
-/

namespace Paintbox

open DisplayAction Display

namespace Display

/-- The display `d'` is `d` after the bytes `drawn` have been drawn through the context `dc` under
`h`, the cell of the first one with its corner at `x`, `y`. -/
structure Lettered (d d' : Display) (h : ContextHandle) (dc : DeviceContext) (x y : ℤ)
    (drawn : List UInt8) : Prop where
  /-- Nothing but the picture of the context has changed, and that keeps its size. -/
  frame : d.Confined d' h dc False
  pixels : ∃ p, d'.surface h = .ok p ∧ ∀ X Y, p.get? X Y =
    if Lettering.Inked x y drawn X Y then
      ((d.target dc).get? X Y).map fun _ => dc.textColor.word.toUInt8
    else (d.target dc).get? X Y

end Display

variable {d : Display} {h : ContextHandle} {dc : DeviceContext}

namespace Request

/-- The picture of a context with a text on it. -/
lemma perform_text (hdc : d.contexts.get? h.code = some dc) (pt : Point) (codes : List UInt8)
    (len : Option ℕ) : (Request.draw h (.text pt codes len)).perform ⟨some d⟩
      = (.ok .done, ⟨some (d.paint h fun p =>
          p.text pt.x.toInt pt.y.toInt (Lettering.span codes len) dc.textColor.index)⟩) := by
  rw [perform_draw, Drawing.stroke, context_eq_ok_iff.mpr hdc]
  simp only [Except.map, Drawing.settle, drawn_id, inks]

lemma perform_textExtent (hdc : d.contexts.get? h.code = some dc) (codes : List UInt8)
    (len : Option ℕ) : (Request.textExtent h codes len).perform ⟨some d⟩
      = (.ok (.size (Lettering.extent (Lettering.span codes len).length).1
          (Lettering.extent (Lettering.span codes len).length).2), ⟨some d⟩) := by
  simp only [perform, answer, Session.perform_some, Display.textExtent, on_register,
    context_eq_ok_iff.mpr hdc, Except.map]

end Request

namespace Display

lemma lettered_paint (hdc : d.contexts.get? h.code = some dc) (x y : ℤ) (drawn : List UInt8) :
    d.Lettered (d.paint h fun p => p.text x y drawn dc.textColor.index) h dc x y drawn where
  frame := by
    rw [← drawn_id]
    exact confined_drawn hdc (fun p => Pixmap.sameSize_text _ _ _ p _)
      (fun c => ⟨c.position, rfl⟩) fun _ => rfl
  pixels := ⟨_, surface_paint_self hdc _, fun X Y => Pixmap.get?_text _ _ X Y _ _ _⟩

end Display

namespace Session

/-- Ink that is on a picture no wider than a screen can be lies within the extent of its text. -/
lemma covers_extent {p : Pixmap} {pt : Point} {drawn : List UInt8} {X Y : ℤ}
    (hwide : p.width ≤ Settings.maxSide) (hlength : drawn.length < 2 ^ 63)
    (hink : Lettering.Inked pt.x.toInt pt.y.toInt drawn X Y) (hin : p.Contains X Y) :
    Covers pt.x.toInt pt.y.toInt (Lettering.extent drawn.length).1
      (Lettering.extent drawn.length).2 X Y := by
  obtain ⟨hx, hxw, hy, hyh⟩ := hink.covers
  have hleft := pt.x.le_toInt
  have hright := hin.2.1
  have hside : (Glyph.side : ℤ) = 8 := rfl
  rw [Lettering.extent_of_lt hlength, hside]
  rw [Settings.maxSide] at hwide
  refine ⟨hx, ?_, hy, hyh⟩
  simp only [Lettering.maxWidth]
  omega

/-- Two pieces of a text, the second of them where the cells of the first one end. -/
lemma run_text_pieces (hdc : d.contexts.get? h.code = some dc) (pt : Point) {a b : List UInt8}
    {n m k : ℕ} {x : Int16} (ha : a.length ≤ n) (hb : b.length ≤ m) (hab : (a ++ b).length ≤ k)
    (hx : x.toInt = pt.x.toInt + 8 * a.length) :
    ∃ s, (Request.draw h (.text pt (a ++ b) (some k))).perform ⟨some d⟩ = (.ok .done, s) ∧
      run ⟨some d⟩ [.draw h (.text pt a (some n)), .draw h (.text ⟨x, pt.y⟩ b (some m))]
        = ([.ok .done, .ok .done], s) := by
  have hside : (Glyph.side : ℤ) = 8 := rfl
  have hwhole : ∀ p : Pixmap, p.text pt.x.toInt pt.y.toInt (a ++ b) dc.textColor.index
      = (p.text pt.x.toInt pt.y.toInt a dc.textColor.index).text x.toInt pt.y.toInt b
          dc.textColor.index := by
    intro p
    rw [Pixmap.text_append, hside, hx]
  refine ⟨_, Request.perform_text hdc pt (a ++ b) (some k), ?_⟩
  -- the second piece is drawn through a context that has the same text color
  simp only [run, Request.perform_text hdc, Request.perform_text (get?_paint_self hdc _),
    Lettering.span_of_le ha, Lettering.span_of_le hb, Lettering.span_of_le hab, hwhole]
  rw [paint_paint]
  rfl

/-- **The picture of a text.**  Through any live context of a display that a run has led to, a text
can be drawn at any point, and its start, up to the given length or else to the first zero byte,
appears in the text color: the ink of the glyphs in cells that follow each other, as far as it is on
the picture.  There is none for codes outside the font.  All of it lies within the extent that is
answered for the same text; the bound on the length says that the text fits into memory.

If lengths are given, a text may also be drawn in **two pieces**, with the second one where the
cells of the first one end. -/
theorem picture_of_text {rs : List Request} (hrun : (closed.run rs).2 = ⟨some d⟩)
    (hdc : d.contexts.get? h.code = some dc) (pt : Point) :
    (∀ (codes : List UInt8) (len : Option ℕ), ∃ drawn d', Lettering.IsSpan codes len drawn ∧
      (Request.draw h (.text pt codes len)).perform ⟨some d⟩ = (.ok .done, ⟨some d'⟩) ∧
      d.Lettered d' h dc pt.x.toInt pt.y.toInt drawn ∧
      (∀ X Y, Lettering.Inked pt.x.toInt pt.y.toInt drawn X Y →
        Covers pt.x.toInt pt.y.toInt (8 * drawn.length) 8 X Y ∧
        ∃ code ∈ drawn[((X - pt.x.toInt) / 8).toNat]?, 32 ≤ code ∧ code ≤ 126) ∧
      ∃ wide tall,
        (Request.textExtent h codes len).perform ⟨some d⟩ = (.ok (.size wide tall), ⟨some d⟩) ∧
        (drawn.length < 2 ^ 63 → ∀ p, d'.surface h = .ok p → ∀ X Y,
          p.get? X Y ≠ (d.target dc).get? X Y → Covers pt.x.toInt pt.y.toInt wide tall X Y)) ∧
    ∀ (a b : List UInt8) (n m k : ℕ) (x : Int16), a.length ≤ n → b.length ≤ m →
      (a ++ b).length ≤ k → x.toInt = pt.x.toInt + 8 * a.length →
      ∃ s, (Request.draw h (.text pt (a ++ b) (some k))).perform ⟨some d⟩ = (.ok .done, s) ∧
        run ⟨some d⟩ [.draw h (.text pt a (some n)), .draw h (.text ⟨x, pt.y⟩ b (some m))]
          = ([.ok .done, .ok .done], s) := by
  refine ⟨fun codes len => ?_, fun a b n m k x ha hb hab hx => run_text_pieces hdc pt ha hb hab hx⟩
  refine ⟨Lettering.span codes len, _, Lettering.isSpan_span codes len,
    Request.perform_text hdc pt codes len, lettered_paint hdc _ _ _,
    fun X Y hink => ⟨hink.covers, hink.printable⟩, _, _,
    Request.perform_textExtent hdc codes len, fun hlength p hp X Y hchanged => ?_⟩
  rw [surface_paint_self hdc] at hp
  obtain rfl := Except.ok.inj hp
  obtain ⟨hink, hin⟩ := Pixmap.inked_of_text hchanged
  obtain ⟨_, -, hd⟩ := sound_run (sound_closed none) rs d (congrArg Session.display hrun)
  exact covers_extent (hd.sides_le (hd.target hdc)).1 hlength hink hin

/-- On a screen of nine pixels by eight, a text that starts half a cell left of the screen and has a
zero byte in the middle: with a length it is drawn in one piece or in two, and without one it ends
there.  Of its only letter the right half is seen, from the second row on: in the first row of the
letter the right one of its two strokes, and in the fourth row the end of the bar, too. -/
theorem picture_of_text_clipped :
    ∃ d dc, (closed.run [.start .ample ⟨9, 8, 1, 1⟩, .openContext 7]).2 = ⟨some d⟩ ∧
      d.contexts.get? 1 = some dc ∧
      (∃ d' wide tall,
        (Request.draw ⟨1⟩ (.text ⟨-4, 1⟩ [72, 0, 33] none)).perform ⟨some d⟩
          = (.ok .done, ⟨some d'⟩) ∧
        d.Lettered d' ⟨1⟩ dc (-4) 1 [72] ∧
        (∃ p, d'.surface ⟨1⟩ = .ok p ∧
          [p.get? 0 1, p.get? 1 1, p.get? 2 1, p.get? 3 1]
            = [some 0, some 255, some 255, some 0] ∧
          [p.get? 0 4, p.get? 1 4, p.get? 2 4, p.get? 3 4]
            = [some 255, some 255, some 255, some 0]) ∧
        (Request.textExtent ⟨1⟩ [72, 0, 33] none).perform ⟨some d⟩
          = (.ok (.size wide tall), ⟨some d⟩) ∧
        ∀ p, d'.surface ⟨1⟩ = .ok p → ∀ X Y, p.get? X Y ≠ (d.target dc).get? X Y →
          Covers (-4) 1 wide tall X Y) ∧
      ∃ s, (Request.draw ⟨1⟩ (.text ⟨-4, 1⟩ [72, 0, 33] (some 5))).perform ⟨some d⟩
          = (.ok .done, s) ∧
        run ⟨some d⟩ [.draw ⟨1⟩ (.text ⟨-4, 1⟩ [72] (some 1)),
          .draw ⟨1⟩ (.text ⟨4, 1⟩ [0, 33] (some 5))] = ([.ok .done, .ok .done], s) := by
  obtain ⟨d, dc, hrun, hdc, hcolor, hblank⟩ : ∃ d dc,
      (closed.run [.start .ample ⟨9, 8, 1, 1⟩, .openContext 7]).2 = ⟨some d⟩ ∧
        d.contexts.get? (ContextHandle.code ⟨1⟩) = some dc ∧ dc.textColor.word.toUInt8 = 255 ∧
        ∀ X ∈ [0, 1, 2, 3], ∀ Y ∈ [1, 4], (d.target dc).get? X Y = some 0 :=
    ⟨_, _, rfl, rfl, rfl, by decide⟩
  obtain ⟨hdrawn, hpieces⟩ := picture_of_text hrun hdc ⟨-4, 1⟩
  refine ⟨d, dc, hrun, hdc, ?_, ?_⟩
  · obtain ⟨drawn, d', hspan, hdone, hlettered, -, wide, tall, hextent, hwithin⟩ :=
      hdrawn [72, 0, 33] none
    obtain rfl : drawn = [72] := hspan.eq_span
    refine ⟨d', wide, tall, hdone, hlettered, ?_, hextent, hwithin (by decide)⟩
    obtain ⟨p, hp, hpixels⟩ := hlettered.pixels
    have hink : ∀ X ∈ [0, 1, 2, 3], ∀ Y ∈ [1, 4],
        p.get? X Y = if Lettering.Inked (-4) 1 [72] X Y then some 255 else some 0 := by
      intro X hX Y hY
      have hpixel := hpixels X Y
      rw [hblank X hX Y hY, hcolor, Option.map_some] at hpixel
      exact hpixel
    refine ⟨p, hp, ?_, ?_⟩
    · rw [hink 0 (by decide) 1 (by decide), hink 1 (by decide) 1 (by decide),
        hink 2 (by decide) 1 (by decide), hink 3 (by decide) 1 (by decide)]
      decide
    · rw [hink 0 (by decide) 4 (by decide), hink 1 (by decide) 4 (by decide),
        hink 2 (by decide) 4 (by decide), hink 3 (by decide) 4 (by decide)]
      decide
  · exact hpieces [72] [0, 33] 1 5 5 4 (by decide) (by decide) (by decide) (by decide)

end Session

end Paintbox

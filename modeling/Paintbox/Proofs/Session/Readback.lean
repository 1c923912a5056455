import Paintbox.Proofs.Session.Frame

/-!
# Pixels are read as they were written

A pixel that is written through one context is seen through all contexts on the same canvas, and
through no other one.  It is one pixel that changes: no two points of a picture share a byte.

* `Display.canvas?_eq_iff` — two live contexts have one canvas if they are the same, or if none of
  them is a memory context.
* `Display.surface_paint` — what a context draws on, after any other one has been painted through.
* `Session.getPixel_of_surface`, `Session.getPixel_eq_invalid_iff` — reading a pixel, and when there
  is none.
* **`Session.getPixel_of_setPixel`** — a write and all reads after it.
-/

namespace Paintbox

/-- The palette index of a color, as a color again, is the low byte of its word. -/
lemma Color.ofIndex_index (c : Color) : ofIndex c.index = ⟨c.word &&& 0xFF⟩ := by
  have hlow : c.word.toUInt8.toUInt32 = c.word &&& 0xFF := by
    rw [UInt32.toUInt32_toUInt8, ← UInt32.toNat_inj, UInt32.toNat_mod, UInt32.toNat_and]
    exact (Nat.and_two_pow_sub_one_eq_mod c.word.toNat 8).symm
  rw [ofIndex, index, hlow]

namespace Display

variable {d : Display} {a b : ContextHandle} {da db : DeviceContext}

/-- Contexts share a canvas only if it is the screen. -/
lemma canvas?_eq_iff (ha : d.contexts.get? a.code = some da)
    (hb : d.contexts.get? b.code = some db) :
    d.canvas? b = d.canvas? a ↔ a = b ∨ da.isMemory = false ∧ db.isMemory = false := by
  rw [canvas?, canvas?, ha, hb]
  constructor
  · intro hsame
    cases hamem : da.isMemory <;> cases hbmem : db.isMemory
    · exact Or.inr ⟨rfl, rfl⟩
    · simp [hamem, hbmem] at hsame
    · simp [hamem, hbmem] at hsame
    · simp only [hamem, hbmem, Option.map_some, if_true, Option.some.injEq,
        Canvas.surface.injEq] at hsame
      exact Or.inl hsame.symm
  · rintro (rfl | ⟨hamem, hbmem⟩)
    · rw [ha] at hb
      rw [Option.some.inj hb]
    · simp [hamem, hbmem]

lemma target_eq_of_shared (ha : d.contexts.get? a.code = some da)
    (hb : d.contexts.get? b.code = some db)
    (hshared : a = b ∨ da.isMemory = false ∧ db.isMemory = false) : d.target db = d.target da := by
  rcases hshared with rfl | ⟨hamem, hbmem⟩
  · rw [ha] at hb
    rw [Option.some.inj hb]
  · rw [target_screen hamem, target_screen hbmem]

/-- Painting through one context is seen through those on its canvas. -/
lemma surface_paint (ha : d.contexts.get? a.code = some da)
    (hb : d.contexts.get? b.code = some db) (f : Pixmap → Pixmap) :
    (d.paint a f).surface b
      = .ok (if a = b ∨ da.isMemory = false ∧ db.isMemory = false then f (d.target db)
        else d.target db) := by
  split_ifs with hshared
  · rcases hshared with rfl | ⟨hamem, hbmem⟩
    · exact surface_paint_self hb f
    · rw [paint_screen ha hamem, target_screen hbmem,
        surface_of_live (d := { d with screen := f d.screen }) hb, target_screen hbmem]
  · have hother : d.canvas? b ≠ d.canvas? a := (canvas?_eq_iff ha hb).not.mpr hshared
    rw [← drawn_id, surface_drawn_of_ne ha hother f id, surface_of_live hb]

end Display

namespace Session

variable {d : Display} {h : ContextHandle} {p : Pixmap}

lemma getPixel_of_surface (hp : d.surface h = .ok p) (pt : Point) :
    getPixel ⟨some d⟩ h pt = ((p.get? pt.x.toInt pt.y.toInt).map Color.ofIndex).getD .invalid := by
  simp only [getPixel, ask, hp]

/-- The answer for a missing pixel is given exactly off the picture: no color of a pixel is mistaken
for it. -/
lemma getPixel_eq_invalid_iff (hp : d.surface h = .ok p) (pt : Point) :
    getPixel ⟨some d⟩ h pt = .invalid ↔ ¬ p.Contains pt.x.toInt pt.y.toInt := by
  rw [getPixel_of_surface hp]
  by_cases hon : p.Contains pt.x.toInt pt.y.toInt
  · rw [Pixmap.get?_eq_some hon]
    exact iff_of_false (Color.ofIndex_ne_invalid _) (not_not_intro hon)
  · rw [Pixmap.get?_eq_none hon]
    exact iff_of_true rfl hon

end Session

/-! ## Points -/

namespace Point

/-- Does the point lie on a picture of the given width and height? -/
def Within (pt : Point) (wide tall : ℕ) : Prop :=
  0 ≤ pt.x.toInt ∧ pt.x.toInt < wide ∧ 0 ≤ pt.y.toInt ∧ pt.y.toInt < tall

instance (pt : Point) (wide tall : ℕ) : Decidable (pt.Within wide tall) :=
  inferInstanceAs (Decidable (_ ∧ _ ∧ _ ∧ _))

/-- Different points are different places on the plane. -/
lemma toInt_eq_iff {p q : Point} : p.x.toInt = q.x.toInt ∧ p.y.toInt = q.y.toInt ↔ p = q := by
  cases p
  cases q
  simp only [Int16.toInt_inj, mk.injEq]

end Point

/-- A write at a point is seen at that point, if it lies on the picture, and nowhere else. -/
lemma Pixmap.get?_put_point (p : Pixmap) (pt pt' : Point) (v : UInt8) :
    (p.put pt.x.toInt pt.y.toInt v).get? pt'.x.toInt pt'.y.toInt
      = if pt.Within p.width p.height ∧ pt' = pt then some v
        else p.get? pt'.x.toInt pt'.y.toInt := by
  rw [get?_put]
  by_cases hpt : pt' = pt
  · rw [if_pos (Point.toInt_eq_iff.mpr hpt), hpt]
    by_cases hon : p.Contains pt.x.toInt pt.y.toInt
    · rw [if_pos ⟨hon, rfl⟩, get?_eq_some hon, Option.map_some]
    · rw [if_neg fun h => hon h.1, get?_eq_none hon, Option.map_none]
  · rw [if_neg (Point.toInt_eq_iff.not.mpr hpt), if_neg fun h => hpt h.2]

/-! ## Writing and reading -/

namespace Session

open Display

variable {d : Display} {a b : ContextHandle} {da db : DeviceContext}

lemma setPixel_of_live (ha : d.contexts.get? a.code = some da) (pt : Point) (c : Color) :
    setPixel ⟨some d⟩ a pt c
      = (if pt.Within (d.target da).width (d.target da).height then ⟨c.word &&& 0xFF⟩ else .invalid,
        ⟨some (d.paint a fun p => p.put pt.x.toInt pt.y.toInt c.index)⟩) := by
  have hrequest := Request.perform_setPixel (context_eq_ok_iff.mpr ha) pt c
  rw [drawn_id, Color.ofIndex_index] at hrequest
  simp only [Request.perform, Prod.mk.injEq, Except.ok.injEq, Reply.color.injEq] at hrequest
  exact Prod.ext hrequest.1 hrequest.2

lemma perform_extent_of_live (ha : d.contexts.get? a.code = some da) :
    (Request.extent a).perform ⟨some d⟩
      = (.ok (.size (d.target da).width (d.target da).height), ⟨some d⟩) := by
  simp only [Request.perform, Request.answer, perform_some, extent, DisplayAction.on_ask,
    surface_of_live ha, Except.map]

/-- **A pixel is read as it was written.**  Take two live contexts, which may be the same, and the
sizes that they answer when they are asked for their extents.  Writing a pixel through the first is
answered by the low byte of the color if the point lies within its extent, and by the invalid color
otherwise.  After that a pixel that is read through the second is this low byte if the write has
landed, the point is the same, and both draw on one picture; in every other case it is what it was
before.  Before and after, the invalid color is read exactly at the points outside the extent. -/
theorem getPixel_of_setPixel (ha : d.contexts.get? a.code = some da)
    (hb : d.contexts.get? b.code = some db) (pt : Point) (c : Color) :
    ∃ (wide tall wide' tall' : ℕ) (s : Session),
      (Request.extent a).perform ⟨some d⟩ = (.ok (.size wide tall), ⟨some d⟩) ∧
      (Request.extent b).perform ⟨some d⟩ = (.ok (.size wide' tall'), ⟨some d⟩) ∧
      setPixel ⟨some d⟩ a pt c
        = (if pt.Within wide tall then ⟨c.word &&& 0xFF⟩ else .invalid, s) ∧
      ∀ pt',
        s.getPixel b pt' = (if pt.Within wide tall ∧ pt' = pt ∧
            (a = b ∨ da.isMemory = false ∧ db.isMemory = false)
          then ⟨c.word &&& 0xFF⟩ else getPixel ⟨some d⟩ b pt') ∧
        (getPixel ⟨some d⟩ b pt' = .invalid ↔ ¬ pt'.Within wide' tall') ∧
        (s.getPixel b pt' = .invalid ↔ ¬ pt'.Within wide' tall') := by
  have hbefore := surface_of_live hb
  have hafter := surface_paint ha hb fun p => p.put pt.x.toInt pt.y.toInt c.index
  refine ⟨(d.target da).width, (d.target da).height, (d.target db).width, (d.target db).height, _,
    perform_extent_of_live ha, perform_extent_of_live hb, setPixel_of_live ha pt c,
    fun pt' => ⟨?_, getPixel_eq_invalid_iff hbefore pt', ?_⟩⟩
  · rw [getPixel_of_surface hafter, getPixel_of_surface hbefore]
    by_cases hshared : a = b ∨ da.isMemory = false ∧ db.isMemory = false
    · rw [if_pos hshared, target_eq_of_shared ha hb hshared, Pixmap.get?_put_point]
      by_cases hseen : pt.Within (d.target da).width (d.target da).height ∧ pt' = pt
      · rw [if_pos hseen, if_pos ⟨hseen.1, hseen.2, hshared⟩, Option.map_some, Option.getD_some,
          Color.ofIndex_index]
      · rw [if_neg hseen, if_neg fun h => hseen ⟨h.1, h.2.1⟩]
    · rw [if_neg hshared, if_neg fun h => hshared h.2.2]
  · rw [getPixel_eq_invalid_iff hafter]
    split_ifs with hshared
    · have hsize := Pixmap.sameSize_put (d.target db) pt.x.toInt pt.y.toInt c.index
      rw [Pixmap.Contains, hsize.1, hsize.2]
      rfl
    · rfl

/-- With two contexts on a screen of two pixels, the second pixel is written through one of them and
read through the other; the first pixel is still blank, and there is no third one. -/
theorem getPixel_of_setPixel_shared :
    ∃ d da db,
      (closed.run [.start .ample ⟨2, 1, 2, 1⟩, .openContext 7, .openContext 8]).2 = ⟨some d⟩ ∧
      d.contexts.get? 1 = some da ∧ d.contexts.get? 2 = some db ∧
      ∃ s, setPixel ⟨some d⟩ ⟨1⟩ ⟨1, 0⟩ ⟨0x1234⟩ = (⟨0x34⟩, s) ∧
        s.getPixel ⟨2⟩ ⟨1, 0⟩ = ⟨0x34⟩ ∧ s.getPixel ⟨2⟩ ⟨0, 0⟩ = ⟨0⟩ ∧
        s.getPixel ⟨2⟩ ⟨2, 0⟩ = .invalid := by
  obtain ⟨d, da, db, hrun, ha, hb, hshared, hext, hblank⟩ : ∃ d da db, (closed.run
        [.start .ample ⟨2, 1, 2, 1⟩, .openContext 7, .openContext 8]).2 = ⟨some d⟩ ∧
      d.contexts.get? (ContextHandle.mk 1).code = some da ∧
      d.contexts.get? (ContextHandle.mk 2).code = some db ∧
      (da.isMemory = false ∧ db.isMemory = false) ∧
      (∀ h : ContextHandle, h = ⟨1⟩ ∨ h = ⟨2⟩ →
        (Request.extent h).perform ⟨some d⟩ = (.ok (.size 2 1), ⟨some d⟩)) ∧
      getPixel ⟨some d⟩ ⟨2⟩ ⟨0, 0⟩ = ⟨0⟩ :=
    ⟨_, _, _, rfl, rfl, rfl, ⟨rfl, rfl⟩, by rintro h (rfl | rfl) <;> rfl, rfl⟩
  obtain ⟨wide, tall, wide', tall', s, hwide, hwide', hset, hread⟩ :=
    getPixel_of_setPixel ha hb ⟨1, 0⟩ ⟨0x1234⟩
  have hanswer := (hext ⟨1⟩ (Or.inl rfl)).symm.trans hwide
  have hanswer' := (hext ⟨2⟩ (Or.inr rfl)).symm.trans hwide'
  simp only [Prod.mk.injEq, Except.ok.injEq, Reply.size.injEq] at hanswer hanswer'
  obtain ⟨rfl, rfl⟩ : wide = 2 ∧ tall = 1 := by omega
  obtain ⟨rfl, rfl⟩ : wide' = 2 ∧ tall' = 1 := by omega
  refine ⟨d, da, db, hrun, ha, hb, s, hset, ?_, ?_, ?_⟩
  · exact (hread ⟨1, 0⟩).1.trans (if_pos ⟨by decide, rfl, Or.inr hshared⟩)
  · exact (hread ⟨0, 0⟩).1.trans ((if_neg fun h => absurd h.2.1 (by decide)).trans hblank)
  · exact (hread ⟨2, 0⟩).2.2.mpr (by decide)

end Session

end Paintbox

import Mathlib
import Paintbox.Proofs.Transfer.Agreement

/-!
# Scaling is even

A scaled transfer finds the source of a pixel by one division that rounds toward zero.  So the
offsets that are sent to one column of the source are an interval between two multiples of the ratio
of the sizes, each rounded up, and the lengths of such intervals differ by one at most.  Whatever
the two sizes are, no column is favored, and none outside of the source box is read.

* `Mapping.Balanced` — **what an even map between two spans is like**.
* `Mapping.scale_eq_iff`, `Mapping.sampling_scale` — the offsets that are sent to one column.
* `ceil_add_sub_ceil` — how many there are.
* `Mapping.balanced_scale` — scaling is even.
* `Mapping.locate_mem_box` — nothing outside of the source box is found.
* `Mapping.balanced_locate` — what this says about mappings and about transfers through them.
-/

namespace Paintbox

/-- From one number to another one `q` on, there are `q` integers, rounded either way. -/
lemma ceil_add_sub_ceil (x q : ℚ) : ⌈x + q⌉ - ⌈x⌉ = ⌊q⌋ ∨ ⌈x + q⌉ - ⌈x⌉ = ⌈q⌉ := by
  have hle : ⌈x + q⌉ ≤ ⌈x⌉ + ⌈q⌉ := Int.ceil_add_le x q
  have hge : ⌈x⌉ + ⌊q⌋ ≤ ⌈x + q⌉ := by
    rw [← Int.ceil_add_intCast]
    exact Int.ceil_mono (by linarith [Int.floor_le q])
  have hgap : ⌈q⌉ ≤ ⌊q⌋ + 1 := Int.ceil_le_floor_add_one q
  omega

namespace Mapping

/-! ## Even maps -/

/-- The offsets below `span` that are sent to `c`. -/
noncomputable def sampling (f : ℤ → ℤ) (span c : ℤ) : Finset ℤ :=
  (Finset.Ico 0 span).filter fun i => f i = c

/-- The offsets below `span` are sent to those below `size` in their order, and to each of these
equally often as far as that is possible. -/
structure Balanced (size span : ℤ) (f : ℤ → ℤ) : Prop where
  range : ∀ i, 0 ≤ i → i < span → 0 ≤ f i ∧ f i < size
  first : f 0 = 0
  mono : ∀ i j, 0 ≤ i → i ≤ j → f i ≤ f j
  /-- Every offset of the source has its share, rounded down or up. -/
  share : ∀ c, 0 ≤ c → c < size →
    (sampling f span c).card = ⌊(span / size : ℚ)⌋ ∨ (sampling f span c).card = ⌈(span / size : ℚ)⌉
  /-- Enlarged `k` times, every offset of the source comes `k` times in a row. -/
  repeats : ∀ k, span = k * size → (∀ i, 0 ≤ i → f i = i / k) ∧
    ∀ c, 0 ≤ c → c < size → (sampling f span c).card = k
  /-- Reduced `k` times, every `k`-th offset of the source is taken. -/
  skips : ∀ k, size = k * span → ∀ i, 0 ≤ i → f i = k * i

/-! ## Scaling -/

section Scale

variable {size span i c : ℤ}

lemma scale_of_pos (hsize : 0 < size) (hi : 0 ≤ i) : scale size span i = i * size / span := by
  rw [scale_eq_scaled hi, scaled, if_pos hsize]

lemma ratio_nonneg (hsize : 0 < size) (hspan : 0 < span) : (0 : ℚ) ≤ span / size :=
  div_nonneg (by exact_mod_cast hspan.le) (by exact_mod_cast hsize.le)

/-- An offset is sent to `c` if it lies between two multiples of the ratio. -/
lemma scale_eq_iff (hsize : 0 < size) (hspan : 0 < span) (hi : 0 ≤ i) :
    scale size span i = c
      ↔ ⌈c * (span / size : ℚ)⌉ ≤ i ∧ i < ⌈c * (span / size : ℚ) + span / size⌉ := by
  have hpos : (0 : ℚ) < size := by exact_mod_cast hsize
  have hnext : c * (span / size : ℚ) + span / size = (c * span + span) / size := by ring
  rw [scale_of_pos hsize hi, Int.ediv_eq_iff_of_pos hspan, Int.ceil_le, Int.lt_ceil, hnext,
    ← mul_div_assoc, div_le_iff₀ hpos, lt_div_iff₀ hpos]
  norm_cast

lemma sampling_scale (hsize : 0 < size) (hspan : 0 < span) (hc : 0 ≤ c) (hcsize : c < size) :
    sampling (scale size span) span c
      = Finset.Ico ⌈c * (span / size : ℚ)⌉ ⌈c * (span / size : ℚ) + span / size⌉ := by
  have hpos : (0 : ℚ) < size := by exact_mod_cast hsize
  have hratio := ratio_nonneg hsize hspan
  have hfrom : 0 ≤ ⌈c * (span / size : ℚ)⌉ :=
    Int.ceil_nonneg (mul_nonneg (by exact_mod_cast hc) hratio)
  have hto : ⌈c * (span / size : ℚ) + span / size⌉ ≤ span := by
    have hlast : (c + 1 : ℚ) ≤ size := by exact_mod_cast hcsize
    rw [Int.ceil_le]
    calc c * (span / size : ℚ) + span / size = (c + 1) * (span / size) := by ring
      _ ≤ size * (span / size) := mul_le_mul_of_nonneg_right hlast hratio
      _ = span := mul_div_cancel₀ _ hpos.ne'
  ext i
  rw [sampling, Finset.mem_filter, Finset.mem_Ico, Finset.mem_Ico]
  constructor
  · rintro ⟨⟨hi, -⟩, hsent⟩
    exact (scale_eq_iff hsize hspan hi).mp hsent
  · rintro ⟨hlow, hhigh⟩
    have hi := hfrom.trans hlow
    exact ⟨⟨hi, hhigh.trans_le hto⟩, (scale_eq_iff hsize hspan hi).mpr ⟨hlow, hhigh⟩⟩

/-- The share of an offset of the source, rounded down or up. -/
lemma card_sampling_scale (hsize : 0 < size) (hspan : 0 < span) (hc : 0 ≤ c) (hcsize : c < size) :
    (sampling (scale size span) span c).card = ⌊(span / size : ℚ)⌋ ∨
      (sampling (scale size span) span c).card = ⌈(span / size : ℚ)⌉ := by
  have hratio := ratio_nonneg hsize hspan
  have hfloor : 0 ≤ ⌊(span / size : ℚ)⌋ := Int.floor_nonneg.mpr hratio
  have hceil : 0 ≤ ⌈(span / size : ℚ)⌉ := Int.ceil_nonneg hratio
  have hcount := ceil_add_sub_ceil (c * (span / size : ℚ)) (span / size)
  rw [sampling_scale hsize hspan hc hcsize, Int.card_Ico]
  omega

/-- **Scaling is even**, between any two sizes. -/
lemma balanced_scale (hsize : 0 < size) (hspan : 0 < span) :
    Balanced size span (scale size span) where
  range := by
    intro i hi hlt
    rw [scale_of_pos hsize hi]
    refine ⟨Int.ediv_nonneg (mul_nonneg hi hsize.le) hspan.le, ?_⟩
    rw [Int.ediv_lt_iff_lt_mul hspan, mul_comm size]
    exact mul_lt_mul_of_pos_right hlt hsize
  first := by rw [scale_of_pos hsize le_rfl, zero_mul, Int.zero_ediv]
  mono := by
    intro i j hi hij
    rw [scale_of_pos hsize hi, scale_of_pos hsize (hi.trans hij)]
    exact Int.ediv_le_ediv hspan (mul_le_mul_of_nonneg_right hij hsize.le)
  share := fun c hc hcsize => card_sampling_scale hsize hspan hc hcsize
  repeats := by
    intro k hk
    refine ⟨fun i hi => ?_, fun c hc hcsize => ?_⟩
    · rw [scale_of_pos hsize hi, hk, Int.mul_ediv_mul_of_pos_left _ _ hsize]
    · have hratio : (span / size : ℚ) = k := by
        rw [hk, Int.cast_mul, mul_div_cancel_right₀ _ (by exact_mod_cast hsize.ne')]
      have hcount := card_sampling_scale hsize hspan hc hcsize
      rwa [hratio, Int.floor_intCast, Int.ceil_intCast, or_self] at hcount
  skips := by
    intro k hk i hi
    rw [scale_of_pos hsize hi, hk, ← mul_assoc, Int.mul_ediv_cancel _ hspan.ne', mul_comm]

end Scale

/-! ## Mappings -/

variable {m : Mapping} {ix iy : ℤ}

/-- For the offsets in the destination box nothing outside of the source box is found. -/
lemma locate_mem_box (hw : 0 < m.srcWidth) (hh : 0 < m.srcHeight) (hx : 0 ≤ ix)
    (hxw : ix < m.dstWidth) (hy : 0 ≤ iy) (hyh : iy < m.dstHeight) :
    Covers m.x m.y m.srcWidth m.srcHeight (m.locate ix iy).1 (m.locate ix iy).2 := by
  have hcol := (balanced_scale hw (hx.trans_lt hxw)).range ix hx hxw
  have hrow := (balanced_scale hh (hy.trans_lt hyh)).range iy hy hyh
  simp only [Covers, locate]
  omega

/-- **Scaling is even, in range and in order.**  In each direction a mapping from a source box to a
destination box sends the offsets of the destination to those of the source in their order, from the
first one on, and to each of them the share that is due to it, rounded down or up.  So an
enlargement by a whole factor repeats every pixel just as often, and a reduction by one takes one
pixel of so many.  A source size that is not positive has its first pixel only.

A scaled transfer reads nothing outside of its source box: on two sources that are the same there,
it does the same. -/
theorem balanced_locate (m : Mapping) :
    (0 < m.srcWidth → 0 < m.dstWidth → ∀ iy,
      Balanced m.srcWidth m.dstWidth fun ix => (m.locate ix iy).1 - m.x) ∧
    (0 < m.srcHeight → 0 < m.dstHeight → ∀ ix,
      Balanced m.srcHeight m.dstHeight fun iy => (m.locate ix iy).2 - m.y) ∧
    (m.srcWidth ≤ 0 → ∀ ix iy, (m.locate ix iy).1 - m.x = 0) ∧
    (m.srcHeight ≤ 0 → ∀ ix iy, (m.locate ix iy).2 - m.y = 0) ∧
    (0 < m.srcWidth → 0 < m.srcHeight → ∀ source source' : Option Pixmap,
      (∀ X Y, Covers m.x m.y m.srcWidth m.srcHeight X Y →
        sourceByte source X Y = sourceByte source' X Y) →
      ∀ (p : Pixmap) (x y : ℤ) (op : RasterOp) (pattern : UInt8),
        p.stretchTransfer x y m.dstWidth m.dstHeight source m.x m.y m.srcWidth m.srcHeight op pattern
          = p.stretchTransfer x y m.dstWidth m.dstHeight source' m.x m.y m.srcWidth m.srcHeight op
              pattern) := by
  refine ⟨fun hw hspan iy => ?_, fun hh hspan ix => ?_, fun hw ix iy => ?_, fun hh ix iy => ?_,
    fun hw hh source source' hsame p x y op pattern => ?_⟩
  · simp only [locate, add_sub_cancel_left]
    exact balanced_scale hw hspan
  · simp only [locate, add_sub_cancel_left]
    exact balanced_scale hh hspan
  · rw [locate, scale, if_neg hw.not_gt, add_sub_cancel_left]
  · rw [locate, add_sub_cancel_left, scale, if_neg hh.not_gt]
  · refine Pixmap.transfer_congr p x y op pattern fun ix iy hx hxw hy hyh => ?_
    exact hsame _ _ (locate_mem_box hw hh hx hxw hy hyh)

/-- Three columns enlarged to seven and four rows reduced to two: every column comes two or three
times, every second row is taken, and of a source with more columns than these the rest is not
read. -/
theorem balanced_locate_uneven :
    Balanced 3 7 (fun ix => ((⟨5, -1, 3, 4, 7, 2⟩ : Mapping).locate ix 0).1 - 5) ∧
    Balanced 4 2 (fun iy => ((⟨5, -1, 3, 4, 7, 2⟩ : Mapping).locate 0 iy).2 - -1) ∧
    (∀ ix iy, ((⟨5, -1, 0, -4, 7, 2⟩ : Mapping).locate ix iy).1 - 5 = 0 ∧
      ((⟨5, -1, 0, -4, 7, 2⟩ : Mapping).locate ix iy).2 - -1 = 0) ∧
    ∀ p : Pixmap, p.stretchTransfer 0 0 7 2
        (some (Pixmap.blank 9 4 (Nat.succ_pos 8) (Nat.succ_pos 3))) 5 (-1) 3 4 .srcCopy 0
      = p.stretchTransfer 0 0 7 2
          (some ((Pixmap.blank 9 4 (Nat.succ_pos 8) (Nat.succ_pos 3)).put 8 0 1)) 5 (-1) 3 4
          .srcCopy 0 := by
  obtain ⟨hcols, hrows, -, -, hread⟩ := balanced_locate ⟨5, -1, 3, 4, 7, 2⟩
  obtain ⟨-, -, hnocols, hnorows, -⟩ := balanced_locate ⟨5, -1, 0, -4, 7, 2⟩
  refine ⟨hcols (by decide) (by decide) 0, hrows (by decide) (by decide) 0,
    fun ix iy => ⟨hnocols (by decide) ix iy, hnorows (by decide) ix iy⟩, fun p => ?_⟩
  refine hread (by decide) (by decide) _ _ (fun X Y hbox => ?_) p 0 0 .srcCopy 0
  obtain ⟨-, hX, -, -⟩ := hbox
  have hnot : ¬ (X = 8 ∧ Y = 0) := fun h => absurd hX (by rw [h.1]; decide)
  rw [sourceByte, sourceByte, Option.bind_some, Option.bind_some, Pixmap.get?_put, if_neg hnot]

end Mapping

end Paintbox

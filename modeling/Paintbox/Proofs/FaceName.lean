import Mathlib
import Paintbox.FaceName
import Paintbox.Proofs.Loop

/-!
# Face names that fit

A face name that is too long is cut off between two characters.  There are two ways to find the
place.  One goes forward, character by character, as long as there is room.  The other one goes
back from the limit, byte by byte, until it comes to one at which a character starts.  That has no
bound of its own and does not count characters; it stops, and it stops at the last place that fits,
because the first byte of a character can be told from those that continue it.

* `FaceName.LongestStart` — **the longest start of a text that fits**.
* `FaceName.fitting_isPrefix`, `FaceName.utf8Len_fitting`, `FaceName.isPrefix_fitting` — what is
  found forward is a start of the text, fits, and goes on with any other start that does.
* `FaceName.LongestStart.unique`, `FaceName.LongestStart.next` — there is no other such start, and
  the next character does not fit.
* `FaceName.boundary_iff`, `FaceName.LongestStart.loop` — the starts of a text are told by the bytes
  at which they end, so that the way back comes to the same place.
* `FaceName.CutBack` — **the way back**; `FaceName.LongestStart.cutBack` — where it leads.
* `FaceName.truncate_longest` — both ways, and what is left of a name.
-/

namespace Paintbox.FaceName

open String (utf8Len)

/-- The text is the longest start of the name that has at most so many bytes. -/
structure LongestStart (room : ℕ) (name s : String) : Prop where
  isPrefix : s.toList <+: name.toList
  fits : s.utf8ByteSize ≤ room
  longest : ∀ t : String, t.toList <+: name.toList → t.utf8ByteSize ≤ room → t.toList <+: s.toList

/-- Does a character start at the byte, or does the name end before it? -/
def Boundary (name : String) (n : ℕ) : Prop := (⟨n⟩ : String.Pos.Raw).isValid name = true

/-- The text is what is left of the name on the way back.  A name that fits is left alone.  Any
other one is cut off before the first byte, from the limit downward, that is a boundary.  The way
there ends, it takes no step down from zero, and what is cut out is a part of the name. -/
inductive CutBack (room : ℕ) (name : String) : String → Prop where
  | whole (hfits : name.utf8ByteSize ≤ room) : CutBack room name name
  | cut {s : String} {visited : List ℕ} {stop : ℕ} (hlong : room < name.utf8ByteSize)
      (hway : Loop (fun n => ¬ Boundary name n) (fun n => n - 1) room visited stop)
      (hdown : ∀ n ∈ visited, 0 < n) (hinside : stop ≤ name.utf8ByteSize)
      (hbytes : s.toByteArray = name.toByteArray.extract 0 stop) : CutBack room name s

variable {room : ℕ} {name s : String} {c : Char}

/-! ## Forward -/

lemma fitting_isPrefix (room : ℕ) (cs : List Char) : fitting room cs <+: cs := by
  induction cs generalizing room with
  | nil => exact List.prefix_rfl
  | cons c cs ih =>
      rw [fitting]
      split_ifs with hc
      · exact List.cons_prefix_cons.mpr ⟨rfl, ih _⟩
      · exact List.nil_prefix

/-- What fits takes no more bytes than there is room for. -/
lemma utf8Len_fitting (room : ℕ) (cs : List Char) : utf8Len (fitting room cs) ≤ room := by
  induction cs generalizing room with
  | nil => exact Nat.zero_le room
  | cons c cs ih =>
      rw [fitting]
      split_ifs with hc
      · have hrest := ih (room - c.utf8Size)
        rw [utf8Len]
        omega
      · exact Nat.zero_le room

/-- Every start of a text that there is room for is a start of what fits. -/
lemma isPrefix_fitting {ps cs : List Char} (hps : ps <+: cs) (hroom : utf8Len ps ≤ room) :
    ps <+: fitting room cs := by
  induction cs generalizing room ps with
  | nil => exact hps
  | cons c cs ih =>
      cases ps with
      | nil => exact List.nil_prefix
      | cons p ps =>
          obtain ⟨rfl, hrest⟩ := List.cons_prefix_cons.mp hps
          rw [utf8Len] at hroom
          rw [fitting, if_pos (by omega)]
          exact List.cons_prefix_cons.mpr ⟨rfl, ih hrest (by omega)⟩

lemma toList_truncate (name : String) : (truncate name).toList = fitting limit name.toList :=
  String.toList_ofList

lemma utf8ByteSize_truncate (name : String) : (truncate name).utf8ByteSize ≤ limit := by
  rw [truncate, String.utf8ByteSize_ofList]
  exact utf8Len_fitting limit name.toList

lemma longestStart_truncate (name : String) : LongestStart limit name (truncate name) where
  isPrefix := by
    rw [toList_truncate]
    exact fitting_isPrefix limit name.toList
  fits := utf8ByteSize_truncate name
  longest := by
    intro t ht hroom
    rw [toList_truncate]
    rw [← String.utf8Len_toList] at hroom
    exact isPrefix_fitting ht hroom

/-! ## The longest start -/

/-- There is one longest start. -/
lemma LongestStart.unique {t : String} (hs : LongestStart room name s)
    (ht : LongestStart room name t) : s = t := by
  have hst := ht.longest s hs.isPrefix hs.fits
  have hts := hs.longest t ht.isPrefix ht.fits
  exact String.toList_inj.mp (hst.eq_of_length_le hts.length_le)

/-- A text that fits is its own longest start. -/
lemma LongestStart.self (hname : name.utf8ByteSize ≤ room) : LongestStart room name name where
  isPrefix := List.prefix_rfl
  fits := hname
  longest := fun _ ht _ => ht

/-- With the next character it would be too long. -/
lemma LongestStart.next {rest : List Char} (hs : LongestStart room name s)
    (hrest : name.toList = s.toList ++ c :: rest) : room < s.utf8ByteSize + c.utf8Size := by
  by_contra hroom
  have hlonger : s.toList ++ [c] <+: name.toList :=
    ⟨rest, by rw [hrest, List.append_assoc, List.singleton_append]⟩
  have hsize : (String.ofList (s.toList ++ [c])).utf8ByteSize = s.utf8ByteSize + c.utf8Size := by
    rw [String.utf8ByteSize_ofList, String.utf8Len_append, String.utf8Len_toList]
    simp
  have hprefix := hs.longest (String.ofList (s.toList ++ [c]))
    (by rwa [String.toList_ofList]) (by omega)
  rw [String.toList_ofList] at hprefix
  have hlength := hprefix.length_le
  rw [List.length_append, List.length_singleton] at hlength
  omega

/-- If the text is too long, then less than a character of four bytes is missing. -/
lemma LongestStart.room_le (hs : LongestStart room name s) (hlong : room < name.utf8ByteSize) :
    room ≤ s.utf8ByteSize + 3 := by
  obtain ⟨rest, hrest⟩ := hs.isPrefix
  cases rest with
  | nil =>
      have hfits := hs.fits
      rw [List.append_nil, String.toList_inj] at hrest
      rw [hrest] at hfits
      omega
  | cons c rest =>
      have hnext := hs.next hrest.symm
      have hfour := c.utf8Size_le_four
      omega

/-! ## Back -/

/-- The starts of a text end where a character starts or the text ends. -/
lemma boundary_iff {n : ℕ} :
    Boundary name n ↔ ∃ t : String, t.toList <+: name.toList ∧ t.utf8ByteSize = n := by
  rw [Boundary, String.Pos.Raw.isValid_eq_true_iff, String.Pos.Raw.isValid_iff_exists_append]
  constructor
  · rintro ⟨t, rest, rfl, hn⟩
    exact ⟨t, ⟨rest.toList, String.toList_append.symm⟩, (congrArg String.Pos.Raw.byteIdx hn).symm⟩
  · rintro ⟨t, ⟨rest, hrest⟩, rfl⟩
    refine ⟨t, String.ofList rest, ?_, rfl⟩
    rw [← String.toList_inj, String.toList_append, String.toList_ofList, hrest]

lemma iterate_pred (n k : ℕ) : (fun n => n - 1)^[k] n = n - k := by
  induction k with
  | zero => rfl
  | succ k ih => rw [Function.iterate_succ_apply', ih, Nat.sub_sub]

/-- The way back from the limit ends where the longest start does.  A boundary on the way would be
the end of a longer start that fits. -/
lemma LongestStart.loop (hs : LongestStart room name s) :
    Loop (fun n => ¬ Boundary name n) (fun n => n - 1) room
      ((List.range (room - s.utf8ByteSize)).map fun k => room - k) s.utf8ByteSize := by
  have hend : (fun n => n - 1)^[room - s.utf8ByteSize] room = s.utf8ByteSize := by
    rw [iterate_pred, Nat.sub_sub_self hs.fits]
  have hloop : Loop (fun n => ¬ Boundary name n) (fun n => n - 1) room
      ((List.range (room - s.utf8ByteSize)).map fun k => (fun n => n - 1)^[k] room)
      ((fun n => n - 1)^[room - s.utf8ByteSize] room) := by
    refine Loop.of_iterate (fun k hk hboundary => ?_) ?_
    · rw [iterate_pred, boundary_iff] at hboundary
      obtain ⟨t, ht, hsize⟩ := hboundary
      have hlen := String.utf8Len_le_of_prefix (hs.longest t ht (by omega))
      rw [String.utf8Len_toList, String.utf8Len_toList] at hlen
      omega
    · rw [hend, not_not, boundary_iff]
      exact ⟨s, hs.isPrefix, rfl⟩
  rw [hend] at hloop
  simpa only [iterate_pred] using hloop

/-- The bytes of a start are the first bytes of the text. -/
lemma toByteArray_eq_extract (hs : s.toList <+: name.toList) :
    s.toByteArray = name.toByteArray.extract 0 s.utf8ByteSize := by
  obtain ⟨rest, hrest⟩ := hs
  have hname : name = s ++ String.ofList rest := by
    rw [← String.toList_inj, String.toList_append, String.toList_ofList, hrest]
  rw [hname, String.toByteArray_append,
    ByteArray.extract_append_eq_left String.size_toByteArray.symm]

/-- The longest start is what is left of a name on the way back. -/
lemma LongestStart.cutBack (hs : LongestStart room name s) : CutBack room name s := by
  rcases Nat.lt_or_ge room name.utf8ByteSize with hlong | hfits
  · refine .cut hlong hs.loop ?_ ?_ (toByteArray_eq_extract hs.isPrefix)
    · intro n hn
      obtain ⟨k, hk, rfl⟩ := List.mem_map.mp hn
      rw [List.mem_range] at hk
      omega
    · exact hs.fits.trans hlong.le
  · rw [hs.unique (.self hfits)]
    exact .whole hfits

/-- **A face name keeps the longest start that fits.**  What is left of any name is what is found on
the way back from byte 31, which ends above zero and within the name.  It is a start of the name,
has at most 31 bytes, and every other start that has is a start of it: a name of at most 31 bytes is
kept as it is, and with the character that follows a shorter one would be too long.  So nothing is
lost the second time, and at most three bytes are left unused the first time. -/
theorem truncate_longest (name : String) :
    CutBack limit name (truncate name) ∧
    LongestStart limit name (truncate name) ∧
    (name.utf8ByteSize ≤ limit → truncate name = name) ∧
    (∀ c rest, name.toList = (truncate name).toList ++ c :: rest →
      limit < (truncate name).utf8ByteSize + c.utf8Size) ∧
    truncate (truncate name) = truncate name ∧
    (limit < name.utf8ByteSize → limit ≤ (truncate name).utf8ByteSize + 3) := by
  have hwhole : ∀ name : String, name.utf8ByteSize ≤ limit → truncate name = name :=
    fun name hfits => (longestStart_truncate name).unique (.self hfits)
  have hlongest := longestStart_truncate name
  exact ⟨hlongest.cutBack, hlongest, hwhole name, fun _ _ => hlongest.next,
    hwhole _ hlongest.fits, hlongest.room_le⟩

/-- A character of four bytes that begins at byte 28 does not fit, so that three bytes are left. -/
theorem truncate_longest_clef :
    31 < ("xxxxxxxxxxxxxxxxxxxxxxxxxxxx𝄞♪").utf8ByteSize ∧
      truncate "xxxxxxxxxxxxxxxxxxxxxxxxxxxx𝄞♪" = "xxxxxxxxxxxxxxxxxxxxxxxxxxxx" ∧
      31 ≤ (truncate "xxxxxxxxxxxxxxxxxxxxxxxxxxxx𝄞♪").utf8ByteSize + 3 ∧
      31 < (truncate "xxxxxxxxxxxxxxxxxxxxxxxxxxxx𝄞♪").utf8ByteSize + '𝄞'.utf8Size ∧
      truncate "System" = "System" := by
  obtain ⟨-, -, -, hnext, -, hroom⟩ := truncate_longest "xxxxxxxxxxxxxxxxxxxxxxxxxxxx𝄞♪"
  exact ⟨by decide, by decide, hroom (by decide), hnext '𝄞' ['♪'] (by decide),
    (truncate_longest "System").2.2.1 (by decide)⟩

end Paintbox.FaceName

import Paintbox.Proofs.Session.Books

/-!
# Objects from their creation to their deletion

An object is what was asked for when it was made, for as long as it is there, whatever happens
around it; a bitmap has, byte by byte, what was loaded into it last.  When it has been deleted there
is nothing under its handle until the handle is given out again.

* `Session.HasObject`, `Session.HasObject.perform`, `Session.HasObject.run` — **an object through
  one request and through a run**.
* `Session.LacksObject` and its companions — the same for a handle that denotes nothing.
* `Session.exists_counted` — how many objects are live.
* `Session.ShowsObject`, `Session.MissesObject` — what a session answers then.
* **`Session.objects_of_run`** — the ledger as a whole.
-/

namespace Paintbox

open DisplayAction Display

/-! ## One object -/

namespace Session

/-- The object under the handle is as described and, if it is a bitmap, has these bytes. -/
def HasObject (o : ObjectHandle) (description : Description) (bytes : ℕ → UInt8) (s : Session) :
    Prop :=
  ∃ d object, s = ⟨some d⟩ ∧ d.objects.get? o.code = some object ∧
    object.describe = description ∧ object.Holds bytes

/-- The handle is not the null handle, and there is no object under it. -/
def LacksObject (o : ObjectHandle) (s : Session) : Prop :=
  ∃ d, s = ⟨some d⟩ ∧ o.code ≠ 0 ∧ d.objects.get? o.code = none

variable {s : Session} {o : ObjectHandle} {description : Description} {bytes : ℕ → UInt8}
  {r : Request}

/-- An object stays as it was described until it is deleted, and what is loaded into it is loaded
over what was there. -/
lemma HasObject.perform (hs : s.HasObject o description bytes) (hr : r.Ordinary)
    (hkept : r.deleted? (r.perform s).1 ≠ some o) :
    (r.perform s).2.HasObject o description
      ((r.loaded? o).elim bytes fun src i => src.data[i]?.getD (bytes i)) := by
  obtain ⟨d, object, rfl, hlive, rfl, hholds⟩ := hs
  obtain ⟨d', hd', hbooks⟩ := Request.exists_books hr (d := d)
  rw [hd']
  generalize hobjects' : d'.objects = objects' at hbooks
  generalize (r.perform ⟨some d⟩).1 = answer at hbooks hkept
  cases hbooks with
  | kept hcreated hdeleted hloaded =>
      rw [hloaded]
      exact ⟨d', object, rfl, by rw [hobjects', hlive], rfl, hholds⟩
  | created v hcreated hdescribed hnew =>
      have hloaded : r.loaded? o = none := by cases r <;> first | rfl | cases hcreated
      rw [hloaded]
      refine ⟨d', object, rfl, ?_, rfl, hholds⟩
      rw [hobjects', Registry.get?_add, if_neg (v.ne_of_live hlive), hlive]
  | deleted hfound =>
      rename_i o' object'
      have hne : o.code ≠ o'.code := fun heq =>
        hkept (congrArg some (ObjectHandle.code_inj.mp heq).symm)
      refine ⟨d', object, rfl, ?_, rfl, hholds⟩
      rw [hobjects', Registry.get?_remove, if_neg hne, hlive]
  | loaded o' src =>
      by_cases heq : o' = o
      · subst heq
        refine ⟨d', object.mapPixels (·.load src), rfl, ?_, object.describe_load src, ?_⟩
        · rw [hobjects', Registry.get?_modify_self, hlive, Option.map_some]
        · rw [Request.loaded?, if_pos rfl]
          exact hholds.load src
      · have hne : o.code ≠ o'.code := fun hcode => heq (ObjectHandle.code_inj.mp hcode).symm
        rw [Request.loaded?, if_neg heq]
        refine ⟨d', object, rfl, ?_, rfl, hholds⟩
        rw [hobjects', Registry.get?_modify_of_ne _ hne, hlive]

/-- A handle without an object stays so until it is given out again. -/
lemma LacksObject.perform (hs : s.LacksObject o) (hr : r.Ordinary)
    (hkept : r.created? (r.perform s).1 ≠ some o) : (r.perform s).2.LacksObject o := by
  obtain ⟨d, rfl, hz, hdead⟩ := hs
  obtain ⟨d', hd', hbooks⟩ := Request.exists_books hr (d := d)
  rw [hd']
  refine ⟨d', rfl, hz, ?_⟩
  generalize d'.objects = objects' at hbooks
  generalize (r.perform ⟨some d⟩).1 = answer at hbooks hkept
  cases hbooks with
  | kept hcreated hdeleted hloaded => exact hdead
  | created v hcreated hdescribed hnew =>
      have hne : o.code ≠ v.handle := fun heq =>
        hkept (hcreated.trans (congrArg some (ObjectHandle.code_inj.mp heq).symm))
      rw [Registry.get?_add, if_neg hne, hdead]
  | deleted hfound =>
      rw [Registry.get?_remove]
      split_ifs
      · rfl
      · exact hdead
  | loaded o' src =>
      rw [Registry.get?_modify]
      split_ifs with heq
      · rw [hdead, Option.map_none]
      · exact hdead

/-! ## Runs -/

variable {rs : List Request}

/-- **Between its creation and its deletion an object is as it was described**, and a bitmap holds
what was loaded into it last. -/
lemma HasObject.run (hs : s.HasObject o description bytes) (hrs : ∀ r ∈ rs, r.Ordinary)
    (hkept : o ∉ s.deleted rs) :
    (s.run rs).2.HasObject o description
      fun i => last (·.data[i]?) (bytes i) (rs.filterMap (·.loaded? o)) := by
  have hrun := rel_run (fun _ _ _ hs hr => HasObject.perform hs hr.1 hr.2) hs
    ((along_of_forall hrs s).and (along_of_notMem hkept))
  rw [log_eq_filterMap] at hrun
  have hbytes : (rs.filterMap (·.loaded? o)).foldl (fun bytes src i => src.data[i]?.getD (bytes i))
      bytes = fun i => last (·.data[i]?) (bytes i) (rs.filterMap (·.loaded? o)) := by
    funext i
    exact last_foldl (fun bytes : ℕ → UInt8 => bytes i) (fun _ _ => rfl) _ _
  rwa [hbytes] at hrun

/-- **After its deletion there is nothing under a handle** until it is given out again. -/
lemma LacksObject.run (hs : s.LacksObject o) (hrs : ∀ r ∈ rs, r.Ordinary)
    (hkept : o ∉ s.created rs) : (s.run rs).2.LacksObject o :=
  keep_run (fun _ _ hs hr => LacksObject.perform hs hr.1 hr.2) hs
    ((along_of_forall hrs s).and (along_of_notMem hkept))

/-- **The count goes with creations and deletions.** -/
lemma exists_counted (hrs : ∀ r ∈ rs, r.Ordinary) (d : Display) :
    ∃ d', (Session.run ⟨some d⟩ rs).2 = ⟨some d'⟩ ∧
      d'.objects.live + (deleted ⟨some d⟩ rs).length
        = d.objects.live + (created ⟨some d⟩ rs).length ∧
      d'.objects.capacity = d.objects.capacity := by
  induction rs generalizing d with
  | nil => exact ⟨d, rfl, rfl, rfl⟩
  | cons r rs ih =>
      rw [List.forall_mem_cons] at hrs
      obtain ⟨d₁, hd₁, hbooks⟩ := Request.exists_books hrs.1 (d := d)
      obtain ⟨hlive, hcapacity⟩ := hbooks.live
      obtain ⟨d', hd', hrest, hrestcap⟩ := ih hrs.2 d₁
      refine ⟨d', ?_, ?_, hrestcap.trans hcapacity⟩
      · show (Session.run (r.perform ⟨some d⟩).2 rs).2 = _
        rw [hd₁, hd']
      · simp only [deleted, created, log, List.length_append, hd₁] at hrest ⊢
        omega

/-! ## What a session shows -/

/-- Asked for the object under the handle, a session answers its description, and for a bitmap its
bytes in row order as far as there is room for them. -/
structure ShowsObject (o : ObjectHandle) (description : Description) (bytes : ℕ → UInt8)
    (s : Session) : Prop where
  describe : (Request.describe o).perform s = (.ok (.description description), s)
  bits : ∀ width height planes bpp, description = .bitmap width height planes bpp →
    ∀ out, ∃ copied, (Request.bitmapBits o out).perform s
        = (.ok (.bits (min out.size (width * height)) copied), s) ∧
      ∀ i, copied.data[i]?
        = if i < min out.size (width * height) then some (bytes i) else out.data[i]?

/-- Nothing is found under the handle, whatever it is asked for. -/
structure MissesObject (o : ObjectHandle) (s : Session) : Prop where
  describe : (Request.describe o).perform s = (.error (.notFound o.code), s)
  deleteObject : (Request.deleteObject o).perform s = (.error (.notFound o.code), s)
  bitmapBits : ∀ out, (Request.bitmapBits o out).perform s = (.error (.notFound o.code), s)
  setBitmapBits : ∀ bytes,
    (Request.setBitmapBits o bytes).perform s = (.error (.notFound o.code), s)
  selectObject : ∀ h, s.Live h →
    (Request.selectObject h o).perform s = (.error (.notFound o.code), s)
  fillRect : ∀ h r, (Request.draw h (.fillRect r o)).perform s = (.error (.notFound o.code), s)
  frameRect : ∀ h r, (Request.draw h (.frameRect r o)).perform s = (.error (.notFound o.code), s)

lemma HasObject.shows (hs : s.HasObject o description bytes) :
    s.ShowsObject o description bytes := by
  obtain ⟨d, object, rfl, hlive, rfl, hholds⟩ := hs
  have hobject := object_eq_ok_iff.mpr hlive
  constructor
  · simp only [Request.perform, Request.answer, perform_some, Display.describe, on_ask, hobject,
      Except.map]
  · intro width height planes bpp hbitmap out
    cases object with
    | bitmap b =>
        cases hbitmap
        have hcount : b.pixels.transferable out.size
            = min out.size (b.pixels.width * b.pixels.height) := by
          rw [Pixmap.transferable, b.pixels.size_eq]
        refine ⟨b.pixels.store out, ?_, fun i => ?_⟩
        · simp only [Request.perform, Request.answer, perform_some, Display.bitmapBits, on_ask,
            Display.bitmap, hobject, ← hcount]
          rfl
        · rw [Pixmap.getElem?_store, hcount]
          split_ifs with hi
          · exact hholds i (lt_of_lt_of_le hi (Nat.min_le_right _ _))
          · rfl
    | _ => cases hbitmap

lemma LacksObject.misses (hs : s.LacksObject o) : s.MissesObject o := by
  obtain ⟨d, rfl, hz, hdead⟩ := hs
  have hobject : d.object o = .error (.notFound o.code) := Registry.resolve_of_dead hz hdead
  have hbitmap : d.bitmap o = .error (.notFound o.code) := by
    rw [Display.bitmap, hobject]
    rfl
  have hink : d.brushInk o = .error (.notFound o.code) := by
    rw [brushInk, hobject]
    rfl
  have hbrush : ∀ h F, (drawWith h o F).on d = (.error (.notFound o.code), d) := by
    intro h F
    rw [on_drawWith, hink]
  constructor
  · simp only [Request.perform, Request.answer, perform_some, Display.describe, on_ask, hobject,
      Except.map]
  · simp only [Request.perform, Request.answer, perform_some, on_deleteObject,
      Registry.release_of_dead hz hdead, Except.map]
  · intro out
    simp only [Request.perform, Request.answer, perform_some, Display.bitmapBits, on_ask, hbitmap,
      Except.map]
  · intro bytes
    simp only [Request.perform, Request.answer, perform_some, Display.setBitmapBits, on_bind,
      on_ask, hbitmap, Except.map]
  · rintro h ⟨d', dc, hd', hlive⟩
    cases hd'
    simp only [Request.perform, Request.answer, perform_some, on_selectObject,
      context_eq_ok_iff.mpr hlive, hobject, Except.map]
  · intro h r
    simp only [Request.perform, Request.answer, perform_some, Drawing.perform, Display.fillRect,
      hbrush, Except.map]
  · intro h r
    simp only [Request.perform, Request.answer, perform_some, Drawing.perform, Display.frameRect,
      hbrush, Except.map]

/-! ## From creation to deletion -/

/-- A request that has made an object asked for it with valid arguments. -/
lemma hasObject_of_created (hcreated : r.created? (r.perform s).1 = some o) :
    ∃ description, r.Described description ∧
      (r.perform s).2.HasObject o description r.initialByte := by
  rcases s with ⟨_ | d⟩
  · cases r <;> cases hcreated
  · have hr : r.Ordinary := by cases r <;> first | exact trivial | cases hcreated
    obtain ⟨d', hd', hbooks⟩ := Request.exists_books hr (d := d)
    rw [hd']
    generalize hobjects' : d'.objects = objects' at hbooks
    generalize (r.perform ⟨some d⟩).1 = answer at hbooks hcreated
    cases hbooks with
    | kept hnone => cases hnone.symm.trans hcreated
    | created v hnew hdescribed hholds =>
        cases hnew.symm.trans hcreated
        refine ⟨_, hdescribed, d', _, rfl, ?_, rfl, hholds⟩
        rw [hobjects', Registry.get?_add, if_pos rfl]
    | deleted hlive => cases hcreated
    | loaded o' src => cases hcreated

lemma lacksObject_of_deleted
    (hdeleted : ((Request.deleteObject o).perform s).1 = .ok .done) :
    ((Request.deleteObject o).perform s).2.LacksObject o := by
  rcases s with ⟨_ | d⟩
  · cases hdeleted
  · cases hlive : d.objects.get? o.code with
    | none =>
        simp only [Request.perform, Request.answer, perform_some, on_deleteObject] at hdeleted
        by_cases hz : o.code = 0
        · rw [hz] at hdeleted
          cases hdeleted
        · rw [Registry.release_of_dead hz hlive] at hdeleted
          cases hdeleted
    | some object =>
        refine ⟨((Display.deleteObject o).on d).2, rfl, Registry.ne_zero_of_live hlive, ?_⟩
        rw [on_deleteObject]
        show (d.objects.release o.code).2.get? o.code = none
        rw [Registry.get?_release, if_pos rfl]

/-- A request for an object with valid arguments is granted as long as there is room. -/
lemma exists_created_iff {d : Display} (hcapacity : d.objects.capacity ≤ 65535)
    (hr : r.Described description) :
    (∃ o, (r.perform ⟨some d⟩).1 = .ok (.object o)) ↔ d.objects.live < d.objects.capacity := by
  obtain ⟨object, -, -, -, hperform⟩ := Request.exists_answer_addObject hr
  simp only [hperform, Request.answer, perform_some, on_addObject]
  rcases (Registry.live_le_capacity d.objects).lt_or_eq with hroom | hfull
  · obtain ⟨v, hv⟩ := Registry.insert_of_room hcapacity hroom object
    rw [hv]
    exact iff_of_true ⟨_, rfl⟩ hroom
  · rw [Registry.insert_of_full hfull]
    refine iff_of_false ?_ hfull.not_lt
    rintro ⟨o, ho⟩
    cases ho

/-- **The ledger of objects.**  After a run of ordinary requests from the start, as many objects
are live as have been made and not deleted, a session counts them so, and it grants a request for
another one, if the arguments are valid, exactly as long as fewer are live than were chosen.

An object that is made then is what was asked for: whatever else is asked, up to its deletion it is
described so, and byte `i` of a bitmap is the one of the last load that had so many bytes, or else
of the bytes that it was made with, or else zero.  Once it is deleted nothing is found under its
handle, for any purpose, until the handle is given out again. -/
theorem objects_of_run {heap : Heap} {chosen : Settings} {s₀ : Session}
    (hstart : start heap chosen = .ok s₀) (hrs : ∀ r ∈ rs, r.Ordinary) (hrun : (s₀.run rs).2 = s) :
    (∃ contexts live, Request.counts.perform s = (.ok (.counts contexts live), s) ∧
      live + (s₀.deleted rs).length = (s₀.created rs).length ∧
      ∀ (r : Request) (description : Description), r.Described description →
        ((∃ o, (r.perform s).1 = .ok (.object o)) ↔ live < chosen.maxObjects)) ∧
    (∀ (r : Request) (o : ObjectHandle), r.created? (r.perform s).1 = some o →
      ∃ description, r.Described description ∧
        ∀ rs', (∀ r ∈ rs', r.Ordinary) → o ∉ (r.perform s).2.deleted rs' →
          ((r.perform s).2.run rs').2.ShowsObject o description fun i =>
            last (·.data[i]?) (r.initialByte i) (rs'.filterMap (·.loaded? o))) ∧
    ∀ o : ObjectHandle, ((Request.deleteObject o).perform s).1 = .ok .done →
      ∀ rs', (∀ r ∈ rs', r.Ordinary) →
        o ∉ ((Request.deleteObject o).perform s).2.created rs' →
          (((Request.deleteObject o).perform s).2.run rs').2.MissesObject o := by
  refine ⟨?_, ?_, ?_⟩
  · obtain ⟨d₀, hopen, rfl⟩ := Drawing.of_map_eq_ok hstart
    have hsound := sound_of_open hopen
    have hempty : d₀.objects.live = 0 := by
      rw [(empty_of_open hopen).2, Registry.live_empty]
    obtain ⟨d, hd, hcount, hcapacity⟩ := exists_counted hrs d₀
    have hsd : s = ⟨some d⟩ := hrun.symm.trans hd
    have hmax : d.objects.capacity = chosen.maxObjects := hcapacity.trans hsound.maxObjects
    have hslots := ((Settings.check_eq_ok_iff chosen).mp hsound.valid).maxObjects.2
    subst hsd
    refine ⟨d.contexts.live, d.objects.live, rfl, by omega, fun r description hr => ?_⟩
    rw [← hmax]
    exact exists_created_iff (by rw [hmax]; exact hslots) hr
  · intro r o hcreated
    obtain ⟨description, hdescribed, hobject⟩ := hasObject_of_created hcreated
    exact ⟨description, hdescribed, fun rs' hrs' hkept => (hobject.run hrs' hkept).shows⟩
  · intro o hdeleted rs' hrs' hkept
    exact ((lacksObject_of_deleted hdeleted).run hrs' hkept).misses

/-- Beside a pen, a bitmap of four bytes is made of three; one byte is loaded over them and the pen
is deleted.  When the pen is deleted right away, its handle denotes nothing. -/
theorem objects_of_run_bitmap :
    ∃ s₀ s after, start .ample ⟨2, 1, 1, 2⟩ = .ok s₀ ∧ (s₀.run [.createPen .solid 1 ⟨1⟩]).2 = s ∧
      (s.run [.createBitmap .ample 2 2 1 8 (some ⟨#[5, 6, 7]⟩), .setBitmapBits ⟨2⟩ ⟨#[8]⟩,
        .deleteObject ⟨1⟩]).2 = after ∧
      (Request.describe ⟨2⟩).perform after = (.ok (.description (.bitmap 2 2 1 8)), after) ∧
      (∃ copied, (Request.bitmapBits ⟨2⟩ ⟨#[9, 9, 9, 9, 9]⟩).perform after
          = (.ok (.bits 4 copied), after) ∧
        copied.data[0]? = some 8 ∧ copied.data[1]? = some 6 ∧ copied.data[3]? = some 0) ∧
      ∀ h r, (Request.draw h (.fillRect r ⟨1⟩)).perform ((Request.deleteObject ⟨1⟩).perform s).2
        = (.error (.notFound 1), ((Request.deleteObject ⟨1⟩).perform s).2) := by
  obtain ⟨s₀, hstart⟩ : ∃ s₀, start .ample ⟨2, 1, 1, 2⟩ = .ok s₀ := ⟨_, rfl⟩
  have hrs : ∀ r ∈ [Request.createPen .solid 1 ⟨1⟩], r.Ordinary := by simp [Request.Ordinary]
  obtain ⟨-, hmade, hgone⟩ := objects_of_run hstart hrs rfl
  cases hstart
  obtain ⟨description, ⟨-, rfl⟩, hshows⟩ :=
    hmade (.createBitmap .ample 2 2 1 8 (some ⟨#[5, 6, 7]⟩)) ⟨2⟩ rfl
  have hafter := hshows [.setBitmapBits ⟨2⟩ ⟨#[8]⟩, .deleteObject ⟨1⟩] (by simp [Request.Ordinary])
    (by decide)
  obtain ⟨copied, hcopied, hbytes⟩ := hafter.bits 2 2 1 8 rfl ⟨#[9, 9, 9, 9, 9]⟩
  refine ⟨_, _, _, rfl, rfl, rfl, hafter.describe, ⟨copied, hcopied, ?_, ?_, ?_⟩, ?_⟩
  · exact hbytes 0
  · exact hbytes 1
  · exact hbytes 3
  · exact (hgone ⟨1⟩ rfl [] (fun _ hr => nomatch hr) List.not_mem_nil).fillRect

end Session

end Paintbox

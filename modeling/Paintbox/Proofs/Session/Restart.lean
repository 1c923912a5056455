import Paintbox.Proofs.Display.Numbered
import Paintbox.Proofs.Session.Books
import Paintbox.Proofs.Session.Registers

/-!
# Before the start and after the end

A session without a display refuses whatever is asked of it, before it has looked at any argument,
and it remembers nothing.  So a session that was freed and started again cannot be told from one
that is started for the first time: not by what it answers, and not by the handles that it gives
out, which are numbers from 1 on.

* `Request.refusal` — what a request is answered by without a display.
* `Session.eq_closed_iff`, `Session.run_closed` — **without a display everything is refused**.
* `Session.opened` — the handles of the contexts that a run has opened.
* `Session.Tally`, `Session.number_of_log` — **handles that are given out one after the other are
  numbers in a row**; `Session.tally_opened` and `Session.tally_created` say that contexts are, and
  that objects are.
* **`Session.refused_and_restarted`** — all of it.
-/

namespace Paintbox

open DisplayAction Display

/-! ## Refusals -/

/-- What a request is answered by if there is no display.  A pixel without a picture has the invalid
color, there is nothing left to be freed, and everything else is an error. -/
def Request.refusal : Request → Except Error Reply
  | .free => .ok .done
  | .isOpen => .ok (.flag false)
  | .setPixel .. | .getPixel .. => .ok (.color .invalid)
  | _ => .error .notInitialized

lemma Request.perform_closed {r : Request} (hr : ∀ heap chosen, r ≠ .start heap chosen) :
    r.perform .closed = (r.refusal, .closed) := by
  cases r with
  | start heap chosen => exact absurd rfl (hr heap chosen)
  | _ => rfl

namespace Session

lemma eq_closed_iff {s : Session} : s.isOpen = false ↔ s = closed := by
  rcases s with ⟨_ | d⟩
  · exact iff_of_true rfl rfl
  · refine iff_of_false Bool.noConfusion fun h => ?_
    cases h

/-- **Without a display everything is refused**, and no display comes from it. -/
lemma run_closed {rs : List Request} (hrs : ∀ r ∈ rs, ∀ heap chosen, r ≠ .start heap chosen) :
    closed.run rs = (rs.map Request.refusal, closed) := by
  induction rs with
  | nil => rfl
  | cons r rs ih =>
      rw [List.forall_mem_cons] at hrs
      simp only [run, Request.perform_closed hrs.1, ih hrs.2, List.map_cons]

/-! ## Handles in a row -/

/-- The handles of the contexts that a run has opened, in the order in which it opened them. -/
def opened : Session → List Request → List ContextHandle :=
  log fun s r => (r.opened? (r.perform s).1).map Prod.fst

/-- There is a display, and in the sense of `R` it has given out `k` numbers. -/
def Counts (R : ℕ → Display → Prop) (k : ℕ) (s : Session) : Prop := ∃ d, s = ⟨some d⟩ ∧ R k d

variable {R : ℕ → Display → Prop} {k : ℕ} {α β : Type} {code : β → UInt16}

/-- After `k` numbers were given out no handle is noted, or one that is the next number. -/
def Tally (R : ℕ → Display → Prop) (k : ℕ) (code : β → UInt16) (noted : Option β) (s : Session) :
    Prop :=
  noted = none ∧ s.Counts R k ∨ ∃ h, noted = some h ∧ (code h).toNat = k + 1 ∧ s.Counts R (k + 1)

lemma tally_of_keeps {d : Display} (hd : R k d) {a : DisplayAction α} (ha : Keeps (R k) a)
    (reply : α → Reply) {noted : Option β} (hnoted : noted = none) :
    Tally R k code noted (Request.answer ⟨some d⟩ a reply).2 :=
  Or.inl ⟨hnoted, (a.on d).2, rfl, ha d hd⟩

lemma tally_of_numbers {d : Display} (hd : R k d) {a : DisplayAction α} (handle : α → β)
    (ha : Numbers R k (code ∘ handle) a) (reply : α → Reply)
    (note : Except Error Reply → Option β) (herror : ∀ e, note (.error e) = none)
    (hok : ∀ x, note (.ok (reply x)) = some (handle x)) :
    Tally R k code (note (Request.answer ⟨some d⟩ a reply).1)
      (Request.answer ⟨some d⟩ a reply).2 := by
  rw [Request.answer, perform_some]
  rcases ha d hd with ⟨e, d', hrun, hlap⟩ | ⟨x, d', hrun, hnumber, hlap⟩
  · rw [hrun]
    exact Or.inl ⟨herror e, d', rfl, hlap⟩
  · rw [hrun]
    exact Or.inr ⟨handle x, hok x, hnumber, d', rfl, hlap⟩

/-- **Handles that are noted one after the other are numbers in a row**, until there are as many of
them as handles. -/
lemma number_of_log {note : Session → Request → Option β}
    (hstep : ∀ {k s r}, k < 65535 → Counts R k s → r.Ordinary →
      Tally R k code (note s r) (r.perform s).2) {rs : List Request} :
    ∀ {k s}, Counts R k s → (∀ r ∈ rs, r.Ordinary) →
      ∀ {i h}, k + i < 65535 → (log note s rs)[i]? = some h → (code h).toNat = k + i + 1 := by
  induction rs with
  | nil =>
      intro k s _ _ i h _ hi
      cases hi
  | cons r rs ih =>
      intro k s hs hrs i h hlap hi
      rw [List.forall_mem_cons] at hrs
      rw [log] at hi
      rcases hstep (by omega) hs hrs.1 with ⟨hnone, hs'⟩ | ⟨g, hg, hnumber, hs'⟩
      · rw [hnone] at hi
        exact ih hs' hrs.2 hlap hi
      · rw [hg] at hi
        cases i with
        | zero =>
            cases hi
            exact hnumber
        | succ i =>
            have hrest := ih hs' hrs.2 (by omega) hi
            omega

/-- What opens a context answers the next number for it. -/
lemma tally_opened {s : Session} {r : Request} (hk : k < 65535) (hs : Counts ContextLap k s)
    (hr : r.Ordinary) : Tally ContextLap k ContextHandle.code
      ((r.opened? (r.perform s).1).map Prod.fst) (r.perform s).2 := by
  obtain ⟨d, rfl, hd⟩ := hs
  cases r with
  | start heap chosen => exact hr.elim
  | free => exact hr.elim
  | renderScene heap => exact hr.elim
  | openContext w =>
      exact tally_of_numbers hd id (numbers_addContext hk _) .context
        (fun answer => ((Request.openContext w).opened? answer).map Prod.fst)
        (fun _ => rfl) fun _ => rfl
  | openMemoryContext heap h =>
      exact tally_of_numbers hd id (numbers_openMemoryContext hk heap h) .context
        (fun answer => ((Request.openMemoryContext heap h).opened? answer).map Prod.fst)
        (fun _ => rfl) fun _ => rfl
  | beginPaint w =>
      exact tally_of_numbers hd PaintSession.context (numbers_beginPaint hk w) .paintSession
        (fun answer => ((Request.beginPaint w).opened? answer).map Prod.fst)
        (fun _ => rfl) fun _ => rfl
  | closeContext w h => exact tally_of_keeps hd (keepsLap_closeContext k w h) _ rfl
  | endPaint w session =>
      exact tally_of_keeps hd (keepsLap_closeContext k w session.context) _ rfl
  | setTextColor h | setBackgroundColor h | setBackgroundMode h | moveTo h =>
      exact tally_of_keeps hd (keepsLap_exchange k h _ _) _ rfl
  | selectObject h o => exact tally_of_keeps hd (keepsLap_selectObject k h o) _ rfl
  | createPen | createBrush | createFont =>
      exact tally_of_keeps hd (a := addObject _) (fun _ hd => hd) _ rfl
  | createBitmap heap width height planes bpp initial =>
      exact tally_of_keeps hd (keepsLap_createBitmap k heap width height planes bpp initial) _ rfl
  | createCompatibleBitmap heap h width height =>
      exact tally_of_keeps hd (keepsLap_createBitmap k heap width height 1 8 none) _ rfl
  | deleteObject o => exact tally_of_keeps hd (a := Display.deleteObject o) (fun _ hd => hd) _ rfl
  | setBitmapBits o bytes => exact tally_of_keeps hd (keepsLap_setBitmapBits k o bytes) _ rfl
  | draw h g => exact tally_of_keeps hd (keepsLap_perform k g h) _ rfl
  | setPixel h pt c =>
      refine Or.inl ⟨rfl, _, snd_setPixel ⟨some d⟩ h pt c, ?_⟩
      exact keepsLap_writePixel k h pt c d hd
  | isOpen | settings | counts | getPixel | window | isPainting | textColor | backgroundColor
  | backgroundMode | position | selected | textExtent | extent | describe | bitmapBits =>
      exact Or.inl ⟨rfl, d, rfl, hd⟩

/-- What makes an object answers the next number for it. -/
lemma tally_created {s : Session} {r : Request} (hk : k < 65535) (hs : Counts ObjectLap k s)
    (hr : r.Ordinary) : Tally ObjectLap k ObjectHandle.code (r.created? (r.perform s).1)
      (r.perform s).2 := by
  obtain ⟨d, rfl, hd⟩ := hs
  by_cases hdescribed : ∃ description, r.Described description
  · obtain ⟨description, hmade⟩ := hdescribed
    obtain ⟨object, -, -, hcreated, hperform⟩ := Request.exists_answer_addObject hmade
    rw [hperform]
    refine tally_of_numbers hd id (numbers_addObject hk object) .object r.created?
      (fun e => ?_) hcreated
    cases r <;> rfl
  · obtain ⟨d', hd', hbooks⟩ := Request.exists_books hr (d := d)
    rw [hd']
    refine Or.inl ?_
    generalize hobjects : d'.objects = objects at hbooks
    generalize (r.perform ⟨some d⟩).1 = answer at hbooks ⊢
    cases hbooks with
    | kept hcreated _ _ =>
        refine ⟨hcreated, d', rfl, ?_⟩
        rw [ObjectLap, hobjects]
        exact hd
    | created v _ hmade _ =>
        exact absurd ⟨_, hmade⟩ hdescribed
    | deleted hlive =>
        refine ⟨rfl, d', rfl, ?_⟩
        rw [ObjectLap, hobjects]
        exact Registry.FirstLap.step hd (.remove _) rfl
    | loaded o bytes answer =>
        refine ⟨rfl, d', rfl, ?_⟩
        rw [ObjectLap, hobjects]
        exact Registry.FirstLap.step hd (.modify o.code _) rfl

/-- A new display numbers its contexts and its objects from 1 on. -/
lemma number_of_start {heap : Heap} {chosen : Settings} {started : Session}
    (hstart : start heap chosen = .ok started) {rs : List Request} (hrs : ∀ r ∈ rs, r.Ordinary)
    {i : ℕ} (hi : i < 65535) :
    (∀ h, (started.opened rs)[i]? = some h → h.code.toNat = i + 1) ∧
      ∀ o, (started.created rs)[i]? = some o → o.code.toNat = i + 1 := by
  obtain ⟨d, hopen, rfl⟩ := Drawing.of_map_eq_ok hstart
  obtain ⟨hcontexts, hobjects⟩ := empty_of_open hopen
  have hcontextLap : Counts ContextLap 0 ⟨some d⟩ := by
    refine ⟨d, rfl, ?_⟩
    rw [ContextLap, hcontexts]
    exact Registry.firstLap_empty _ _
  have hobjectLap : Counts ObjectLap 0 ⟨some d⟩ := by
    refine ⟨d, rfl, ?_⟩
    rw [ObjectLap, hobjects]
    exact Registry.firstLap_empty _ _
  constructor
  · intro h hnoted
    have hnumber := number_of_log tally_opened hcontextLap hrs (by omega) hnoted
    rwa [Nat.zero_add] at hnumber
  · intro o hnoted
    have hnumber := number_of_log tally_created hobjectLap hrs (by omega) hnoted
    rwa [Nat.zero_add] at hnumber

/-- **Without a display everything is refused, and a restart begins anew.**

* To free a session succeeds and leaves it without a display, whatever it was.
* Without a display every run of requests other than a start, with whatever arguments, is refused
  request by request, and it leaves the session without a display.  So is every single action and
  every question, also those that are not written down as requests.
* To free a session, start it and go on from there gives the same answers, and leaves the same
  session, as to start one without a display and go on from there.
* The contexts that are opened after a start are numbered from 1 on, and so are the objects that are
  made, until all 65535 handles have been given out. -/
theorem refused_and_restarted :
    (∀ s : Session, Request.free.perform s = (.ok .done, closed) ∧ closed.isOpen = false) ∧
      (∀ s : Session, s.isOpen = false →
        (∀ rs : List Request, (∀ r ∈ rs, ∀ heap chosen, r ≠ .start heap chosen) →
          s.run rs = (rs.map Request.refusal, s)) ∧
        ∀ (α : Type) (action : DisplayAction α) (question : Display → Except Error α),
          s.perform action = (.error .notInitialized, s) ∧
            s.ask question = .error .notInitialized) ∧
      (∀ (s : Session) (heap : Heap) (chosen : Settings) (rs : List Request),
        s.run (.free :: .start heap chosen :: rs)
          = (.ok .done :: (closed.run (.start heap chosen :: rs)).1,
              (closed.run (.start heap chosen :: rs)).2)) ∧
      ∀ (heap : Heap) (chosen : Settings) (started : Session), start heap chosen = .ok started →
        ∀ rs : List Request, (∀ r ∈ rs, r.Ordinary) → ∀ i < 65535,
          (∀ h, (started.opened rs)[i]? = some h → h.code.toNat = i + 1) ∧
            ∀ o, (started.created rs)[i]? = some o → o.code.toNat = i + 1 := by
  refine ⟨fun s => ⟨rfl, rfl⟩, fun s hs => ?_, fun s heap chosen rs => rfl, ?_⟩
  · rw [eq_closed_iff] at hs
    subst hs
    exact ⟨fun rs hrs => run_closed hrs, fun α action question => ⟨rfl, rfl⟩⟩
  · intro heap chosen started hstart rs hrs i hi
    exact number_of_start hstart hrs hi

/-- A session that was used and then freed refuses a bitmap without a size, a path without points,
the null handle, and the demo scene, all for the same reason.  Started again, it opens its first
context under handle 1, although the old one had that handle, too, and is not missed. -/
theorem refused_and_restarted_used :
    ∃ s started : Session, (closed.run [.start .ample ⟨2, 1, 1, 1⟩, .openContext 7]).2 = s ∧
      s.isOpen = true ∧ (Request.free.perform s).2.isOpen = false ∧
      (Request.free.perform s).2.run [.createBitmap .ample 0 (-1) 1 8 none,
          .draw ⟨1⟩ (.path [] true), .closeContext 0 ⟨0⟩, .renderScene .ample,
          .getPixel ⟨1⟩ ⟨0, 0⟩, .isOpen, .free]
        = ([.error .notInitialized, .error .notInitialized, .error .notInitialized,
            .error .notInitialized, .ok (.color .invalid), .ok (.flag false), .ok .done],
          (Request.free.perform s).2) ∧
      start .ample ⟨2, 1, 1, 1⟩ = .ok started ∧
      (s.run [.free, .start .ample ⟨2, 1, 1, 1⟩]).2 = started ∧
      ∃ h, started.opened [.openContext 3] = [h] ∧ h.code.toNat = 0 + 1 := by
  obtain ⟨-, hrefused, hrestart, hnumber⟩ := refused_and_restarted
  refine ⟨_, _, rfl, rfl, rfl, ?_, rfl, ?_, _, rfl, ?_⟩
  · exact (hrefused _ rfl).1 _ (by simp)
  · rw [hrestart]
    rfl
  · exact (hnumber .ample ⟨2, 1, 1, 1⟩ _ rfl [.openContext 3] (by simp [Request.Ordinary]) 0
      (by omega)).1 _ rfl

end Session

end Paintbox

import Paintbox.Proofs.Gateway.Calls
import Paintbox.Proofs.Gateway.Numbers
import Paintbox.Proofs.Session.Failure

/-!
# The number of a call tells how it came out

Callers of the gateway see numbers only, and so a number has to say by itself whether a call has
succeeded and what with.  It does, because no reply reads as a negative number and every cause of a
failure does: the sign separates the one from the other.  A caller who reads a negative number can
go on as if the call had never been made.

* `Call.meaning?` — what the number of a call stands for.
* `Call.memory?`, `Answer.memory?`, `Answer.number?` — what is there to be read after a call.
* `Call.Encodes` — **the number tells what the call has come to**.
* `Call.Answered` — the gateway answers as the result of a call demands; `Call.answered_of_refusal`,
  `Call.answered_of_reads`, `Call.answered_of_asks` — the three ways for a call to come out.
* `Call.answered_of_action` — a call and a request that do the same action;
  `Call.answered_of_coded` — such a call that is answered by a number alone.
* `Call.exists_encodes` — every call is answered by such a number.
* `Gateway.call_encodes` — so it is along every run.
-/

namespace Paintbox

open DisplayAction Display

/-- What the number stands for that answers a call.  Calls about colors, and those that cannot fail
and have nothing to tell, are answered by none. -/
def Call.meaning? : Call → Option Meaning
  | .start _ | .startWith _ _ _ _ _ => some .status
  | .closeContext _ _ | .endPaint _ _ | .deleteObject _ => some .status
  | .moveTo _ _ _ | .lineTo _ _ _ | .line _ _ _ _ _ _ => some .status
  | .rectangle _ _ _ _ _ | .ellipse _ _ _ _ _ => some .status
  | .polyline _ _ _ | .polygon _ _ _ | .text _ _ _ _ _ => some .status
  | .fillRect _ _ _ | .frameRect _ _ _ | .invertRect _ _ => some .status
  | .bitTransfer _ _ _ _ _ _ _ _ _ | .stretchTransfer _ _ _ _ _ _ _ _ _ _ _ => some .status
  | .patternTransfer _ _ _ _ _ _ => some .status
  | .openContext _ | .beginPaint _ _ | .openMemoryContext _ _ => some .handle
  | .createPen _ _ _ | .createBrush _ _ | .createFont _ _ _ _ => some .handle
  | .createBitmap _ _ _ _ _ _ | .createCompatibleBitmap _ _ _ _ => some .handle
  | .selectObject _ _ => some .selection
  | .setBackgroundMode _ _ => some .mode
  | .bitmapBits _ _ | .setBitmapBits _ _ | .textExtent _ _ _ | .copyScreen _ => some .count
  | .isOpen => some .flag
  | .free | .setLogLevel _ => none
  | .setTextColor _ _ | .setBackgroundColor _ _ => none
  | .setPixel _ _ _ _ | .getPixel _ _ _ => none

/-! ## What is there to be read -/

/-- The memory that a caller passes to be filled. -/
def Call.memory? : Call → Option Memory
  | .beginPaint _ session => session.map .record
  | .bitmapBits _ out => out.map .block
  | .copyScreen out => out.map .block
  | _ => none

namespace Answer

/-- That memory after the call. -/
def memory? : Answer → Option Memory
  | .paint _ session => some (.record session)
  | .filled _ out => some (.block out)
  | _ => none

def number? : Answer → Option ℤ
  | .code n => some n
  | .paint n _ => some n
  | .filled n _ => some n
  | _ => none

end Answer

/-- No block of memory has as many bytes as there are numbers of 63 bits. -/
def Call.Fits : Call → Prop
  | .textExtent _ (some memory) _ => memory.length < 2 ^ 63
  | _ => True

/-! ## How calls come out -/

/-- The number `n` that answers a call of meaning `m` tells what the call has come to. -/
structure Call.Encodes (s : Session) (c : Call) (m : Meaning) (n : ℤ) : Prop where
  /-- A success is told by the number of its reply, in the range of the meaning, and by the memory
  of the caller. -/
  success : ∀ reply s', c.ComesTo s (.ok reply) s' →
    reply.Told n ∧ m.Admits n ∧ (Gateway.call s c).1.memory? = reply.memory?
  /-- A failure is told by the number of its cause. -/
  failure : ∀ e s', c.ComesTo s (.error e) s' → e.Told n ∧ -7 ≤ n ∧ n ≤ -1
  /-- The sign alone tells which of the two it was. -/
  sign : (0 ≤ n ↔ ∃ reply s', c.ComesTo s (.ok reply) s') ∧
    (n < 0 ↔ ∃ e s', c.ComesTo s (.error e) s')
  missing : c.lacks = true → n = -1
  /-- After a negative number everything is as before. -/
  unchanged : n < 0 → (Gateway.call s c).2 = s ∧ (Gateway.call s c).1.memory? = c.memory?

namespace Call

variable {s s' : Session} {c : Call} {m : Meaning} {r : Request} {result : Except Error Reply}

/-- The gateway answers a call as its result demands. -/
structure Answered (s : Session) (c : Call) (result : Except Error Reply) (s' : Session) :
    Prop where
  session : (Gateway.call s c).2 = s'
  number : c.Fits → ∀ m, c.meaning? = some m → ∃ n, (Gateway.call s c).1.number? = some n ∧
    (∀ reply, result = .ok reply →
      reply.Told n ∧ m.Admits n ∧ (Gateway.call s c).1.memory? = reply.memory?) ∧
    (∀ e, result = .error e →
      e.Told n ∧ s' = s ∧ (Gateway.call s c).1.memory? = c.memory?)

namespace Answered

/-- A call that is refused with its memory as it was. -/
lemma of_error {e : Error} {answer : Answer} (hcall : Gateway.call s c = (answer, s))
    (hnumber : answer.number? = some e.code) (hmemory : answer.memory? = c.memory?) :
    Answered s c (.error e) s where
  session := by rw [hcall]
  number := by
    intro _ m _
    rw [hcall]
    refine ⟨e.code, hnumber, nofun, ?_⟩
    rintro _ ⟨⟩
    exact ⟨e.told_code, rfl, hmemory⟩

/-- A call that succeeds, with a number of its meaning. -/
lemma of_ok {reply : Reply} {answer : Answer} {n : ℤ} (hcall : Gateway.call s c = (answer, s'))
    (hmeaning : c.meaning? = some m) (hnumber : answer.number? = some n) (htold : reply.Told n)
    (hadmits : m.Admits n) (hmemory : answer.memory? = reply.memory?) :
    Answered s c (.ok reply) s' where
  session := by rw [hcall]
  number := by
    intro _ m' hm'
    obtain rfl : m = m' := Option.some.inj (hmeaning.symm.trans hm')
    rw [hcall]
    refine ⟨n, hnumber, ?_, nofun⟩
    rintro _ ⟨⟩
    exact ⟨htold, hadmits, hmemory⟩

end Answered

/-! ## Calls that are answered by a number alone -/

/-- Whatever an action has promised is known of what it answers. -/
lemma promised {α : Type} {P : α → Prop} {a : DisplayAction α} {x : α}
    (ha : Ensures (fun _ => True) P a) (hx : s.perform a = (.ok x, s')) : P x := by
  rcases s with ⟨_ | d⟩
  · cases hx
  · rw [Session.perform_some] at hx
    cases hrun : a.on d with
    | mk answer d' =>
        rw [hrun] at hx
        cases hx
        exact (ha d trivial).2 x (congrArg Prod.fst hrun)

/-- A call and a request do the same action.  For the answer to fit the reply it is enough to look at
what the action answers when it succeeds; when it fails the memory of the caller has to be kept. -/
lemma answered_of_action {α : Type} {P : α → Prop} {a : DisplayAction α} {reply : α → Reply}
    (told : α → Answer) (kept : Error → Answer)
    (hok : ∀ x s₁, s.perform a = (.ok x, s₁) → Gateway.call s c = (told x, s₁))
    (herror : ∀ e s₁, s.perform a = (.error e, s₁) → Gateway.call s c = (kept e, s₁))
    (hr : r.perform s = Request.answer s a reply) (hsingle : ∀ heap, r ≠ .renderScene heap)
    (hmeaning : c.meaning? = some m) (ha : Ensures (fun _ => True) P a)
    (htells : ∀ x, P x → ∃ n, (told x).number? = some n ∧ (reply x).Told n ∧ m.Admits n ∧
      (told x).memory? = (reply x).memory?)
    (hkept : ∀ e, (kept e).number? = some e.code ∧ (kept e).memory? = c.memory?) :
    Answered s c (r.perform s).1 (r.perform s).2 := by
  rcases hact : s.perform a with ⟨outcome, s₁⟩
  rw [Request.answer, hact] at hr
  cases outcome with
  | ok x =>
      obtain ⟨n, hnumber, htold, hadmits, hmemory⟩ := htells x (promised ha hact)
      rw [hr]
      exact .of_ok (hok x s₁ hact) hmeaning hnumber htold hadmits hmemory
  | error e =>
      have hsame : (r.perform s).2 = s := Request.session_eq_of_error hsingle (by rw [hr]; rfl)
      rw [hr] at hsame ⊢
      obtain rfl : s₁ = s := hsame
      exact .of_error (herror e s₁ hact) (hkept e).1 (hkept e).2

/-- So it is for a call that is answered by a number alone. -/
lemma answered_of_coded {α : Type} {P : α → Prop} {number : α → ℤ} {a : DisplayAction α}
    {reply : α → Reply} (hcall : Gateway.call s c = Gateway.coded s number a)
    (hr : r.perform s = Request.answer s a reply) (hsingle : ∀ heap, r ≠ .renderScene heap)
    (hmemory : c.memory? = none) (hmeaning : c.meaning? = some m)
    (ha : Ensures (fun _ => True) P a)
    (htells : ∀ x, P x →
      (reply x).Told (number x) ∧ (reply x).memory? = none ∧ m.Admits (number x)) :
    Answered s c (r.perform s).1 (r.perform s).2 := by
  refine answered_of_action (fun x => .code (number x)) (fun e => .code e.code) ?_ ?_ hr hsingle
    hmeaning ha ?_ fun e => ⟨rfl, hmemory.symm⟩
  · intro x s₁ hact
    rw [hcall, Gateway.coded, hact]
    rfl
  · intro e s₁ hact
    rw [hcall, Gateway.coded, hact]
    rfl
  · intro x hx
    obtain ⟨htold, hnone, hadmits⟩ := htells x hx
    exact ⟨_, rfl, htold, hadmits, hnone.symm⟩

/-- A call that has nothing to tell is answered by zero. -/
lemma answered_status {α : Type} {a : DisplayAction α}
    (hcall : Gateway.call s c = Gateway.coded s Gateway.status a)
    (hr : r.perform s = Request.answer s a fun _ => .done)
    (hsingle : ∀ heap, r ≠ .renderScene heap) (hmemory : c.memory? = none)
    (hmeaning : c.meaning? = some .status) : Answered s c (r.perform s).1 (r.perform s).2 :=
  answered_of_coded hcall hr hsingle hmemory hmeaning (ensures_trivial a) fun _ _ =>
    ⟨rfl, rfl, rfl⟩

/-- A call for something new is answered by its handle. -/
lemma answered_context {a : DisplayAction ContextHandle}
    (hcall : Gateway.call s c = Gateway.coded s Gateway.contextCode a)
    (hr : r.perform s = Request.answer s a .context) (hsingle : ∀ heap, r ≠ .renderScene heap)
    (hmemory : c.memory? = none) (hmeaning : c.meaning? = some .handle)
    (ha : Ensures (fun _ => True) (·.code ≠ 0) a) :
    Answered s c (r.perform s).1 (r.perform s).2 :=
  answered_of_coded hcall hr hsingle hmemory hmeaning ha fun _ hcode =>
    ⟨rfl, rfl, Meaning.admits_handle hcode⟩

lemma answered_object {a : DisplayAction ObjectHandle}
    (hcall : Gateway.call s c = Gateway.coded s Gateway.objectCode a)
    (hr : r.perform s = Request.answer s a .object) (hsingle : ∀ heap, r ≠ .renderScene heap)
    (hmemory : c.memory? = none) (hmeaning : c.meaning? = some .handle)
    (ha : Ensures (fun _ => True) (·.code ≠ 0) a) :
    Answered s c (r.perform s).1 (r.perform s).2 :=
  answered_of_coded hcall hr hsingle hmemory hmeaning ha fun _ hcode =>
    ⟨rfl, rfl, Meaning.admits_handle hcode⟩

/-- The mode before is answered by its number. -/
lemma answered_mode {h : ContextHandle} {mode : BackgroundMode} {n : Int32}
    (hcall : Gateway.call s (.setBackgroundMode h.code n)
      = Gateway.coded s BackgroundMode.toInt (Display.setBackgroundMode h mode)) :
    Answered s (.setBackgroundMode h.code n)
      ((Request.setBackgroundMode h mode).perform s).1
      ((Request.setBackgroundMode h mode).perform s).2 := by
  refine answered_of_coded hcall rfl (by simp) rfl rfl (ensures_trivial _) fun old _ => ?_
  cases old with
  | transparent => exact ⟨rfl, rfl, Or.inl rfl⟩
  | filled => exact ⟨rfl, rfl, Or.inr rfl⟩

/-- The width of a text is answered, which is a count if the text fits into memory. -/
lemma answered_textExtent (s : Session) (h : UInt16) (memory : List UInt8) (len : Int32) :
    Answered s (.textExtent h (some memory) len)
      ((Request.textExtent ⟨h⟩ (Gateway.textIn memory len).1
        (Gateway.textIn memory len).2).perform s).1
      ((Request.textExtent ⟨h⟩ (Gateway.textIn memory len).1
        (Gateway.textIn memory len).2).perform s).2 := by
  by_cases hmemory : memory.length < 2 ^ 63
  · have hcodes : (Gateway.textIn memory len).1.length < 2 ^ 63 := by
      rw [Gateway.textIn]
      split_ifs
      · exact (List.takeWhile_sublist _).length_le.trans_lt hmemory
      · exact (List.length_take_le' _ memory).trans_lt hmemory
    exact answered_of_coded (a := Display.textExtent ⟨h⟩ _ _) rfl rfl (by simp) rfl rfl
      (ensures_textExtent ⟨h⟩ hcodes _) fun _ hwidth => ⟨rfl, rfl, hwidth⟩
  · exact ⟨rfl, fun hfits => absurd hfits hmemory⟩

/-! ## The other calls -/

/-- A start that goes through is answered by zero, with the new session. -/
lemma answered_start {heap : Heap} {chosen : Settings}
    (hcall : Gateway.call s c = match Session.start heap chosen with
      | .ok started => (.code 0, started)
      | .error e => (.code e.code, s))
    (hmeaning : c.meaning? = some .status) :
    Answered s c ((Request.start heap chosen).perform s).1
      ((Request.start heap chosen).perform s).2 := by
  rw [Request.perform]
  cases hstart : Session.start heap chosen with
  | error e =>
      rw [hstart] at hcall
      have hmemory : c.memory? = none := by
        cases c <;> first | rfl | cases hmeaning
      exact .of_error hcall rfl hmemory.symm
  | ok started =>
      rw [hstart] at hcall
      exact .of_ok hcall hmeaning rfl rfl rfl rfl

/-- A paint session that has been started is told by its record as well as by its number. -/
lemma answered_beginPaint (s : Session) (window : UInt16) (record : PaintSession) :
    Answered s (.beginPaint window (some record)) ((Request.beginPaint window).perform s).1
      ((Request.beginPaint window).perform s).2 := by
  refine answered_of_action (a := Display.beginPaint window)
    (fun started => .paint (Gateway.contextCode started.context) started)
    (fun e => .paint e.code record) ?_ ?_ rfl (by simp) rfl (ensures_beginPaint window) ?_
    fun _ => ⟨rfl, rfl⟩
  · intro started s₁ hact
    simp only [Gateway.call, Gateway.given, hact]
  · intro e s₁ hact
    simp only [Gateway.call, Gateway.given, hact]
  · exact fun started hcode => ⟨_, rfl, rfl, Meaning.admits_handle hcode, rfl⟩

/-- The bits of a bitmap are told by their number and by the block that they are copied to. -/
lemma answered_bitmapBits (s : Session) (o : UInt16) (block : ByteArray) :
    Answered s (.bitmapBits o (some block)) ((Request.bitmapBits ⟨o⟩ block).perform s).1
      ((Request.bitmapBits ⟨o⟩ block).perform s).2 := by
  refine answered_of_action (a := Display.bitmapBits ⟨o⟩ block)
    (fun result => .filled (Gateway.countCode result.1) result.2)
    (fun e => .filled e.code block) ?_ ?_ rfl (by simp) rfl (ensures_trivial _) ?_
    fun _ => ⟨rfl, rfl⟩
  · intro result s₁ hact
    simp only [Gateway.call, Gateway.given, hact]
  · intro e s₁ hact
    simp only [Gateway.call, Gateway.given, hact]
  · exact fun result _ =>
      ⟨_, rfl, Gateway.countCode_eq result.1, Gateway.admits_countCode result.1, rfl⟩

/-- A call without a number does what it asks for. -/
lemma answered_of_meaningless (hmeaning : c.meaning? = none)
    (hcall : (Gateway.call s c).2 = s') : Answered s c result s' where
  session := hcall
  number := by
    intro _ m hm
    rw [hmeaning] at hm
    cases hm

/-- Every call does what it asks for, and tells what came of it. -/
lemma answered_of_asks (hrefusal : c.refusal? s = none) (hasks : c.Asks r) :
    Answered s c (r.perform s).1 (r.perform s).2 := by
  cases c with
  | start heap =>
      obtain rfl := hasks
      rcases s with ⟨_ | d⟩
      · exact answered_start rfl rfl
      · cases hrefusal
  | startWith heap width height maxContexts maxObjects =>
      obtain rfl := hasks
      rcases s with ⟨_ | d⟩
      · have hcaps : ¬ (maxContexts.toInt < 0 ∨ maxObjects.toInt < 0) := by
          intro hneg
          rw [refusal?, if_pos hneg] at hrefusal
          cases hrefusal
        exact answered_start (if_neg hcaps) rfl
      · cases hrefusal
  | free =>
      obtain rfl := hasks
      exact answered_of_meaningless rfl rfl
  | isOpen => cases hasks
  | setLogLevel level => cases hasks
  | openContext window =>
      obtain rfl := hasks
      exact answered_context rfl rfl (by simp) rfl rfl (ensures_addContext _)
  | closeContext window h =>
      obtain rfl := hasks
      exact answered_status (a := Display.closeContext window ⟨h⟩) rfl rfl (by simp) rfl rfl
  | beginPaint window session =>
      cases session with
      | none => cases hasks
      | some record =>
          obtain rfl := hasks
          exact answered_beginPaint s window record
  | endPaint window session =>
      cases session with
      | none => cases hasks
      | some record =>
          obtain rfl := hasks
          exact answered_status (a := Display.endPaint window record) rfl rfl (by simp) rfl rfl
  | openMemoryContext heap reference =>
      obtain rfl := hasks
      exact answered_context rfl rfl (by simp) rfl rfl (ensures_openMemoryContext _ _)
  | setTextColor h color =>
      obtain rfl := hasks
      exact answered_of_meaningless rfl rfl
  | setBackgroundColor h color =>
      obtain rfl := hasks
      exact answered_of_meaningless rfl rfl
  | setBackgroundMode h mode =>
      rcases hasks with ⟨hmode, rfl⟩ | ⟨hmode, rfl⟩
      · exact answered_mode (by rw [Gateway.call, hmode]; rfl)
      · exact answered_mode (by rw [Gateway.call, hmode]; rfl)
  | createPen style width color =>
      obtain rfl := hasks
      rw [← ofInt_penStyle]
      exact answered_object rfl rfl (by simp) rfl rfl (ensures_addObject _)
  | createBrush style color =>
      obtain rfl := hasks
      rw [← ofInt_brushStyle]
      exact answered_object rfl rfl (by simp) rfl rfl (ensures_addObject _)
  | createFont height width weight faceName =>
      cases faceName with
      | none => cases hasks
      | some memory =>
          obtain ⟨name, hname, rfl⟩ := hasks
          rw [meansName_iff.mp hname]
          exact answered_object rfl rfl (by simp) rfl rfl (ensures_addObject _)
  | createBitmap heap width height planes bitsPerPixel bits =>
      obtain rfl := hasks
      exact answered_object rfl rfl (by simp) rfl rfl (ensures_createBitmap _ _ _ _ _ _)
  | createCompatibleBitmap heap h width height =>
      obtain rfl := hasks
      exact answered_object (a := Display.createCompatibleBitmap heap ⟨h⟩ width height) rfl rfl
        (by simp) rfl rfl (ensures_createBitmap heap width height 1 8 none)
  | selectObject h o =>
      obtain rfl := hasks
      exact answered_of_coded (a := Display.selectObject ⟨h⟩ ⟨o⟩) rfl rfl (by simp) rfl rfl
        (ensures_trivial _) fun old _ => ⟨rfl, rfl, Meaning.admits_selection old.code⟩
  | deleteObject o =>
      obtain rfl := hasks
      exact answered_status (a := Display.deleteObject ⟨o⟩) rfl rfl (by simp) rfl rfl
  | bitmapBits o out =>
      cases out with
      | none => cases hasks
      | some block =>
          obtain rfl := hasks
          exact answered_bitmapBits s o block
  | setBitmapBits o bytes =>
      cases bytes with
      | none => cases hasks
      | some block =>
          obtain rfl := hasks
          exact answered_of_coded (a := Display.setBitmapBits ⟨o⟩ block) rfl rfl (by simp) rfl rfl
            (ensures_trivial _) fun count _ =>
              ⟨Gateway.countCode_eq count, rfl, Gateway.admits_countCode count⟩
  | moveTo h x y =>
      obtain rfl := hasks
      exact answered_of_coded (a := Display.moveTo ⟨h⟩ ⟨x, y⟩) rfl rfl (by simp) rfl rfl
        (ensures_trivial _) fun _ _ => ⟨rfl, rfl, rfl⟩
  | text h x y memory len =>
      cases memory with
      | none => cases hasks
      | some memory =>
          obtain ⟨codes, length, hmeans, rfl⟩ := hasks
          obtain ⟨rfl, rfl⟩ := Prod.mk.inj hmeans.eq
          exact answered_status rfl rfl (by simp) rfl rfl
  | textExtent h memory len =>
      cases memory with
      | none => cases hasks
      | some memory =>
          obtain ⟨codes, length, hmeans, rfl⟩ := hasks
          obtain ⟨rfl, rfl⟩ := Prod.mk.inj hmeans.eq
          exact answered_textExtent s h memory len
  | setPixel h x y color =>
      obtain rfl := hasks
      exact answered_of_meaningless rfl rfl
  | getPixel h x y =>
      obtain rfl := hasks
      exact answered_of_meaningless rfl rfl
  | polyline h block _ | polygon h block _ | fillRect h block _ | frameRect h block _
  | invertRect h block =>
      cases block with
      | none => cases hasks
      | some b =>
          obtain rfl := hasks
          exact answered_status rfl rfl (by simp) rfl rfl
  | bitTransfer h x y width height src sx sy code =>
      obtain rfl := hasks
      rw [← ofCode_rasterOp]
      exact answered_status rfl rfl (by simp) rfl rfl
  | stretchTransfer h x y width height src sx sy srcWidth srcHeight code =>
      obtain rfl := hasks
      rw [← ofCode_rasterOp]
      exact answered_status rfl rfl (by simp) rfl rfl
  | patternTransfer h x y width height code =>
      obtain rfl := hasks
      rw [← ofCode_rasterOp]
      exact answered_status rfl rfl (by simp) rfl rfl
  | lineTo h x y | line h x₀ y₀ x₁ y₁ color | rectangle h left top right bottom
  | ellipse h left top right bottom =>
      obtain rfl := hasks
      exact answered_status rfl rfl (by simp) rfl rfl
  | copyScreen out => cases hasks

/-- A refusal is answered at once, with the number of its cause. -/
lemma answered_of_refusal {e : Error} (hrefusal : c.refusal? s = some e) :
    Answered s c (.error e) s := by
  cases c with
  | start heap =>
      rcases s with ⟨_ | d⟩
      · cases hrefusal
      · cases hrefusal
        exact .of_error rfl rfl rfl
  | startWith heap width height maxContexts maxObjects =>
      rcases s with ⟨_ | d⟩
      · by_cases hneg : maxContexts.toInt < 0 ∨ maxObjects.toInt < 0
        · rw [refusal?, if_pos hneg] at hrefusal
          cases hrefusal
          exact .of_error (if_pos hneg) rfl rfl
        · rw [refusal?, if_neg hneg] at hrefusal
          cases hrefusal
      · cases hrefusal
        exact .of_error rfl rfl rfl
  | setBackgroundMode h mode =>
      by_cases hmode : mode.toInt = 1 ∨ mode.toInt = 2
      · rw [refusal?, if_pos hmode] at hrefusal
        cases hrefusal
      · rw [refusal?, if_neg hmode] at hrefusal
        cases hrefusal
        have hnone : BackgroundMode.ofInt? mode.toInt = none := by
          unfold BackgroundMode.ofInt?
          split <;> tauto
        exact .of_error (by rw [Gateway.call, hnone]) rfl rfl
  | beginPaint _ block | endPaint _ block | createFont _ _ _ block | bitmapBits _ block
  | setBitmapBits _ block | polyline _ block _ | polygon _ block _ | text _ _ _ block _
  | textExtent _ block _ | fillRect _ block _ | frameRect _ block _ | invertRect _ block
  | copyScreen block =>
      cases block with
      | none =>
          cases hrefusal
          exact .of_error rfl rfl rfl
      | some b => cases hrefusal
  | _ => cases hrefusal

/-- A call that only looks leaves the session alone. -/
lemma answered_of_reads (hreads : c.Reads s result) : Answered s c result s := by
  cases c with
  | isOpen =>
      rcases s with ⟨_ | d⟩
      · obtain rfl := hreads
        exact .of_ok rfl rfl rfl rfl (Or.inl rfl) rfl
      · obtain rfl := hreads
        exact .of_ok rfl rfl rfl rfl (Or.inr rfl) rfl
  | setLogLevel level => exact answered_of_meaningless rfl rfl
  | copyScreen out =>
      cases out with
      | none => cases hreads
      | some out =>
          rcases s with ⟨_ | d⟩
          · obtain rfl := hreads
            exact .of_error rfl rfl rfl
          · obtain ⟨written, rfl, hwritten⟩ := hreads
            have hcount : d.screen.transferable out.size
                = min out.size (d.screen.width * d.screen.height) := by
              rw [Pixmap.transferable, d.screen.size_eq]
            have hstore : d.screen.store out = written := by
              apply ByteArray.ext
              refine Array.ext_getElem? fun i => ?_
              rw [hwritten, Pixmap.getElem?_store, hcount]
            refine .of_ok rfl rfl rfl ?_ (Gateway.admits_countCode _) (by rw [hstore]; rfl)
            rw [Gateway.countCode_eq, hcount]
            rfl
  | _ => cases hreads

/-- What becomes of a call is what the gateway answers. -/
lemma ComesTo.answered (h : c.ComesTo s result s') : Answered s c result s' := by
  cases h with
  | refused hrefusal => exact answered_of_refusal hrefusal
  | read _ hreads => exact answered_of_reads hreads
  | asked hrefusal hasks => exact answered_of_asks hrefusal hasks

/-- A call that has a meaning is answered by a number that tells how it came out. -/
lemma exists_encodes (s : Session) (hfits : c.Fits) (hm : c.meaning? = some m) :
    ∃ n, (Gateway.call s c).1.number? = some n ∧ c.Encodes s m n := by
  obtain ⟨result, s', hcomes⟩ := exists_comesTo s c
  obtain ⟨n, hn, hok, herror⟩ := hcomes.answered.number hfits m hm
  have hsuccess : ∀ reply s', c.ComesTo s (.ok reply) s' →
      reply.Told n ∧ m.Admits n ∧ (Gateway.call s c).1.memory? = reply.memory? := by
    intro reply s' h
    obtain ⟨n', hn', hok', -⟩ := h.answered.number hfits m hm
    obtain rfl : n' = n := Option.some.inj (hn'.symm.trans hn)
    exact hok' reply rfl
  have hfailure : ∀ e s', c.ComesTo s (.error e) s' → e.Told n := by
    intro e s' h
    obtain ⟨n', hn', -, herror'⟩ := h.answered.number hfits m hm
    obtain rfl : n' = n := Option.some.inj (hn'.symm.trans hn)
    exact (herror' e rfl).1
  refine ⟨n, hn, hsuccess, fun e s' h => ⟨hfailure e s' h, (hfailure e s' h).range⟩, ?_, ?_, ?_⟩
  · cases result with
    | ok reply =>
        have hpos := (hok reply rfl).2.1.nonneg
        refine ⟨iff_of_true hpos ⟨reply, s', hcomes⟩, iff_of_false (by omega) ?_⟩
        rintro ⟨e, s', h⟩
        have hneg := (hfailure e s' h).range
        omega
    | error e =>
        have hneg := (herror e rfl).1.range
        refine ⟨iff_of_false (by omega) ?_, iff_of_true (by omega) ⟨e, s', hcomes⟩⟩
        rintro ⟨reply, s', h⟩
        have hpos := (hsuccess reply s' h).2.1.nonneg
        omega
  · exact fun hlacks => hfailure _ s (.refused (refusal?_of_lacks hlacks s))
  · intro hneg
    cases result with
    | ok reply =>
        have hpos := (hok reply rfl).2.1.nonneg
        omega
    | error e =>
        obtain ⟨-, hsame, hmemory⟩ := herror e rfl
        exact ⟨hcomes.answered.session.trans hsame, hmemory⟩

/-- A call leads to the session that the gateway goes on with, and to no other. -/
lemma exists_comesTo_iff : (∃ result, c.ComesTo s result s') ↔ s' = (Gateway.call s c).2 := by
  constructor
  · rintro ⟨result, hcomes⟩
    exact hcomes.answered.session.symm
  · rintro rfl
    obtain ⟨result, s', hcomes⟩ := exists_comesTo s c
    exact ⟨result, hcomes.answered.session ▸ hcomes⟩

end Call

namespace Gateway

/-- A run of calls leads to one session, step by step. -/
lemma reaches_iff {s s' : Session} {cs : List Call} : Reaches s cs s' ↔ s' = (run s cs).2 := by
  induction cs generalizing s with
  | nil =>
      constructor
      · rintro ⟨⟩
        rfl
      · rintro rfl
        exact .nil _
  | cons c cs ih =>
      constructor
      · rintro ⟨⟩
        rename_i hcall hrest
        rw [ih, Call.exists_comesTo_iff.mp ⟨_, hcall⟩] at hrest
        exact hrest
      · intro hs'
        obtain ⟨result, hcomes⟩ := Call.exists_comesTo_iff.mpr (rfl : (call s c).2 = _)
        exact .cons hcomes (ih.mpr hs')

/-- **The gateway is a faithful encoding of the session.**  Take any run of calls on a session
without a display, and any call after it.  The shared session has gone where the requests of the run
take it, and the call takes it on from there.  If the call has a meaning then it is answered by a
number.  A success is answered by the number of its reply, which lies in the range of the meaning
and is not negative; a failure by the number of its cause, which lies between -7 and -1, and is -1
if a block of memory is missing.  After a negative number the session and the memory of the caller
are as they were. -/
theorem call_encodes {cs : List Call} {s : Session} (hrun : (run .closed cs).2 = s) (c : Call) :
    (∀ s', Reaches .closed cs s' ↔ s' = s) ∧
      (∀ s', (∃ result, c.ComesTo s result s') ↔ s' = (call s c).2) ∧
      (c.Fits → ∀ m, c.meaning? = some m →
        ∃ n, (call s c).1.number? = some n ∧ c.Encodes s m n) :=
  ⟨fun _ => hrun ▸ reaches_iff, fun _ => Call.exists_comesTo_iff,
    fun hfits _ hm => Call.exists_encodes s hfits hm⟩

/-- A screen of two pixels, and one context where one may be open.  A paint session is refused since
the table is full, and the record is as it was; a memory context is refused since the heap has no
room left; the text before the zero byte is two cells wide, and with a length of three the zero byte
is a third one. -/
theorem call_encodes_crowded :
    ∃ s, run .closed [.startWith .ample 2 1 1 1, .openContext 7] = ([.code 0, .code 1], s) ∧
      (Call.beginPaint 7 (some .zero)).Encodes s .handle (-3) ∧
      call s (.beginPaint 7 (some .zero)) = (.paint (-3) .zero, s) ∧
      (Call.openMemoryContext .exhausted 1).Encodes s .handle (-7) ∧
      (Call.textExtent 1 (some [72, 105, 0, 33]) (-1)).Fits ∧
      (Call.textExtent 1 (some [72, 105, 0, 33]) (-1)).Encodes s .count 16 ∧
      (Call.textExtent 1 (some [72, 105, 0, 33]) 3).Encodes s .count 24 := by
  have hfits (len : Int32) : (Call.textExtent 1 (some [72, 105, 0, 33]) len).Fits := by
    simp [Call.Fits]
  have hrun : (run .closed [.startWith .ample 2 1 1 1, .openContext 7]).2 = _ := rfl
  refine ⟨_, rfl, ?_, rfl, ?_, hfits (-1), ?_, ?_⟩
  · obtain ⟨-, -, hencodes⟩ := call_encodes hrun (.beginPaint 7 (some .zero))
    obtain ⟨n, hn, hcode⟩ := hencodes trivial .handle rfl
    obtain rfl : -3 = n := Option.some.inj hn
    exact hcode
  · obtain ⟨-, -, hencodes⟩ := call_encodes hrun (.openMemoryContext .exhausted 1)
    obtain ⟨n, hn, hcode⟩ := hencodes trivial .handle rfl
    obtain rfl : -7 = n := Option.some.inj hn
    exact hcode
  · obtain ⟨-, -, hencodes⟩ := call_encodes hrun (.textExtent 1 (some [72, 105, 0, 33]) (-1))
    obtain ⟨n, hn, hcode⟩ := hencodes (hfits (-1)) .count rfl
    have hwidth : (call (run .closed [.startWith .ample 2 1 1 1, .openContext 7]).2
        (.textExtent 1 (some [72, 105, 0, 33]) (-1))).1.number? = some 16 := by decide +kernel
    obtain rfl : 16 = n := Option.some.inj (hwidth.symm.trans hn)
    exact hcode
  · obtain ⟨-, -, hencodes⟩ := call_encodes hrun (.textExtent 1 (some [72, 105, 0, 33]) 3)
    obtain ⟨n, hn, hcode⟩ := hencodes (hfits 3) .count rfl
    have hwidth : (call (run .closed [.startWith .ample 2 1 1 1, .openContext 7]).2
        (.textExtent 1 (some [72, 105, 0, 33]) 3)).1.number? = some 24 := by decide +kernel
    obtain rfl : 24 = n := Option.some.inj (hwidth.symm.trans hn)
    exact hcode

end Gateway

end Paintbox

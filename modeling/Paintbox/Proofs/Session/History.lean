import Mathlib.Tactic.Common
import Paintbox.Session.Request

/-!
# What a run has noted

Much of what is true after a run is told by a few of its requests, the ones that have set a register
or made an object, and by their order.  Such a history is a list of notes, at most one a request.

* `last` — the last value in a history, or else the initial one; `last_foldl` says when a state that
  takes up the notes one after the other holds it.
* `Session.log` — the notes of a run, and `Session.Along` — something that holds at every request of
  a run.
* `Session.run_append` — a run in two parts; `Session.keep_run` — what every request keeps, a run
  keeps.
* `Session.rel_run` — **if every request takes up its note then the whole run takes up its log**.
-/

namespace Paintbox

variable {α β σ : Type}

/-! ## Last values -/

/-- The last of the values in a history, and before all of them the initial one. -/
def last (value? : β → Option α) (initial : α) (history : List β) : α :=
  (history.filterMap value?).getLastD initial

/-- What changes with its own notes only is the last of them. -/
lemma last_foldl (get : σ → α) {step : σ → β → σ} {value? : β → Option α}
    (hget : ∀ x b, get (step x b) = (value? b).getD (get x)) (history : List β) :
    ∀ x, get (history.foldl step x) = last value? (get x) history := by
  induction history with
  | nil => exact fun x => rfl
  | cons b history ih =>
      intro x
      rw [List.foldl_cons, ih, hget, last, last]
      cases hb : value? b with
      | none => rw [List.filterMap_cons_none hb, Option.getD_none]
      | some v => rw [List.filterMap_cons_some hb, List.getLastD_cons, Option.getD_some]

/-! ## Runs -/

namespace Session

/-- The second part of a run starts where the first one ended. -/
lemma run_append (s : Session) (rs rs' : List Request) :
    s.run (rs ++ rs') = ((s.run rs).1 ++ ((s.run rs).2.run rs').1, ((s.run rs).2.run rs').2) := by
  induction rs generalizing s with
  | nil => rfl
  | cons r rs ih => simp only [List.cons_append, run, ih]

/-- What the requests of a run have to note, in their order. -/
def log (note : Session → Request → Option β) : Session → List Request → List β
  | _, [] => []
  | s, r :: rs => (note s r).toList ++ log note (r.perform s).2 rs

/-- Something holds at every request of a run. -/
def Along (P : Session → Request → Prop) : Session → List Request → Prop
  | _, [] => True
  | s, r :: rs => P s r ∧ Along P (r.perform s).2 rs

/-- The handle denotes a context. -/
def Live (h : ContextHandle) (s : Session) : Prop :=
  ∃ d dc, s = ⟨some d⟩ ∧ d.contexts.get? h.code = some dc

lemma Along.and {P Q : Session → Request → Prop} {rs : List Request} :
    ∀ {s}, Along P s rs → Along Q s rs → Along (fun s r => P s r ∧ Q s r) s rs := by
  induction rs with
  | nil => exact fun _ _ => trivial
  | cons r rs ih => exact fun hp hq => ⟨⟨hp.1, hq.1⟩, ih hp.2 hq.2⟩

lemma along_of_forall {Q : Request → Prop} {rs : List Request} (hrs : ∀ r ∈ rs, Q r) :
    ∀ s, Along (fun _ r => Q r) s rs := by
  induction rs with
  | nil => exact fun _ => trivial
  | cons r rs ih =>
      rw [List.forall_mem_cons] at hrs
      exact fun s => ⟨hrs.1, ih hrs.2 _⟩

/-- What is not in the log of a run has not been noted at any of its requests. -/
lemma along_of_notMem {note : Session → Request → Option β} {b : β} {rs : List Request} :
    ∀ {s}, b ∉ log note s rs → Along (fun s r => note s r ≠ some b) s rs := by
  induction rs with
  | nil => exact fun _ => trivial
  | cons r rs ih =>
      intro s hb
      rw [log, List.mem_append, not_or, Option.mem_toList] at hb
      exact ⟨hb.1, ih hb.2⟩

/-- Notes that are on the requests themselves make a log without any session. -/
lemma log_eq_filterMap (note : Request → Option β) (rs : List Request) :
    ∀ s, log (fun _ r => note r) s rs = rs.filterMap note := by
  induction rs with
  | nil => exact fun _ => rfl
  | cons r rs ih =>
      intro s
      rw [log, ih]
      cases hr : note r with
      | none => rw [List.filterMap_cons_none hr]; rfl
      | some b => rw [List.filterMap_cons_some hr]; rfl

/-- What every request of a run keeps the run keeps. -/
lemma keep_run {I : Session → Prop} {P : Session → Request → Prop}
    (hstep : ∀ s r, I s → P s r → I (r.perform s).2) {rs : List Request} :
    ∀ {s}, I s → Along P s rs → I (s.run rs).2 := by
  induction rs with
  | nil => exact fun hs _ => hs
  | cons r rs ih => exact fun hs hall => ih (hstep _ r hs hall.1) hall.2

/-- If every request ties the session to a state that has taken up the note of the request, then a
run ties it to one that has taken up the log of the run. -/
lemma rel_run {R : σ → Session → Prop} {note : Session → Request → Option β} {step : σ → β → σ}
    {P : Session → Request → Prop}
    (hstep : ∀ x s r, R x s → P s r → R ((note s r).elim x (step x)) (r.perform s).2)
    {rs : List Request} :
    ∀ {x s}, R x s → Along P s rs → R ((log note s rs).foldl step x) (s.run rs).2 := by
  induction rs with
  | nil => exact fun hx _ => hx
  | cons r rs ih =>
      intro x s hx hall
      have hrest := ih (hstep x s r hx hall.1) hall.2
      rw [log, List.foldl_append]
      cases hnote : note s r with
      | none =>
          rw [hnote] at hrest
          exact hrest
      | some b =>
          rw [hnote] at hrest
          exact hrest

end Session

end Paintbox

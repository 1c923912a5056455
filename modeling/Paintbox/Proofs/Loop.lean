import Mathlib.Data.List.Chain
import Mathlib.Logic.Function.Iterate

/-!
# Loops without a bound

A walk that stops when it has arrived is a loop, and nothing about a loop says that it ends.  Where
such a walk is computed it is given a bound on its steps.  Here is the loop itself, without any
bound: a run of it is derived step by step, and for a loop that goes on forever there is no run.  So
to say that there is one is to say that the loop ends.

* `Loop` — a run: the states in which the guard held, in order, and the state in which it did not.
* `Loop.exists_of_decreasing` — **what every step makes smaller ends the loop**, and bounds it.
* `Loop.of_iterate` — a loop whose states are known beforehand.
* `Loop.invariant` — what one step keeps a run keeps.
* `Loop.isChain_map` — what one step ties together a run ties together, one state to the next.
-/

namespace Paintbox

/-- From `s` on, the loop that takes a step as long as the guard holds goes through the states
`visited` and is left in `t`. -/
inductive Loop {σ : Type} (guard : σ → Prop) (step : σ → σ) : σ → List σ → σ → Prop where
  | done {s : σ} (hleft : ¬ guard s) : Loop guard step s [] s
  | next {s t : σ} {visited : List σ} (hguard : guard s)
      (hrest : Loop guard step (step s) visited t) : Loop guard step s (s :: visited) t

namespace Loop

variable {σ α : Type} {guard : σ → Prop} {step : σ → σ} {s t : σ} {visited : List σ}

/-- A loop ends if every step makes a natural number smaller, after so many steps at most. -/
lemma exists_of_decreasing (size : σ → ℕ) (hsize : ∀ s, guard s → size (step s) < size s) (s : σ) :
    ∃ visited t, Loop guard step s visited t ∧ visited.length ≤ size s := by
  induction hn : size s using Nat.strongRecOn generalizing s with
  | ind n ih =>
      by_cases hguard : guard s
      · have hlt := hsize s hguard
        obtain ⟨visited, t, hrest, hlen⟩ := ih (size (step s)) (hn ▸ hlt) (step s) rfl
        refine ⟨s :: visited, t, .next hguard hrest, ?_⟩
        rw [List.length_cons]
        omega
      · exact ⟨[], s, .done hguard, Nat.zero_le n⟩

/-- If the guard holds after fewer than `n` steps and not after `n`, the loop takes `n` steps. -/
lemma of_iterate {n : ℕ} : ∀ {s : σ}, (∀ k < n, guard (step^[k] s)) → ¬ guard (step^[n] s) →
    Loop guard step s ((List.range n).map fun k => step^[k] s) (step^[n] s) := by
  induction n with
  | zero => exact fun _ hleft => .done hleft
  | succ n ih =>
      intro s hguard hleft
      have hrest : Loop guard step (step s) ((List.range n).map fun k => step^[k] (step s))
          (step^[n] (step s)) :=
        ih (fun k hk => hguard (k + 1) (Nat.succ_lt_succ hk)) hleft
      rw [List.range_succ_eq_map, List.map_cons, List.map_map]
      exact .next (hguard 0 (Nat.succ_pos n)) hrest

/-- If the guard holds at first, there is a first step. -/
lemma exists_rest (h : Loop guard step s visited t) (hguard : guard s) :
    ∃ rest, visited = s :: rest ∧ Loop guard step (step s) rest t := by
  cases h with
  | done hleft => exact absurd hguard hleft
  | next _ hrest => exact ⟨_, rfl, hrest⟩

/-- If it does not, there is none. -/
lemma eq_nil (h : Loop guard step s visited t) (hleft : ¬ guard s) : visited = [] := by
  cases h with
  | done _ => rfl
  | next hguard _ => exact absurd hguard hleft

/-- A run ends where the guard does not hold any more. -/
lemma not_guard (h : Loop guard step s visited t) : ¬ guard t := by
  induction h with
  | done hleft => exact hleft
  | next _ _ ih => exact ih

/-- What one step keeps holds in every state of a run. -/
lemma invariant {I : σ → Prop} (hstep : ∀ s, I s → guard s → I (step s))
    (h : Loop guard step s visited t) (hs : I s) :
    (∀ u ∈ visited, I u ∧ guard u) ∧ I t ∧ ¬ guard t := by
  induction h with
  | done hleft => exact ⟨List.forall_mem_nil _, hs, hleft⟩
  | next hguard _ ih =>
      obtain ⟨hvisited, hlast⟩ := ih (hstep _ hs hguard)
      exact ⟨List.forall_mem_cons.mpr ⟨⟨hs, hguard⟩, hvisited⟩, hlast⟩

/-- If every step leads from one value of `f` to a related one, the values along a run are a chain,
which goes on with any chain from the value of the last state. -/
lemma isChain_map {f : σ → α} {R : α → α → Prop} (hstep : ∀ s, guard s → R (f s) (f (step s)))
    (h : Loop guard step s visited t) {rest : List α} (hrest : (f t :: rest).IsChain R) :
    (visited.map f ++ f t :: rest).IsChain R ∧
      (visited.map f ++ f t :: rest).head? = some (f s) := by
  induction h with
  | done _ => exact ⟨hrest, rfl⟩
  | next hguard _ ih =>
      obtain ⟨hchain, hhead⟩ := ih hrest
      refine ⟨List.IsChain.cons hchain fun b hb => ?_, rfl⟩
      cases hhead.symm.trans hb
      exact hstep _ hguard

end Loop

end Paintbox

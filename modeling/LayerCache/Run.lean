/-
Runs of a partial step function.

Every component modelled here — the multiplexer's registry with its concurrent
`subscribe` calls, an activity stream's loop with the tasks it spawns, the
rebaser work queue — is a state and a step function `σ → α → Option σ`: an
action the component cannot take in its current state is `none`.  A state is
reachable if some sequence of enabled actions leads to it.

`Reachable.induct` is the one induction every invariant of the project goes
through: an invariant that holds initially and survives every enabled step
holds of every reachable state.  `run` feeds a list of actions to the step
function, and `reachable_of_run` says that the state a run from the initial
state ends in is reachable.  The same relation from any start state gives the
continuations of a state, over which a property that every step keeps holds
from then on.
-/
import Mathlib.Data.List.Basic

namespace LayerCache

/-- Reachable from `init` by enabled steps. -/
inductive Reachable {σ α : Type} (step : σ → α → Option σ) (init : σ) : σ → Prop
  | init : Reachable step init init
  | step {s s' : σ} (a : α) (h : Reachable step init s) (hs : step s a = some s') :
      Reachable step init s'

/-- The state a list of actions leads to, when every one of them is enabled. -/
def run {σ α : Type} (step : σ → α → Option σ) (s : σ) : List α → Option σ
  | [] => some s
  | a :: as => (step s a).bind fun s' => run step s' as

section

variable {σ α : Type} {step : σ → α → Option σ} {init : σ}

/-- An invariant of the initial state that every enabled step keeps holds of every
reachable state. -/
theorem Reachable.induct (P : σ → Prop) (hinit : P init)
    (hstep : ∀ s a s', P s → step s a = some s' → P s') {s : σ}
    (h : Reachable step init s) : P s := by
  induction h with
  | init => exact hinit
  | step a _ hs ih => exact hstep _ a _ ih hs

theorem run_append (s : σ) (as bs : List α) :
    run step s (as ++ bs) = (run step s as).bind fun t => run step t bs := by
  induction as generalizing s with
  | nil => rfl
  | cons a as ih => rw [List.cons_append, run, run, Option.bind_assoc]; simp only [ih]

theorem reachable_run {s : σ} (h : Reachable step init s) :
    ∀ (as : List α) {s' : σ}, run step s as = some s' → Reachable step init s' := by
  intro as
  induction as generalizing s with
  | nil => intro s' hrun; cases hrun; exact h
  | cons a as ih =>
    intro s' hrun
    simp only [run, Option.bind_eq_some] at hrun
    obtain ⟨s₁, h₁, hrest⟩ := hrun
    exact ih (h.step a h₁) hrest

theorem reachable_of_run {as : List α} {s : σ} (h : run step init as = some s) :
    Reachable step init s :=
  reachable_run .init as h

end

end LayerCache

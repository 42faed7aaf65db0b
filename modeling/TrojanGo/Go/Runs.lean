import Mathlib.Logic.Basic

/-!
# Runs of a concurrent component

The goroutines of a component and the environment they talk to are modelled by one step
function `next : σ → α → Option σ`. An action `a : α` says which task moves and what the
environment answers it; `none` means that the task cannot move (it is blocked, or has
returned). The states of every interleaving are the `Reachable` ones. An invariant is proved
for one step and lifted to every reachable state by `Reachable.invariant`, and a concrete
interleaving is replayed with `runSteps`.
-/

set_option autoImplicit false

namespace TrojanGo

variable {σ α : Type} {next : σ → α → Option σ} {init : σ}

/-- The states that some interleaving of enabled steps reaches from `init`. -/
inductive Reachable (next : σ → α → Option σ) (init : σ) : σ → Prop
  | init : Reachable next init init
  | step {s s' : σ} (a : α) : Reachable next init s → next s a = some s' → Reachable next init s'

/-- A property that holds initially and that every step keeps holds in every reachable state. -/
theorem Reachable.invariant {P : σ → Prop} (initial : P init)
    (preserved : ∀ s a s', P s → next s a = some s' → P s') {s : σ}
    (reachable : Reachable next init s) : P s := by
  induction reachable with
  | init => exact initial
  | step a _ stepped ih => exact preserved _ a _ ih stepped

/-- Replays a list of actions; `none` as soon as one of them is not enabled. -/
def runSteps (next : σ → α → Option σ) : σ → List α → Option σ
  | s, [] => some s
  | s, a :: rest => (next s a).bind (runSteps next · rest)

theorem Reachable.runSteps {s s' : σ} (reachable : Reachable next init s) :
    ∀ {actions : List α}, TrojanGo.runSteps next s actions = some s' → Reachable next init s'
  | [], ran => by
      cases ran
      exact reachable
  | a :: rest, ran => by
      simp only [TrojanGo.runSteps] at ran
      cases stepped : next s a with
      | none => simp [stepped] at ran
      | some s₁ =>
          simp only [stepped, Option.bind_some] at ran
          exact (reachable.step a stepped).runSteps ran

/-- An interleaving that ends where `p` holds shows a reachable state where `p` holds. -/
theorem reachable_of_runSteps (next : σ → α → Option σ) (init : σ) (actions : List α)
    (p : σ → Bool) (ran : (runSteps next init actions).map p = some true) :
    ∃ s, Reachable next init s ∧ p s = true := by
  cases final : runSteps next init actions with
  | none => simp [final] at ran
  | some s => exact ⟨s, Reachable.init.runSteps final, by simpa [final] using ran⟩

/-- A `select` between a receive from a buffered channel and `<-ctx.Done()`: the head of the
channel and the rest (`some (some _)`), or the `Done` case (`some none`); `none` when the call
blocks. When both cases are ready, `pickDone` says which one Go's `select` takes. -/
def selectReceive {β : Type} (cancelled pickDone : Bool) : List β → Option (Option (β × List β))
  | [] => if cancelled then some none else none
  | i :: rest => if cancelled ∧ pickDone then some none else some (some (i, rest))

theorem selectReceive_eq_some {β : Type} {cancelled pickDone : Bool} {chan : List β} {i : β}
    {rest : List β} (received : selectReceive cancelled pickDone chan = some (some (i, rest))) :
    chan = i :: rest := by
  cases chan with
  | nil =>
      simp only [selectReceive] at received
      split at received <;> cases received
  | cons head tail =>
      simp only [selectReceive] at received
      split at received <;> cases received
      rfl

end TrojanGo

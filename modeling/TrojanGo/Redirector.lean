import TrojanGo.Go.Runs
import Mathlib.Data.List.Basic

/-!
# The redirector

`Redirector` as a message-passing system: the goroutines that call `Redirect`, the buffered
`redirectionChan`, the worker, one `handle` goroutine per redirection the worker takes, and the
cancellation of the context. The environment chooses what `Dial` answers, when a copy ends, and
which ready case a `select` takes.

`handle` closes the inbound connection on every path that has one (`reachable_tracked`). The
connections that are never closed are the ones `Redirect` drops when the context is done, and
those still waiting in `redirectionChan` when the worker exits (`open_of_quiescent`); both
happen (`redirector_leaks_dropped_redirection`).
-/

set_option autoImplicit false

namespace TrojanGo

namespace Redirector

/-- The capacity of `redirectionChan`, `make(chan *Redirection, 64)`. -/
def redirectionChanCapacity : Nat := 64

/-- What `handle` looks at in a `Redirection`: whether `InboundConn` and `RedirectTo` are nil,
and whether `Dial` connects. -/
structure Redirection where
  inboundNil : Bool
  targetNil : Bool
  dialSucceeds : Bool
  deriving DecidableEq, Repr

/-- Where a call of `Redirect` is. -/
inductive Call
  /-- In its `select`. -/
  | pending
  /-- It sent the redirection on `redirectionChan`. -/
  | sent
  /-- It took `<-r.ctx.Done()`: the redirection is dropped. -/
  | dropped
  deriving DecidableEq, Repr

/-- Where the `handle` goroutine of a redirection is. -/
inductive Handle
  /-- Before its checks and `Dial`. -/
  | started
  /-- Both copies run; it waits on `errChan` or `r.ctx.Done()`. -/
  | copying
  | returned
  deriving DecidableEq, Repr

/-- One call of `Redirect`, with what became of its redirection. -/
structure Request where
  redirection : Redirection
  call : Call
  /-- The `handle` goroutine the worker started for it, if any. -/
  handle : Option Handle
  inboundClosed : Bool
  deriving DecidableEq, Repr

end Redirector

/-- The redirector. Request `i` is the `i`-th call of `Redirect`; `redirectionChan` holds
indices of requests. -/
structure Redirector where
  /-- `r.ctx` is done. -/
  cancelled : Bool
  /-- The worker has not returned. -/
  working : Bool
  requests : List Redirector.Request
  redirectionChan : List Nat
  deriving DecidableEq, Repr

namespace Redirector

/-- `NewRedirector`: the worker is started. -/
def init : Redirector := ⟨false, true, [], []⟩

/-- Which goroutine moves, and what its environment answers. -/
inductive Action
  /-- A goroutine calls `Redirect`. -/
  | redirect (redirection : Redirection)
  /-- The `select` of a call of `Redirect`: the case it takes when both are ready. -/
  | select (request : Nat) (pickDone : Bool)
  /-- The worker's `select`. -/
  | work (pickDone : Bool)
  /-- The checks of a `handle` goroutine, then `Dial`. -/
  | handle (request : Nat)
  /-- The `select` of a `handle` goroutine: a copy ended, or the context is done. -/
  | finish (request : Nat)
  /-- The context is cancelled. -/
  | cancel

def setRequest (s : Redirector) (i : Nat) (req : Request) : Redirector :=
  { s with requests := s.requests.set i req }

/-- The checks of `handle` and its `Dial`. A nil inbound connection returns at once; after that
`InboundConn.Close()` is deferred, so a nil target or a failed `Dial` closes it. -/
def afterChecks (req : Request) : Request :=
  if req.redirection.inboundNil then { req with handle := some .returned }
  else if req.redirection.targetNil ∨ !req.redirection.dialSucceeds then
    { req with handle := some .returned, inboundClosed := true }
  else { req with handle := some .copying }

/-- One step of the redirector. -/
def next (s : Redirector) : Action → Option Redirector
  | .redirect redirection => some { s with requests := s.requests ++ [⟨redirection, .pending, none, false⟩] }
  | .select i pickDone =>
      match s.requests[i]? with
      | some req =>
          if req.call ≠ .pending then none
          else if s.redirectionChan.length < redirectionChanCapacity ∧ ¬(s.cancelled ∧ pickDone) then
            some { s.setRequest i { req with call := .sent } with
              redirectionChan := s.redirectionChan ++ [i] }
          else if s.cancelled then some (s.setRequest i { req with call := .dropped })
          else none
      | none => none
  | .work pickDone =>
      if !s.working then none
      else
        match selectReceive s.cancelled pickDone s.redirectionChan with
        | none => none
        | some none => some { s with working := false }
        | some (some (i, rest)) =>
            match s.requests[i]? with
            | some req => some { s.setRequest i { req with handle := some .started } with redirectionChan := rest }
            | none => none
  | .handle i =>
      match s.requests[i]? with
      | some req => if req.handle = some .started then some (s.setRequest i (afterChecks req)) else none
      | none => none
  | .finish i =>
      match s.requests[i]? with
      | some req =>
          if req.handle = some .copying then
            some (s.setRequest i { req with handle := some .returned, inboundClosed := true })
          else none
      | none => none
  | .cancel => some { s with cancelled := true }

/-! ## What becomes of a redirection -/

/-- A request whose call sent it and that no `handle` took yet waits in `redirectionChan`; a
`handle` that returned closed the inbound connection, if there is one. -/
def Tracked (s : Redirector) : Prop :=
  ∀ i req, s.requests[i]? = some req →
    (req.handle = none → req.call = .sent → i ∈ s.redirectionChan) ∧
      (req.handle = some .returned → req.redirection.inboundNil = false → req.inboundClosed = true)

theorem getElem?_setRequest (s : Redirector) (i j : Nat) (req : Request) :
    (s.setRequest i req).requests[j]? = if i = j ∧ i < s.requests.length then some req else s.requests[j]? := by
  simp only [setRequest, List.getElem?_set]
  by_cases same : i = j
  · subst same
    by_cases inside : i < s.requests.length
    · simp [inside]
    · simp [inside, List.getElem?_eq_none (Nat.le_of_not_lt inside)]
  · simp [same]

theorem setRequest_found {s : Redirector} {i j : Nat} {req req' : Request}
    (found : (s.setRequest i req).requests[j]? = some req') :
    (i = j ∧ req' = req) ∨ (i ≠ j ∧ s.requests[j]? = some req') := by
  rw [getElem?_setRequest] at found
  split at found
  · exact .inl ⟨‹i = j ∧ _›.1, (Option.some.inj found).symm⟩
  · by_cases same : i = j
    · subst same
      rw [List.getElem?_eq_none (by omega)] at found
      cases found
    · exact .inr ⟨same, found⟩

/-- Replacing one request by a tracked one, with the channel only growing, keeps `Tracked`. -/
theorem Tracked.setRequest {s : Redirector} (tracked : Tracked s) {i : Nat} {req : Request}
    {chan : List Nat} (grows : ∀ j, j ≠ i → j ∈ s.redirectionChan → j ∈ chan)
    (waiting : req.handle = none → req.call = .sent → i ∈ chan)
    (closed : req.handle = some .returned → req.redirection.inboundNil = false → req.inboundClosed = true) :
    Tracked { s.setRequest i req with redirectionChan := chan } := by
  intro j req' found
  rcases setRequest_found found with ⟨rfl, rfl⟩ | ⟨other, old⟩
  · exact ⟨waiting, closed⟩
  · exact ⟨fun none sent => grows j (Ne.symm other) ((tracked j req' old).1 none sent),
      (tracked j req' old).2⟩

/-- `handle` closes a non-nil inbound connection on every path on which it returns. -/
theorem afterChecks_closes (req : Request) (returned : (afterChecks req).handle = some .returned)
    (notNil : (afterChecks req).redirection.inboundNil = false) :
    (afterChecks req).inboundClosed = true := by
  simp only [afterChecks] at returned notNil ⊢
  split_ifs at returned notNil ⊢ <;> simp_all

theorem next_tracked {s s' : Redirector} {a : Action} (tracked : Tracked s)
    (stepped : next s a = some s') : Tracked s' := by
  cases a with
  | redirect redirection =>
      cases stepped
      intro j req found
      rcases Nat.lt_or_ge j s.requests.length with old | new
      · rw [List.getElem?_append_left old] at found
        exact tracked j req found
      · rw [List.getElem?_append_right new] at found
        cases h : j - s.requests.length <;> simp [h] at found
        subst found
        exact ⟨fun _ sent => (by cases sent), fun returned => (by cases returned)⟩
  | select i pickDone =>
      simp only [next] at stepped
      split at stepped
      · rename_i req _
        split_ifs at stepped <;> cases stepped
        · exact tracked.setRequest (fun j _ => List.mem_append_left _)
            (fun _ _ => List.mem_append_right _ (List.mem_singleton_self _))
            (fun returned => (tracked i req ‹_›).2 returned)
        · exact tracked.setRequest (fun _ _ => id) (fun _ sent => by cases sent)
            (fun returned => (tracked i req ‹_›).2 returned)
      · cases stepped
  | work pickDone =>
      simp only [next] at stepped
      split at stepped
      · cases stepped
      split at stepped
      · cases stepped
      · cases stepped
        exact tracked
      · rename_i head rest received
        split at stepped
        · cases stepped
          refine tracked.setRequest (fun j other member => ?_) (fun started => by cases started)
            (fun returned => by cases returned)
          rw [selectReceive_eq_some received, List.mem_cons] at member
          exact member.resolve_left other
        · cases stepped
  | handle i =>
      simp only [next] at stepped
      split at stepped
      · split_ifs at stepped
        cases stepped
        refine tracked.setRequest (fun _ _ => id) (fun none => ?_) (afterChecks_closes _)
        simp only [afterChecks] at none
        split_ifs at none
      · cases stepped
  | finish i =>
      simp only [next] at stepped
      split at stepped
      · split_ifs at stepped
        cases stepped
        exact tracked.setRequest (fun _ _ => id) (fun none => by cases none) (fun _ _ => rfl)
      · cases stepped
  | cancel =>
      cases stepped
      exact tracked

/-- In every state of every interleaving, a redirection that was sent and that no worker took
waits in `redirectionChan`, and a `handle` that returned closed the inbound connection. -/
theorem reachable_tracked {s : Redirector} (reachable : Reachable next init s) : s.Tracked :=
  reachable.invariant (fun i req found => by simp [init] at found) fun _ _ _ => next_tracked

/-- The context is done, the worker and every `handle` goroutine have returned, and no call of
`Redirect` is pending. -/
def Quiescent (s : Redirector) : Prop :=
  s.cancelled = true ∧ s.working = false ∧
    ∀ req ∈ s.requests, req.call ≠ .pending ∧ (req.handle = none ∨ req.handle = some .returned)

instance : DecidablePred Quiescent := fun s =>
  inferInstanceAs (Decidable (s.cancelled = true ∧ s.working = false ∧
    ∀ req ∈ s.requests, req.call ≠ .pending ∧ (req.handle = none ∨ req.handle = some .returned)))

/-- The inbound connection of request `i` exists and is still open. -/
def Leaked (s : Redirector) (i : Nat) : Prop :=
  ∃ req ∈ s.requests[i]?, req.redirection.inboundNil = false ∧ req.inboundClosed = false

instance (s : Redirector) (i : Nat) : Decidable (s.Leaked i) :=
  inferInstanceAs (Decidable (∃ req ∈ s.requests[i]?,
    req.redirection.inboundNil = false ∧ req.inboundClosed = false))

/-- An inbound connection still open once everything has stopped was dropped by `Redirect` or
waits in `redirectionChan`. -/
theorem open_of_quiescent {s : Redirector} (reachable : Reachable next init s)
    (quiescent : s.Quiescent) {i : Nat} (leaked : s.Leaked i) :
    ∃ req ∈ s.requests[i]?, req.call = .dropped ∨ i ∈ s.redirectionChan := by
  obtain ⟨req, found, notNil, open_⟩ := leaked
  obtain ⟨notPending, handled⟩ := quiescent.2.2 req (List.mem_iff_getElem?.mpr ⟨i, found⟩)
  have tracked := reachable_tracked reachable i req found
  rcases handled with none | returned
  · cases call : req.call with
    | pending => exact absurd call notPending
    | sent => exact ⟨req, found, .inr (tracked.1 none call)⟩
    | dropped => exact ⟨req, found, .inl call⟩
  · simp [tracked.2 returned notNil] at open_

/-- A redirection sent on `redirectionChan` before the context is cancelled, and a worker whose
`select` then takes `Done`: the inbound connection waits in the channel, open. -/
theorem open_of_quiescent_in_channel :
    ∃ s, Reachable next init s ∧ s.Quiescent ∧ s.Leaked 0 ∧
      ∃ req ∈ s.requests[0]?, req.call = .dropped ∨ 0 ∈ s.redirectionChan := by
  obtain ⟨s, reachable, holds⟩ := reachable_of_runSteps next init
    [.redirect ⟨false, false, true⟩, .select 0 false, .cancel, .work true]
    (fun s => decide (s.Quiescent ∧ s.Leaked 0)) (by decide)
  obtain ⟨quiescent, leaked⟩ := of_decide_eq_true holds
  exact ⟨s, reachable, quiescent, leaked, open_of_quiescent reachable quiescent leaked⟩

/-- A call of `Redirect` once the context is done: the worker has returned, the call's `select`
takes `Done`, and the inbound connection is never closed. -/
theorem redirector_leaks_dropped_redirection :
    ∃ s, Reachable next init s ∧ s.Quiescent ∧ s.Leaked 0 := by
  obtain ⟨s, reachable, holds⟩ := reachable_of_runSteps next init
    [.cancel, .work true, .redirect ⟨false, false, true⟩, .select 0 true]
    (fun s => decide (s.Quiescent ∧ s.Leaked 0)) (by decide)
  exact ⟨s, reachable, of_decide_eq_true holds⟩

end Redirector

end TrojanGo

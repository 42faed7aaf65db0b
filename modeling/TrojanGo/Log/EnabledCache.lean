import TrojanGo.Go.Runs
import TrojanGo.Log.SlogAdapter

/-!
# The enabled cache under concurrent calls

`isEnabledCached` and `SetLogLevel` on one adapter, each call taken apart into the steps the
code makes between its lock operations. A call of `isEnabledCached` loads the cache under
`cacheMu.RLock`, calls `handler.Enabled` with no lock held, and stores the answer under
`cacheMu.RLock`; a call of `SetLogLevel` stores the level and sets the `LevelVar`, then runs
`clearEnabledCache` under `cacheMu.Lock`. Run back to back, the steps of a call are the
sequential methods (`isEnabledCached_eq_steps`, `setLogLevel_eq_steps`).

Every step that leaves the `LevelVar` cells as they are keeps the answers in the cache, and those
being computed, equal to the handler's answers (`next_agree`); so with no `SetLogLevel` the cache
is right in every interleaving (`reachable_agree_without_setLogLevel`). A level change between
the `handler.Enabled` of a lookup and its store leaves the answer of the old level in the cache
once every call has returned (`enabledCache_keeps_stale_answer`).
-/

set_option autoImplicit false

namespace TrojanGo.Slog

/-! ## The steps of the methods -/

/-- `s.enabledCache.Load(level)`. -/
def loadCached (h : Heap) (s : Nat) (level : Int) : Option Bool :=
  h.adapters[s]?.bind fun adapter => adapter.enabledCache level

/-- `s.enabledCache.Store(level, enabled)`. -/
def storeEnabled (h : Heap) (s : Nat) (level : Int) (enabled : Bool) : Heap :=
  match h.adapters[s]? with
  | none => h
  | some adapter =>
      h.setAdapter s { adapter with enabledCache := Function.update adapter.enabledCache level (some enabled) }

/-- `atomic.StoreInt32(&s.logLevel, int32(level))` and `s.levelVar.Set(mapLogLevelToSlog(level))`. -/
def storeLevel (h : Heap) (s : Nat) (level : Int) : Heap :=
  match h.adapters[s]? with
  | none => h
  | some adapter =>
      let h := { h with levelVars := h.levelVars.set adapter.levelVar (mapLogLevelToSlog level) }
      h.setAdapter s { adapter with logLevel := level }

/-- `clearEnabledCache`. -/
def clearEnabledCache (h : Heap) (s : Nat) : Heap :=
  match h.adapters[s]? with
  | none => h
  | some adapter => h.setAdapter s { adapter with enabledCache := fun _ => none }

/-- `isEnabledCached` is the load, then on a miss `handler.Enabled` and the store. -/
theorem isEnabledCached_eq_steps (h : Heap) (s : Nat) (level : Int) :
    isEnabledCached h s level =
      match loadCached h s level with
      | some cached => (cached, h)
      | none => (enabledOf h s level, storeEnabled h s level (enabledOf h s level)) := by
  cases found : h.adapters[s]? with
  | none => simp [isEnabledCached, loadCached, enabledOf, storeEnabled, found]
  | some adapter =>
      cases cached : adapter.enabledCache level <;>
        simp [isEnabledCached, loadCached, enabledOf, storeEnabled, found, cached]

section Steps

variable (h : Heap) (s : Nat) (level : Int)

@[simp] theorem storeEnabled_levelVars (enabled : Bool) : (storeEnabled h s level enabled).levelVars = h.levelVars := by
  unfold storeEnabled; split <;> rfl

@[simp] theorem clearEnabledCache_levelVars : (clearEnabledCache h s).levelVars = h.levelVars := by
  unfold clearEnabledCache; split <;> rfl

theorem getElem?_storeEnabled (enabled : Bool) :
    (storeEnabled h s level enabled).adapters[s]? =
      h.adapters[s]?.map fun adapter =>
        { adapter with enabledCache := Function.update adapter.enabledCache level (some enabled) } := by
  cases found : h.adapters[s]? <;> simp [storeEnabled, found, getElem?_setAdapter_self]

theorem getElem?_clearEnabledCache :
    (clearEnabledCache h s).adapters[s]? = h.adapters[s]?.map fun adapter => { adapter with enabledCache := fun _ => none } := by
  cases found : h.adapters[s]? <;> simp [clearEnabledCache, found, getElem?_setAdapter_self]

theorem getElem?_storeLevel :
    (storeLevel h s level).adapters[s]? = h.adapters[s]?.map fun adapter => { adapter with logLevel := level } := by
  cases found : h.adapters[s]? with
  | none => simp [storeLevel, found]
  | some adapter =>
      have inside : s < h.adapters.length := (List.getElem?_eq_some_iff.mp found).1
      simp [storeLevel, found, getElem?_setAdapter, inside]

end Steps

/-- The handler's answer reads the `LevelVar` cells and the adapter's own cell index, so a heap
whose adapter differs only in its cache or its `logLevel` gives the same answers. -/
theorem enabledOf_congr {h h' : Heap} {s : Nat} (same : h'.levelVars = h.levelVars)
    (adapters : h'.adapters[s]?.map Adapter.levelVar = h.adapters[s]?.map Adapter.levelVar) (level : Int) :
    enabledOf h' s level = enabledOf h s level := by
  cases found : h.adapters[s]? <;> cases found' : h'.adapters[s]? <;>
    simp only [found, found', Option.map_none', Option.map_some', Option.some.injEq, reduceCtorEq] at adapters <;>
    simp [enabledOf, handlerEnabled, Heap.level, found, found', same, adapters]

/-- The store writes the handler's answer, so it keeps the cache right. -/
theorem coherent_storeEnabled {h : Heap} {s : Nat} {level : Int} {enabled : Bool} (coherent : Coherent h s)
    (right : enabled = enabledOf h s level) : Coherent (storeEnabled h s level enabled) s := by
  intro adapter' found' level' enabled' cached
  cases found : h.adapters[s]? with
  | none => simp [getElem?_storeEnabled, found] at found'
  | some adapter =>
      simp only [getElem?_storeEnabled, found, Option.map_some', Option.mem_def, Option.some.injEq] at found'
      subst found'
      simp only [Function.update_apply] at cached
      split_ifs at cached with same
      · cases cached
        subst same
        simpa [enabledOf, found, handlerEnabled, Heap.level] using right
      · simpa [handlerEnabled, Heap.level] using coherent adapter found level' enabled' cached

theorem coherent_clearEnabledCache (h : Heap) (s : Nat) : Coherent (clearEnabledCache h s) s := by
  intro adapter found level enabled cached
  cases found' : h.adapters[s]? <;> simp [getElem?_clearEnabledCache, found'] at found
  subst found
  cases cached

/-- Storing a level that maps to the `LevelVar` value already there keeps the cache right. -/
theorem coherent_storeLevel {h : Heap} {s : Nat} {level : Int} (coherent : Coherent h s)
    (same : (storeLevel h s level).levelVars = h.levelVars) : Coherent (storeLevel h s level) s := by
  intro adapter' found' level' enabled cached
  cases found : h.adapters[s]? with
  | none => simp [getElem?_storeLevel, found] at found'
  | some adapter =>
      simp only [getElem?_storeLevel, found, Option.map_some', Option.mem_def, Option.some.injEq] at found'
      subst found'
      simpa [handlerEnabled, Heap.level, same] using coherent adapter found level' enabled cached

/-- A cached answer of a right cache is the handler's answer. -/
theorem Coherent.loadCached {h : Heap} {s : Nat} {level : Int} {enabled : Bool} (coherent : Coherent h s)
    (cached : loadCached h s level = some enabled) : enabled = enabledOf h s level := by
  cases found : h.adapters[s]? with
  | none => simp [Slog.loadCached, found] at cached
  | some adapter =>
      simp only [Slog.loadCached, found, Option.some_bind] at cached
      simpa [enabledOf, found] using coherent adapter found level enabled cached

namespace EnabledCache

/-! ## Concurrent calls on one adapter -/

/-- Where a call of `isEnabledCached` is. -/
inductive Lookup
  /-- Before `s.enabledCache.Load(level)`. -/
  | loading (level : Int)
  /-- The cache had no answer; before `s.handler.Enabled(ctx, level)`. -/
  | missed (level : Int)
  /-- The handler answered `enabled`; before `s.enabledCache.Store(level, enabled)`. -/
  | computed (level : Int) (enabled : Bool)
  /-- Returned `enabled`. -/
  | returned (enabled : Bool)
  deriving DecidableEq, Repr

/-- Where a call of `SetLogLevel` is. -/
inductive SetLevel
  /-- Before `atomic.StoreInt32` and `levelVar.Set`. -/
  | setting (level : Int)
  /-- The `LevelVar` is set; before `clearEnabledCache`. -/
  | clearing
  | returned
  deriving DecidableEq, Repr

/-- The heap and the calls made so far on the adapter. -/
structure Calls where
  heap : Heap
  lookups : List Lookup
  setLevels : List SetLevel

/-- No call has been made yet. -/
def init (h : Heap) : Calls := ⟨h, [], []⟩

/-- A new call starts, or a call makes its next step. -/
inductive Action
  | isEnabledCached (level : Int)
  | setLogLevel (level : Int)
  | lookup (i : Nat)
  | setLevel (i : Nat)

/-- The next step of a call of `isEnabledCached` on adapter `s`; `none` once it has returned. -/
def Lookup.step (h : Heap) (s : Nat) : Lookup → Option (Heap × Lookup)
  | .loading level =>
      some (h, match loadCached h s level with
        | some cached => .returned cached
        | none => .missed level)
  | .missed level => some (h, .computed level (enabledOf h s level))
  | .computed level enabled => some (storeEnabled h s level enabled, .returned enabled)
  | .returned _ => none

/-- The next step of a call of `SetLogLevel` on adapter `s`; `none` once it has returned. -/
def SetLevel.step (h : Heap) (s : Nat) : SetLevel → Option (Heap × SetLevel)
  | .setting level => some (storeLevel h s level, .clearing)
  | .clearing => some (clearEnabledCache h s, .returned)
  | .returned => none

/-- One step of the calls on adapter `s`. -/
def next (s : Nat) (calls : Calls) : Action → Option Calls
  | .isEnabledCached level => some { calls with lookups := calls.lookups ++ [.loading level] }
  | .setLogLevel level => some { calls with setLevels := calls.setLevels ++ [.setting level] }
  | .lookup i => do
      let call ← calls.lookups[i]?
      let (heap, call') ← Lookup.step calls.heap s call
      pure { calls with heap := heap, lookups := calls.lookups.set i call' }
  | .setLevel i => do
      let call ← calls.setLevels[i]?
      let (heap, call') ← SetLevel.step calls.heap s call
      pure { calls with heap := heap, setLevels := calls.setLevels.set i call' }

theorem next_lookup_eq_some {s i : Nat} {calls calls' : Calls} (stepped : next s calls (.lookup i) = some calls') :
    ∃ call heap call', calls.lookups[i]? = some call ∧ Lookup.step calls.heap s call = some (heap, call') ∧
      calls' = { calls with heap := heap, lookups := calls.lookups.set i call' } := by
  simp only [next, Option.bind_eq_bind, Option.bind_eq_some] at stepped
  obtain ⟨call, found, ⟨heap, call'⟩, stepped, done⟩ := stepped
  exact ⟨call, heap, call', found, stepped, (Option.some.inj done).symm⟩

theorem next_setLevel_eq_some {s i : Nat} {calls calls' : Calls} (stepped : next s calls (.setLevel i) = some calls') :
    ∃ call heap call', calls.setLevels[i]? = some call ∧ SetLevel.step calls.heap s call = some (heap, call') ∧
      calls' = { calls with heap := heap, setLevels := calls.setLevels.set i call' } := by
  simp only [next, Option.bind_eq_bind, Option.bind_eq_some] at stepped
  obtain ⟨call, found, ⟨heap, call'⟩, stepped, done⟩ := stepped
  exact ⟨call, heap, call', found, stepped, (Option.some.inj done).symm⟩

/-- Every answer a lookup has computed and not stored yet is the handler's answer on `heap`. -/
def Inflight (s : Nat) (heap : Heap) (lookups : List Lookup) : Prop :=
  ∀ call ∈ lookups, ∀ level enabled, call = .computed level enabled → enabled = enabledOf heap s level

/-- The cache of adapter `s` and the answers being computed are the handler's answers. -/
def Agree (s : Nat) (calls : Calls) : Prop :=
  Coherent calls.heap s ∧ Inflight s calls.heap calls.lookups

section Inflight

variable {s : Nat} {heap : Heap} {lookups : List Lookup}

theorem Inflight.set (inflight : Inflight s heap lookups) (i : Nat) {call : Lookup}
    (right : ∀ level enabled, call = .computed level enabled → enabled = enabledOf heap s level) :
    Inflight s heap (lookups.set i call) := fun call' member => by
  rcases List.mem_or_eq_of_mem_set member with old | rfl
  · exact inflight call' old
  · exact right

theorem Inflight.congr {heap' : Heap} (inflight : Inflight s heap lookups)
    (same : ∀ level, enabledOf heap' s level = enabledOf heap s level) : Inflight s heap' lookups :=
  fun call member level enabled computed => (inflight call member level enabled computed).trans (same level).symm

end Inflight

/-- What a step of a lookup does: the load and `handler.Enabled` leave the heap as it is, and
an answer they compute is the handler's; the store writes the computed answer. -/
theorem Lookup.step_eq_some {h heap : Heap} {s : Nat} {call call' : Lookup}
    (stepped : Lookup.step h s call = some (heap, call')) :
    (heap = h ∧ ∀ level enabled, call' = .computed level enabled → enabled = enabledOf h s level) ∨
      ∃ level enabled, call = .computed level enabled ∧ heap = storeEnabled h s level enabled ∧
        call' = .returned enabled := by
  cases call <;> simp only [Lookup.step, Option.some.injEq, Prod.mk.injEq, reduceCtorEq] at stepped <;>
    obtain ⟨rfl, rfl⟩ := stepped
  case loading level => exact .inl ⟨rfl, fun _ _ computed => by split at computed <;> cases computed⟩
  case missed level => exact .inl ⟨rfl, fun _ _ computed => by cases computed; rfl⟩
  case computed level enabled => exact .inr ⟨level, enabled, rfl, rfl, rfl⟩

/-- A lookup changes at most the cache of the adapter. -/
theorem Lookup.step_levelVars {h heap : Heap} {s : Nat} {call call' : Lookup}
    (stepped : Lookup.step h s call = some (heap, call')) : heap.levelVars = h.levelVars := by
  rcases Lookup.step_eq_some stepped with ⟨rfl, -⟩ | ⟨level, enabled, -, rfl, -⟩ <;> simp

/-- A step of a lookup keeps the cache and the computed answers right. -/
theorem Lookup.step_agree {s : Nat} {h heap : Heap} {lookups : List Lookup} {i : Nat} {call call' : Lookup}
    (coherent : Coherent h s) (inflight : Inflight s h lookups) (found : lookups[i]? = some call)
    (stepped : Lookup.step h s call = some (heap, call')) :
    Coherent heap s ∧ Inflight s heap (lookups.set i call') := by
  rcases Lookup.step_eq_some stepped with ⟨rfl, fresh⟩ | ⟨level, enabled, rfl, rfl, rfl⟩
  · exact ⟨coherent, inflight.set i fresh⟩
  · have same : ∀ level', enabledOf (storeEnabled h s level enabled) s level' = enabledOf h s level' :=
      enabledOf_congr (by simp) (by rw [getElem?_storeEnabled, Option.map_map]; rfl)
    exact ⟨coherent_storeEnabled coherent (inflight _ (List.mem_iff_getElem?.mpr ⟨i, found⟩) level enabled rfl),
      (inflight.congr same).set i fun _ _ computed => by cases computed⟩

/-- Every step that leaves the `LevelVar` cells as they are keeps the cache of adapter `s` and the
answers being computed equal to the handler's answers. -/
theorem next_agree {s : Nat} {calls calls' : Calls} {a : Action} (agree : Agree s calls)
    (stepped : next s calls a = some calls') (same : calls'.heap.levelVars = calls.heap.levelVars) :
    Agree s calls' := by
  obtain ⟨coherent, inflight⟩ := agree
  cases a with
  | isEnabledCached level =>
      cases stepped
      refine ⟨coherent, fun call member level' enabled computed => ?_⟩
      rcases List.mem_append.mp member with old | fresh
      · exact inflight call old level' enabled computed
      · obtain rfl := List.mem_singleton.mp fresh
        cases computed
  | setLogLevel level =>
      cases stepped
      exact ⟨coherent, inflight⟩
  | lookup i =>
      obtain ⟨call, heap, call', found, step, rfl⟩ := next_lookup_eq_some stepped
      exact Lookup.step_agree coherent inflight found step
  | setLevel i =>
      obtain ⟨call, heap, call', -, step, rfl⟩ := next_setLevel_eq_some stepped
      cases call with
      | setting level =>
          simp only [SetLevel.step, Option.some.injEq, Prod.mk.injEq] at step
          obtain ⟨rfl, rfl⟩ := step
          exact ⟨coherent_storeLevel coherent same,
            inflight.congr (enabledOf_congr same (by rw [getElem?_storeLevel, Option.map_map]; rfl))⟩
      | clearing =>
          simp only [SetLevel.step, Option.some.injEq, Prod.mk.injEq] at step
          obtain ⟨rfl, rfl⟩ := step
          exact ⟨coherent_clearEnabledCache _ _,
            inflight.congr (enabledOf_congr (by simp) (by rw [getElem?_clearEnabledCache, Option.map_map]; rfl))⟩
      | returned => cases step

/-- Only a call of `SetLogLevel` sets a `LevelVar`: a step after which no `SetLogLevel` was
called was taken with none called, and left the `LevelVar` cells as they were. -/
theorem next_without_setLevels {s : Nat} {calls calls' : Calls} {a : Action} (stepped : next s calls a = some calls')
    (none : calls'.setLevels = []) : calls.setLevels = [] ∧ calls'.heap.levelVars = calls.heap.levelVars := by
  cases a with
  | isEnabledCached level => cases stepped; exact ⟨none, rfl⟩
  | setLogLevel level => cases stepped; simp at none
  | lookup i =>
      obtain ⟨call, heap, call', -, step, rfl⟩ := next_lookup_eq_some stepped
      exact ⟨none, Lookup.step_levelVars step⟩
  | setLevel i =>
      obtain ⟨call, heap, call', found, -, rfl⟩ := next_setLevel_eq_some stepped
      simp only [List.set_eq_nil_iff] at none
      simp [none] at found

/-- In every interleaving of `isEnabledCached` calls on an adapter whose cache is right, with no
`SetLogLevel`, every answer in the cache and every answer being computed is the handler's
answer. -/
theorem reachable_agree_without_setLogLevel {h : Heap} {s : Nat} (coherent : Coherent h s) {calls : Calls}
    (reachable : Reachable (next s) (init h) calls) (none : calls.setLevels = []) : Agree s calls :=
  reachable.invariant (P := fun calls => calls.setLevels = [] → Agree s calls)
    (fun _ => ⟨coherent, fun _ member => by cases member⟩)
    (fun _ _ _ holds stepped none' =>
      have before := next_without_setLevels stepped none'
      next_agree (holds before.1) stepped before.2)
    none

/-- Two lookups on a new adapter whose level has just been set: one has missed the cache, the
other has its handler's `false` for `Debug` and has not stored it yet. -/
theorem reachable_agree_without_setLogLevel_with_two_lookups :
    ∃ calls, Coherent (setLogLevel (newSlogAdapterWithFormat Heap.empty (some 1) textFormat) 0 infoLevel) 0 ∧
      Reachable (next 0) (init (setLogLevel (newSlogAdapterWithFormat Heap.empty (some 1) textFormat) 0 infoLevel))
        calls ∧
      calls.lookups = [.missed levelInfo, .computed levelDebug false] ∧ calls.setLevels = [] ∧ Agree 0 calls := by
  obtain ⟨calls, reachable, holds⟩ := reachable_of_runSteps (next 0)
    (init (setLogLevel (newSlogAdapterWithFormat Heap.empty (some 1) textFormat) 0 infoLevel))
    [.isEnabledCached levelInfo, .isEnabledCached levelDebug, .lookup 0, .lookup 1, .lookup 1]
    (fun calls => decide (calls.lookups = [.missed levelInfo, .computed levelDebug false] ∧ calls.setLevels = []))
    (by decide)
  obtain ⟨inFlight, none⟩ := of_decide_eq_true holds
  exact ⟨calls, coherent_setLogLevel _ _ _, reachable, inFlight, none,
    reachable_agree_without_setLogLevel (coherent_setLogLevel _ _ _) reachable none⟩

/-! ## A stale answer -/

/-- Every call has returned. -/
def Quiescent (calls : Calls) : Prop :=
  (∀ call ∈ calls.lookups, ∃ enabled, call = .returned enabled) ∧ ∀ call ∈ calls.setLevels, call = .returned

instance : DecidablePred Quiescent := fun calls =>
  inferInstanceAs (Decidable ((∀ call ∈ calls.lookups, ∃ enabled, call = .returned enabled) ∧
    ∀ call ∈ calls.setLevels, call = .returned))

/-- On a new adapter at `Info`: a lookup of `slog.LevelInfo` misses and the handler answers
`true`; then `SetLogLevel(ErrorLevel)` sets the `LevelVar` and clears the cache; then the lookup
stores its `true`. Every call has returned, and the cache answers `true` for `Info`, which the
handler no longer enables. -/
theorem enabledCache_keeps_stale_answer :
    ∃ calls, Reachable (next 0) (init (newSlogAdapterWithFormat Heap.empty (some 1) textFormat)) calls ∧
      Quiescent calls ∧ ¬ Coherent calls.heap 0 := by
  obtain ⟨calls, reachable, holds⟩ := reachable_of_runSteps (next 0)
    (init (newSlogAdapterWithFormat Heap.empty (some 1) textFormat))
    [.isEnabledCached levelInfo, .lookup 0, .lookup 0, .setLogLevel errorLevel, .setLevel 0, .setLevel 0,
      .lookup 0]
    (fun calls => decide (Quiescent calls ∧ loadCached calls.heap 0 levelInfo = some true ∧
      enabledOf calls.heap 0 levelInfo = false)) (by decide)
  obtain ⟨quiescent, cached, disabled⟩ := of_decide_eq_true holds
  exact ⟨calls, reachable, quiescent, fun coherent => nomatch (coherent.loadCached cached).trans disabled⟩

end EnabledCache

end TrojanGo.Slog

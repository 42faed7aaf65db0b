import TrojanGo.Go.Strings

/-!
# The slog adapter

`SlogAdapter` of `log/slogadapter` over a heap of the cells that adapters share: the
`slog.LevelVar` that the handler options point to, and the `FallbackWriter` that handlers
write through. `WithAttrs` and `WithGroup` derive an adapter that shares both cells with its
parent but starts with an empty `enabledCache`.

`isEnabledCached` answers what the handler would answer as long as the adapter's cache agrees
with the shared level (`isEnabledCached_of_coherent`); `SetLogLevel` restores that agreement on
the adapter it is called on, and the lookup keeps it (`coherent_isEnabledCached`). A derived
adapter loses it when its parent changes the level, since `SetLogLevel` clears only the
caller's cache (`derived_adapter_cache_ignores_level_change`).
-/

set_option autoImplicit false

namespace TrojanGo.Slog

/-! ## Levels -/

/-- The `log.LogLevel` values. The `log` package is not under `src/`; its tests fix six values
in `[0, 5]`, in ascending order from `AllLevel` to `OffLevel`. -/
def allLevel : Int := 0
def infoLevel : Int := 1
def warnLevel : Int := 2
def errorLevel : Int := 3
def fatalLevel : Int := 4
def offLevel : Int := 5

/-- The `slog.Level` values the adapter uses: `LevelTrace`, `slog.LevelDebug`,
`slog.LevelInfo`, `slog.LevelWarn`, `slog.LevelError` and `LevelFatal`. -/
def levelTrace : Int := -8
def levelDebug : Int := -4
def levelInfo : Int := 0
def levelWarn : Int := 4
def levelError : Int := 8
def levelFatal : Int := 12

/-- `mapLogLevelToSlog`. -/
def mapLogLevelToSlog (level : Int) : Int :=
  if level = allLevel then levelTrace
  else if level = infoLevel then levelInfo
  else if level = warnLevel then levelWarn
  else if level = errorLevel then levelError
  else if level = fatalLevel then levelFatal
  else if level = offLevel then 100
  else levelInfo

/-- `mapSlogLevelToLogLevel`: the `log.LogLevel` of a `slog.Level`, by the first bound it is
under. -/
def mapSlogLevelToLogLevel (level : Int) : Int :=
  if level ≤ levelTrace then allLevel
  else if level ≤ levelDebug then allLevel
  else if level ≤ levelInfo then infoLevel
  else if level ≤ levelWarn then warnLevel
  else if level ≤ levelError then errorLevel
  else if level ≤ levelFatal then fatalLevel
  else offLevel

/-- The `LogFormat` values `TextFormat`, `JSONFormat` and `ColoredFormat`. -/
def textFormat : Int := 0
def jsonFormat : Int := 1
def coloredFormat : Int := 2

/-! ## The cells and the adapter -/

/-- An `io.Writer`, by identity. -/
abbrev Writer := Nat

/-- `os.Stderr`. -/
def stderr : Writer := 0

/-- An `ErrorHandler`, by identity. -/
abbrev ErrorHandler := Nat

/-- `&DefaultErrorHandler{}`. -/
def defaultErrorHandler : ErrorHandler := 0

/-- A `FallbackWriter`; `none` is a nil writer. -/
structure FallbackWriter where
  primary : Option Writer
  fallback : Option Writer
  errorHandler : ErrorHandler
  deriving DecidableEq, Repr

/-- `NewFallbackWriter`: a nil error handler is the default one, a nil fallback is `os.Stderr`. -/
def newFallbackWriter (primary fallback : Option Writer) (errorHandler : Option ErrorHandler) :
    FallbackWriter :=
  ⟨primary, fallback.getD stderr, errorHandler.getD defaultErrorHandler⟩

/-- The `slog.Handler` an adapter logs through: the `FallbackWriter` cell it writes to and the
format it was made for. Its options hold `Level: s.levelVar`, the level cell of its adapter. -/
structure Handler where
  writer : Nat
  format : Int
  deriving DecidableEq, Repr

/-- A `SlogAdapter`. `levelVar` and `fallbackWriter` point into the heap; `enabledCache` is the
adapter's own `sync.Map`. -/
structure Adapter where
  levelVar : Nat
  handler : Handler
  output : Option Writer
  fallbackWriter : Option Nat
  errorHandler : ErrorHandler
  logLevel : Int
  format : Int
  enabledCache : Int → Option Bool

/-- The `LevelVar` cells, the `FallbackWriter` cells and the adapters of a program. -/
structure Heap where
  levelVars : List Int
  writers : List FallbackWriter
  adapters : List Adapter

def Heap.empty : Heap := ⟨[], [], []⟩

def Heap.setAdapter (h : Heap) (s : Nat) (adapter : Adapter) : Heap :=
  { h with adapters := h.adapters.set s adapter }

/-- The current value of the adapter's `LevelVar`. -/
def Heap.level (h : Heap) (adapter : Adapter) : Int := h.levelVars.getD adapter.levelVar levelInfo

/-- `handler.Enabled(ctx, level)`: the level is at least the value of the shared `LevelVar`. -/
def handlerEnabled (h : Heap) (adapter : Adapter) (level : Int) : Bool := decide (h.level adapter ≤ level)

/-- What `handler.Enabled` answers for adapter `s`. -/
def enabledOf (h : Heap) (s : Nat) (level : Int) : Bool :=
  match h.adapters[s]? with
  | some adapter => handlerEnabled h adapter level
  | none => false

/-! ## The methods -/

/-- `recreateHandler`: a handler for the current format, through the `FallbackWriter` (made
first if there is none), and an empty cache. -/
def recreateHandler (h : Heap) (s : Nat) : Heap :=
  match h.adapters[s]? with
  | none => h
  | some adapter =>
      match adapter.fallbackWriter with
      | some writer =>
          h.setAdapter s { adapter with handler := ⟨writer, adapter.format⟩, enabledCache := fun _ => none }
      | none =>
          let writer := h.writers.length
          let h := { h with
            writers := h.writers ++ [newFallbackWriter adapter.output (some stderr) (some adapter.errorHandler)] }
          h.setAdapter s { adapter with
            handler := ⟨writer, adapter.format⟩, fallbackWriter := some writer, enabledCache := fun _ => none }

/-- `NewSlogAdapterWithErrorHandler`: a new `LevelVar` at `slog.LevelInfo`, a new
`FallbackWriter` to `output` with `os.Stderr` as fallback, and the handler. The new adapter is the
last of the heap. -/
def newSlogAdapterWithErrorHandler (h : Heap) (output : Option Writer) (format : Int)
    (errorHandler : Option ErrorHandler) : Heap :=
  let errorHandler := errorHandler.getD defaultErrorHandler
  let adapter : Adapter :=
    ⟨h.levelVars.length, ⟨h.writers.length, format⟩, output, some h.writers.length, errorHandler,
      infoLevel, format, fun _ => none⟩
  recreateHandler
    ⟨h.levelVars ++ [levelInfo], h.writers ++ [newFallbackWriter output (some stderr) (some errorHandler)],
      h.adapters ++ [adapter]⟩
    h.adapters.length

/-- `NewSlogAdapterWithFormat`: as above, with the default error handler. -/
def newSlogAdapterWithFormat (h : Heap) (output : Option Writer) (format : Int) : Heap :=
  newSlogAdapterWithErrorHandler h output format none

/-- `NewSlogAdapter`. -/
def newSlogAdapter (h : Heap) (output : Option Writer) (useColor : Bool) : Heap :=
  newSlogAdapterWithFormat h output (if useColor then coloredFormat else textFormat)

/-- `isEnabledCached`: the cached answer for the level, or the handler's answer, which is then
stored. -/
def isEnabledCached (h : Heap) (s : Nat) (level : Int) : Bool × Heap :=
  match h.adapters[s]? with
  | none => (false, h)
  | some adapter =>
      match adapter.enabledCache level with
      | some cached => (cached, h)
      | none =>
          let enabled := handlerEnabled h adapter level
          (enabled, h.setAdapter s
            { adapter with enabledCache := Function.update adapter.enabledCache level (some enabled) })

/-- `SetLogLevel`: the level is stored, the shared `LevelVar` is set, and this adapter's cache is
cleared. -/
def setLogLevel (h : Heap) (s : Nat) (level : Int) : Heap :=
  match h.adapters[s]? with
  | none => h
  | some adapter =>
      let h := { h with levelVars := h.levelVars.set adapter.levelVar (mapLogLevelToSlog level) }
      h.setAdapter s { adapter with logLevel := level, enabledCache := fun _ => none }

/-- `SetFormat`. -/
def setFormat (h : Heap) (s : Nat) (format : Int) : Heap :=
  match h.adapters[s]? with
  | none => h
  | some adapter => recreateHandler (h.setAdapter s { adapter with format := format }) s

/-- `SetOutput`: the shared `FallbackWriter` gets `w` as primary (or a new one is made), then the
handler is recreated. -/
def setOutput (h : Heap) (s : Nat) (w : Option Writer) : Heap :=
  match h.adapters[s]? with
  | none => h
  | some adapter =>
      match adapter.fallbackWriter with
      | some writer =>
          let h := { h with writers := h.writers.modify (fun fw => { fw with primary := w }) writer }
          recreateHandler (h.setAdapter s { adapter with output := w }) s
      | none =>
          let writer := h.writers.length
          let h := { h with
            writers := h.writers ++ [newFallbackWriter w (some stderr) (some adapter.errorHandler)] }
          recreateHandler (h.setAdapter s { adapter with output := w, fallbackWriter := some writer }) s

/-- `SetErrorHandler`: with a `FallbackWriter`, a new one is made to the output with `os.Stderr`
as fallback, and the handler is recreated. -/
def setErrorHandler (h : Heap) (s : Nat) (handler : Option ErrorHandler) : Heap :=
  match h.adapters[s]? with
  | none => h
  | some adapter =>
      let handler := handler.getD defaultErrorHandler
      match adapter.fallbackWriter with
      | some _ =>
          let writer := h.writers.length
          let h := { h with
            writers := h.writers ++ [newFallbackWriter adapter.output (some stderr) (some handler)] }
          recreateHandler (h.setAdapter s { adapter with errorHandler := handler, fallbackWriter := some writer }) s
      | none => h.setAdapter s { adapter with errorHandler := handler }

/-- `SetFallbackWriter`: the shared `FallbackWriter` gets `w` as fallback; without one, a new one
is made and the handler is recreated. -/
def setFallbackWriter (h : Heap) (s : Nat) (w : Option Writer) : Heap :=
  match h.adapters[s]? with
  | none => h
  | some adapter =>
      match adapter.fallbackWriter with
      | some writer => { h with writers := h.writers.modify (fun fw => { fw with fallback := w }) writer }
      | none =>
          let writer := h.writers.length
          let h := { h with
            writers := h.writers ++ [newFallbackWriter adapter.output w (some adapter.errorHandler)] }
          recreateHandler (h.setAdapter s { adapter with fallbackWriter := some writer }) s

/-- The adapter `WithAttrs` and `WithGroup` return: the parent's handler with the attributes or
the group added, the parent's `LevelVar`, `FallbackWriter` and settings, and an empty cache. It is
the last of the heap. -/
def derive (h : Heap) (s : Nat) : Heap :=
  match h.adapters[s]? with
  | none => h
  | some adapter => { h with adapters := h.adapters ++ [{ adapter with enabledCache := fun _ => none }] }

/-- `WithAttrs`. -/
def withAttrs (h : Heap) (s : Nat) : Heap := derive h s

/-- `WithGroup`. -/
def withGroup (h : Heap) (s : Nat) : Heap := derive h s

/-- A record the handler gets: its level, its message, and the `FallbackWriter` cell it is
written through. -/
structure Record where
  level : Int
  message : GoString
  writer : Nat
  deriving DecidableEq, Repr

/-- `logger.Log(ctx, level, message)`: `slog.Logger` asks the handler again, and hands it the
record if it is enabled. -/
def loggerLog (h : Heap) (s : Nat) (level : Int) (message : GoString) : Option Record :=
  match h.adapters[s]? with
  | some adapter =>
      if handlerEnabled h adapter level then some ⟨level, message, adapter.handler.writer⟩ else none
  | none => none

/-- `lazyFormat`: the formatted `text` (what `fmt.Sprint` or `fmt.Sprintf` makes of the
arguments) when the level is enabled, the empty string otherwise. -/
def lazyFormat (h : Heap) (s : Nat) (level : Int) (text : GoString) : GoString × Heap :=
  let (enabled, h) := isEnabledCached h s level
  (if enabled then text else [], h)

/-- The body of the level-gated methods: `isEnabledCached`, then `lazyFormat`, then
`logger.Log` unless the message is empty. -/
def gatedLog (level : Int) (h : Heap) (s : Nat) (text : GoString) : Heap × Option Record :=
  let (enabled, h) := isEnabledCached h s level
  if !enabled then (h, none)
  else
    let (message, h) := lazyFormat h s level text
    if message = [] then (h, none) else (h, loggerLog h s level message)

/-- `Error` and `Errorf`. -/
def error (h : Heap) (s : Nat) (text : GoString) : Heap × Option Record := gatedLog levelError h s text
def errorf (h : Heap) (s : Nat) (text : GoString) : Heap × Option Record := gatedLog levelError h s text

/-- `Warn` and `Warnf`. -/
def warn (h : Heap) (s : Nat) (text : GoString) : Heap × Option Record := gatedLog levelWarn h s text
def warnf (h : Heap) (s : Nat) (text : GoString) : Heap × Option Record := gatedLog levelWarn h s text

/-- `Info` and `Infof`. -/
def info (h : Heap) (s : Nat) (text : GoString) : Heap × Option Record := gatedLog levelInfo h s text
def infof (h : Heap) (s : Nat) (text : GoString) : Heap × Option Record := gatedLog levelInfo h s text

/-- `Debug` and `Debugf`. -/
def debug (h : Heap) (s : Nat) (text : GoString) : Heap × Option Record := gatedLog levelDebug h s text
def debugf (h : Heap) (s : Nat) (text : GoString) : Heap × Option Record := gatedLog levelDebug h s text

/-- `Trace` and `Tracef`. -/
def trace (h : Heap) (s : Nat) (text : GoString) : Heap × Option Record := gatedLog levelTrace h s text
def tracef (h : Heap) (s : Nat) (text : GoString) : Heap × Option Record := gatedLog levelTrace h s text

/-- `Fatal` and `Fatalf`: the same gate at `LevelFatal`, after which `os.Exit(1)` ends the
program whether or not anything was logged. -/
def fatal (h : Heap) (s : Nat) (text : GoString) : Heap × Option Record := gatedLog levelFatal h s text
def fatalf (h : Heap) (s : Nat) (text : GoString) : Heap × Option Record := gatedLog levelFatal h s text

/-- `logger.LogAttrs(ctx, level, msg, attrs...)`, the body of the `*With` and `*Ctx` methods: the
gate of `logger.Log`, with neither the adapter's cache nor a test of the message. The attributes
and the context go to the handler with the record. -/
def logAttrs (level : Int) (h : Heap) (s : Nat) (message : GoString) : Option Record :=
  loggerLog h s level message

/-- `InfoWith` and `InfoCtx`. -/
def infoWith (h : Heap) (s : Nat) (message : GoString) : Option Record := logAttrs levelInfo h s message
def infoCtx (h : Heap) (s : Nat) (message : GoString) : Option Record := logAttrs levelInfo h s message

/-- `ErrorWith` and `ErrorCtx`. -/
def errorWith (h : Heap) (s : Nat) (message : GoString) : Option Record := logAttrs levelError h s message
def errorCtx (h : Heap) (s : Nat) (message : GoString) : Option Record := logAttrs levelError h s message

/-- `WarnWith` and `WarnCtx`. -/
def warnWith (h : Heap) (s : Nat) (message : GoString) : Option Record := logAttrs levelWarn h s message
def warnCtx (h : Heap) (s : Nat) (message : GoString) : Option Record := logAttrs levelWarn h s message

/-- `DebugWith` and `DebugCtx`. -/
def debugWith (h : Heap) (s : Nat) (message : GoString) : Option Record := logAttrs levelDebug h s message
def debugCtx (h : Heap) (s : Nat) (message : GoString) : Option Record := logAttrs levelDebug h s message

/-- `TraceWith` and `TraceCtx`. -/
def traceWith (h : Heap) (s : Nat) (message : GoString) : Option Record := logAttrs levelTrace h s message
def traceCtx (h : Heap) (s : Nat) (message : GoString) : Option Record := logAttrs levelTrace h s message

/-- `FatalWith` and `FatalCtx`, after which `os.Exit(1)` ends the program. -/
def fatalWith (h : Heap) (s : Nat) (message : GoString) : Option Record := logAttrs levelFatal h s message
def fatalCtx (h : Heap) (s : Nat) (message : GoString) : Option Record := logAttrs levelFatal h s message

/-! ## The cache and the level -/

/-- Every answer in the cache of adapter `s` is what its handler answers now. -/
def Coherent (h : Heap) (s : Nat) : Prop :=
  ∀ adapter ∈ h.adapters[s]?, ∀ level enabled, adapter.enabledCache level = some enabled →
    enabled = handlerEnabled h adapter level

theorem getElem?_setAdapter (h : Heap) (s t : Nat) (adapter : Adapter) :
    (h.setAdapter s adapter).adapters[t]? = if s = t ∧ s < h.adapters.length then some adapter
      else h.adapters[t]? := by
  simp only [Heap.setAdapter, List.getElem?_set]
  by_cases same : s = t
  · subst same
    by_cases inside : s < h.adapters.length
    · simp [inside]
    · simp [inside, List.getElem?_eq_none (Nat.le_of_not_lt inside)]
  · simp [same]

theorem getElem?_setAdapter_self {h : Heap} {s : Nat} {old : Adapter} (found : h.adapters[s]? = some old)
    (adapter : Adapter) : (h.setAdapter s adapter).adapters[s]? = some adapter := by
  rw [getElem?_setAdapter, if_pos ⟨rfl, (List.getElem?_eq_some_iff.mp found).1⟩]

@[simp]
theorem Heap.setAdapter_setAdapter (h : Heap) (s : Nat) (adapter adapter' : Adapter) :
    (h.setAdapter s adapter).setAdapter s adapter' = h.setAdapter s adapter' := by
  simp [Heap.setAdapter]

/-- On a coherent adapter, the cached answer is the handler's answer. -/
theorem isEnabledCached_of_coherent {h : Heap} {s : Nat} (coherent : Coherent h s) (level : Int) :
    (isEnabledCached h s level).1 = enabledOf h s level := by
  cases found : h.adapters[s]? with
  | none => simp only [isEnabledCached, enabledOf, found]
  | some adapter =>
      simp only [isEnabledCached, enabledOf, found]
      split
      · exact coherent adapter found level _ ‹_›
      · rfl

/-- The lookup stores the handler's answer, so it keeps the adapter coherent. -/
theorem coherent_isEnabledCached {h : Heap} {s : Nat} (coherent : Coherent h s) (level : Int) :
    Coherent (isEnabledCached h s level).2 s := by
  cases found : h.adapters[s]? with
  | none => simpa only [isEnabledCached, found] using coherent
  | some adapter =>
      cases cachedAt : adapter.enabledCache level with
      | some cached => simpa only [isEnabledCached, found, cachedAt] using coherent
      | none =>
          simp only [isEnabledCached, found, cachedAt]
          intro adapter' found' level' enabled stored
          rw [getElem?_setAdapter_self found, Option.mem_some_iff] at found'
          subst found'
          simp only [Function.update_apply] at stored
          split_ifs at stored with same
          · cases stored
            subst same
            rfl
          · exact coherent adapter found level' enabled stored

/-- `SetLogLevel` leaves the adapter it is called on coherent. -/
theorem coherent_setLogLevel (h : Heap) (s : Nat) (level : Int) : Coherent (setLogLevel h s level) s := by
  cases found : h.adapters[s]? with
  | none =>
      intro adapter found'
      simp only [setLogLevel, found, Option.mem_def] at found'
      cases found'
  | some adapter =>
      intro adapter' found' level' enabled cached
      simp only [setLogLevel, found] at found'
      rw [getElem?_setAdapter_self
        (h := { h with levelVars := h.levelVars.set adapter.levelVar (mapLogLevelToSlog level) }) found,
        Option.mem_some_iff] at found'
      subst found'
      cases cached

/-- A parent and the adapter `WithAttrs` derives from it share the `LevelVar`. After the derived
adapter logs at `Info`, the parent's `SetLogLevel(ErrorLevel)` clears only the parent's cache, and
the derived adapter still answers `true` for `Info`, which its handler no longer enables.
Conversely, after the derived adapter cached `false` under `ErrorLevel`, the parent's
`SetLogLevel(AllLevel)` enables `Info`, and the derived adapter's `Info` still logs nothing. -/
theorem derived_adapter_cache_ignores_level_change :
    (isEnabledCached
        (setLogLevel (info (withAttrs (newSlogAdapterWithFormat Heap.empty (some 1) textFormat) 0) 1
          "x".toList).1 0 errorLevel) 1 levelInfo).1 = true ∧
      enabledOf
        (setLogLevel (info (withAttrs (newSlogAdapterWithFormat Heap.empty (some 1) textFormat) 0) 1
          "x".toList).1 0 errorLevel) 1 levelInfo = false ∧
      (info
        (setLogLevel (info (withAttrs (setLogLevel (newSlogAdapterWithFormat Heap.empty (some 1) textFormat)
          0 errorLevel) 0) 1 "x".toList).1 0 allLevel) 1 "x".toList).2 = none ∧
      enabledOf
        (setLogLevel (info (withAttrs (setLogLevel (newSlogAdapterWithFormat Heap.empty (some 1) textFormat)
          0 errorLevel) 0) 1 "x".toList).1 0 allLevel) 1 levelInfo = true := by
  decide

end TrojanGo.Slog

import TrojanGo.Log.EnabledCache
import TrojanGo.Log.Writers

/-!
# The two loggers of `log.Logger`

`SimpleLogger` of `log/simplelog`, which the `log` package registers at start, and the slog
adapter are the two implementations of the `log.Logger` interface. `SimpleLogger` prints when its
level is at most the method's threshold; the adapter asks its cache, then its handler, whether the
`slog.Level` of the method is at least the one its `LevelVar` holds.

The two format a call differently. `SimpleLogger` hands the standard `log` package `fmt.Sprintln`
of the operands (`golog.Println`), `fmt.Sprint` for `Fatal` (`golog.Fatal`), and `fmt.Sprintf` for
the `f` methods; the adapter's `lazyFormat` makes `fmt.Sprint` of the operands when the format is
empty, as it is for the plain methods, and `fmt.Sprintf` otherwise. So `Info("a", "b")` prints
`a b` and a newline through the one and logs `ab` through the other.

Calls of the interface on one adapter, with the adapter's own setters between them, emit a record,
with the adapter's own formatting of the call, exactly when a `SimpleLogger` given the same calls
prints, except that a level-gated method of the adapter drops an empty message (`Tracks.run`): as
long as every `SetLogLevel` gets one of the six `log.LogLevel` values, each call keeps the
adapter's cache right and its `LevelVar` at the `slog` image of the simple logger's level
(`Tracks.call`). A new adapter starts at `InfoLevel`, where the registered `SimpleLogger{}` starts
at `AllLevel`. Outside the six values the two part: the adapter falls back to `slog.LevelInfo`, the
simple logger compares the number itself.
-/

set_option autoImplicit false

namespace TrojanGo.Slog

open Fmt

/-- `fmt.Sprintf`, whose verbs are not modelled: the loggers call it with the format and the
operands of an `f` method. -/
abbrev Sprintf := GoString → List Operand → GoString

/-! ## `SimpleLogger` -/

/-- A `SimpleLogger`: the `log.LogLevel` of its last `SetLogLevel`. -/
structure SimpleLogger where
  logLevel : Int
  deriving DecidableEq, Repr

/-- `&SimpleLogger{}`, which `init` registers: level 0, `AllLevel`. -/
def SimpleLogger.registered : SimpleLogger := ⟨allLevel⟩

/-- `SetLogLevel`. -/
def SimpleLogger.setLogLevel (_l : SimpleLogger) (level : Int) : SimpleLogger := ⟨level⟩

/-- `SetOutput`, which does nothing. -/
def SimpleLogger.setOutput (l : SimpleLogger) (_w : Option Writer) : SimpleLogger := l

/-- The body of every printing method: the text goes to the standard `log` package, which adds its
header and a final newline, when the logger's level is at most the method's threshold. -/
def SimpleLogger.printAt (l : SimpleLogger) (threshold : Int) (text : GoString) : Option GoString :=
  if l.logLevel ≤ threshold then some text else none

/-- `Fatal`, through `golog.Fatal`, which formats as `fmt.Sprint`; `os.Exit(1)` then ends the
program. -/
def SimpleLogger.fatal (l : SimpleLogger) (v : List Operand) : Option GoString := l.printAt fatalLevel (sprint v)

/-- `Fatalf`, through `golog.Fatalf`; `os.Exit(1)` then ends the program. -/
def SimpleLogger.fatalf (sprintf : Sprintf) (l : SimpleLogger) (format : GoString) (v : List Operand) :
    Option GoString :=
  l.printAt fatalLevel (sprintf format v)

/-- `Error` and `Errorf`, through `golog.Println` and `golog.Printf`. -/
def SimpleLogger.error (l : SimpleLogger) (v : List Operand) : Option GoString := l.printAt errorLevel (sprintln v)
def SimpleLogger.errorf (sprintf : Sprintf) (l : SimpleLogger) (format : GoString) (v : List Operand) :
    Option GoString :=
  l.printAt errorLevel (sprintf format v)

/-- `Warn` and `Warnf`. -/
def SimpleLogger.warn (l : SimpleLogger) (v : List Operand) : Option GoString := l.printAt warnLevel (sprintln v)
def SimpleLogger.warnf (sprintf : Sprintf) (l : SimpleLogger) (format : GoString) (v : List Operand) :
    Option GoString :=
  l.printAt warnLevel (sprintf format v)

/-- `Info` and `Infof`. -/
def SimpleLogger.info (l : SimpleLogger) (v : List Operand) : Option GoString := l.printAt infoLevel (sprintln v)
def SimpleLogger.infof (sprintf : Sprintf) (l : SimpleLogger) (format : GoString) (v : List Operand) :
    Option GoString :=
  l.printAt infoLevel (sprintf format v)

/-- `Debug` and `Debugf`. -/
def SimpleLogger.debug (l : SimpleLogger) (v : List Operand) : Option GoString := l.printAt allLevel (sprintln v)
def SimpleLogger.debugf (sprintf : Sprintf) (l : SimpleLogger) (format : GoString) (v : List Operand) :
    Option GoString :=
  l.printAt allLevel (sprintf format v)

/-- `Trace` and `Tracef`. -/
def SimpleLogger.trace (l : SimpleLogger) (v : List Operand) : Option GoString := l.printAt allLevel (sprintln v)
def SimpleLogger.tracef (sprintf : Sprintf) (l : SimpleLogger) (format : GoString) (v : List Operand) :
    Option GoString :=
  l.printAt allLevel (sprintf format v)

/-- `InfoWith` and `InfoCtx`, which print `golog.Println(msg)` and drop the attributes. -/
def SimpleLogger.infoWith (l : SimpleLogger) (msg : GoString) : Option GoString :=
  l.printAt infoLevel (sprintln [.string msg])
def SimpleLogger.infoCtx (l : SimpleLogger) (msg : GoString) : Option GoString :=
  l.printAt infoLevel (sprintln [.string msg])

/-- `ErrorWith` and `ErrorCtx`. -/
def SimpleLogger.errorWith (l : SimpleLogger) (msg : GoString) : Option GoString :=
  l.printAt errorLevel (sprintln [.string msg])
def SimpleLogger.errorCtx (l : SimpleLogger) (msg : GoString) : Option GoString :=
  l.printAt errorLevel (sprintln [.string msg])

/-- `WarnWith` and `WarnCtx`. -/
def SimpleLogger.warnWith (l : SimpleLogger) (msg : GoString) : Option GoString :=
  l.printAt warnLevel (sprintln [.string msg])
def SimpleLogger.warnCtx (l : SimpleLogger) (msg : GoString) : Option GoString :=
  l.printAt warnLevel (sprintln [.string msg])

/-- `DebugWith` and `DebugCtx`. -/
def SimpleLogger.debugWith (l : SimpleLogger) (msg : GoString) : Option GoString :=
  l.printAt allLevel (sprintln [.string msg])
def SimpleLogger.debugCtx (l : SimpleLogger) (msg : GoString) : Option GoString :=
  l.printAt allLevel (sprintln [.string msg])

/-- `TraceWith` and `TraceCtx`. -/
def SimpleLogger.traceWith (l : SimpleLogger) (msg : GoString) : Option GoString :=
  l.printAt allLevel (sprintln [.string msg])
def SimpleLogger.traceCtx (l : SimpleLogger) (msg : GoString) : Option GoString :=
  l.printAt allLevel (sprintln [.string msg])

/-- `FatalWith` and `FatalCtx`, after which `os.Exit(1)` ends the program. -/
def SimpleLogger.fatalWith (l : SimpleLogger) (msg : GoString) : Option GoString :=
  l.printAt fatalLevel (sprintln [.string msg])
def SimpleLogger.fatalCtx (l : SimpleLogger) (msg : GoString) : Option GoString :=
  l.printAt fatalLevel (sprintln [.string msg])

/-! ## Calls of the interface -/

/-- The severities of the printing methods of `log.Logger`. -/
inductive Severity
  | fatal
  | error
  | warn
  | info
  | debug
  | trace
  deriving DecidableEq, Repr

/-- The `log.LogLevel` up to which `SimpleLogger` prints a severity. -/
def Severity.threshold : Severity → Int
  | .fatal => fatalLevel
  | .error => errorLevel
  | .warn => warnLevel
  | .info => infoLevel
  | .debug => allLevel
  | .trace => allLevel

/-- The `slog.Level` the adapter logs a severity at. -/
def Severity.slogLevel : Severity → Int
  | .fatal => levelFatal
  | .error => levelError
  | .warn => levelWarn
  | .info => levelInfo
  | .debug => levelDebug
  | .trace => levelTrace

/-- A call on a logger: `SetLogLevel`; a level-gated method with its operands (`Error`), or with a
format and its operands (`Errorf`); a structured one (`ErrorWith`, or `ErrorCtx` when
`withContext`); or a setter of the writer, `SetOutput` of the interface, which `SimpleLogger`
ignores, or one of the adapter's own, which `SimpleLogger` does not have. -/
inductive Call
  | setLogLevel (level : Int)
  | print (severity : Severity) (v : List Operand)
  | printf (severity : Severity) (format : GoString) (v : List Operand)
  | printAttrs (severity : Severity) (withContext : Bool) (msg : GoString)
  | configure (setter : Setter)

/-- A call on a `SimpleLogger`: the logger after it, and what it printed. -/
def SimpleLogger.call (sprintf : Sprintf) (l : SimpleLogger) : Call → SimpleLogger × Option GoString
  | .setLogLevel level => (l.setLogLevel level, none)
  | .print .fatal v => (l, l.fatal v)
  | .printf .fatal format v => (l, l.fatalf sprintf format v)
  | .print .error v => (l, l.error v)
  | .printf .error format v => (l, l.errorf sprintf format v)
  | .print .warn v => (l, l.warn v)
  | .printf .warn format v => (l, l.warnf sprintf format v)
  | .print .info v => (l, l.info v)
  | .printf .info format v => (l, l.infof sprintf format v)
  | .print .debug v => (l, l.debug v)
  | .printf .debug format v => (l, l.debugf sprintf format v)
  | .print .trace v => (l, l.trace v)
  | .printf .trace format v => (l, l.tracef sprintf format v)
  | .printAttrs .fatal false msg => (l, l.fatalWith msg)
  | .printAttrs .fatal true msg => (l, l.fatalCtx msg)
  | .printAttrs .error false msg => (l, l.errorWith msg)
  | .printAttrs .error true msg => (l, l.errorCtx msg)
  | .printAttrs .warn false msg => (l, l.warnWith msg)
  | .printAttrs .warn true msg => (l, l.warnCtx msg)
  | .printAttrs .info false msg => (l, l.infoWith msg)
  | .printAttrs .info true msg => (l, l.infoCtx msg)
  | .printAttrs .debug false msg => (l, l.debugWith msg)
  | .printAttrs .debug true msg => (l, l.debugCtx msg)
  | .printAttrs .trace false msg => (l, l.traceWith msg)
  | .printAttrs .trace true msg => (l, l.traceCtx msg)
  | .configure (.output w) => (l.setOutput w, none)
  | .configure _ => (l, none)

/-- What `lazyFormat` makes of a call's operands once the level is enabled: `fmt.Sprint` for an
empty format, which the plain methods pass, and `fmt.Sprintf` otherwise. -/
def formatMessage (sprintf : Sprintf) (format : GoString) (v : List Operand) : GoString :=
  if format = [] then sprint v else sprintf format v

/-- A call on adapter `s`: the heap after it, and the record it emitted. -/
def adapterCall (sprintf : Sprintf) (s : Nat) (h : Heap) : Call → Heap × Option Record
  | .setLogLevel level => (setLogLevel h s level, none)
  | .print .fatal v => fatal h s (formatMessage sprintf [] v)
  | .printf .fatal format v => fatalf h s (formatMessage sprintf format v)
  | .print .error v => error h s (formatMessage sprintf [] v)
  | .printf .error format v => errorf h s (formatMessage sprintf format v)
  | .print .warn v => warn h s (formatMessage sprintf [] v)
  | .printf .warn format v => warnf h s (formatMessage sprintf format v)
  | .print .info v => info h s (formatMessage sprintf [] v)
  | .printf .info format v => infof h s (formatMessage sprintf format v)
  | .print .debug v => debug h s (formatMessage sprintf [] v)
  | .printf .debug format v => debugf h s (formatMessage sprintf format v)
  | .print .trace v => trace h s (formatMessage sprintf [] v)
  | .printf .trace format v => tracef h s (formatMessage sprintf format v)
  | .printAttrs .fatal false msg => (h, fatalWith h s msg)
  | .printAttrs .fatal true msg => (h, fatalCtx h s msg)
  | .printAttrs .error false msg => (h, errorWith h s msg)
  | .printAttrs .error true msg => (h, errorCtx h s msg)
  | .printAttrs .warn false msg => (h, warnWith h s msg)
  | .printAttrs .warn true msg => (h, warnCtx h s msg)
  | .printAttrs .info false msg => (h, infoWith h s msg)
  | .printAttrs .info true msg => (h, infoCtx h s msg)
  | .printAttrs .debug false msg => (h, debugWith h s msg)
  | .printAttrs .debug true msg => (h, debugCtx h s msg)
  | .printAttrs .trace false msg => (h, traceWith h s msg)
  | .printAttrs .trace true msg => (h, traceCtx h s msg)
  | .configure setter => (Setter.apply s h setter, none)

/-- Calls on a `SimpleLogger`, in order: the last logger, and what each call printed. -/
def SimpleLogger.run (sprintf : Sprintf) (l : SimpleLogger) : List Call → SimpleLogger × List (Option GoString)
  | [] => (l, [])
  | call :: calls =>
      let (l', printed) := l.call sprintf call
      let (l'', rest) := l'.run sprintf calls
      (l'', printed :: rest)

/-- Calls on adapter `s`, in order: the last heap, and the record of each call. -/
def adapterRun (sprintf : Sprintf) (s : Nat) (h : Heap) : List Call → Heap × List (Option Record)
  | [] => (h, [])
  | call :: calls =>
      let (h', record) := adapterCall sprintf s h call
      let (h'', rest) := adapterRun sprintf s h' calls
      (h'', record :: rest)

/-- The message of the record the adapter is to emit for a call after which `SimpleLogger` printed
`printed`: none when it printed nothing, and otherwise the adapter's own formatting of the call,
less an empty message of a level-gated method, which `gatedLog` drops. -/
def Call.expected (sprintf : Sprintf) : Call → Option GoString → Option GoString
  | .print _ v, printed => printed.bind fun _ => (some (formatMessage sprintf [] v)).filter (!·.isEmpty)
  | .printf _ format v, printed => printed.bind fun _ => (some (formatMessage sprintf format v)).filter (!·.isEmpty)
  | .printAttrs _ _ msg, printed => printed.map fun _ => msg
  | _, printed => printed

/-! ## Each method at its severity -/

section Methods

variable (sprintf : Sprintf)

theorem SimpleLogger.call_print (l : SimpleLogger) (severity : Severity) (v : List Operand) :
    ∃ text, l.call sprintf (.print severity v) = (l, l.printAt severity.threshold text) := by
  cases severity <;> exact ⟨_, rfl⟩

theorem SimpleLogger.call_printf (l : SimpleLogger) (severity : Severity) (format : GoString) (v : List Operand) :
    l.call sprintf (.printf severity format v) = (l, l.printAt severity.threshold (sprintf format v)) := by
  cases severity <;> rfl

theorem SimpleLogger.call_printAttrs (l : SimpleLogger) (severity : Severity) (withContext : Bool) (msg : GoString) :
    l.call sprintf (.printAttrs severity withContext msg) = (l, l.printAt severity.threshold (sprintln [.string msg])) := by
  cases severity <;> cases withContext <;> rfl

theorem adapterCall_print (s : Nat) (h : Heap) (severity : Severity) (v : List Operand) :
    adapterCall sprintf s h (.print severity v) = gatedLog severity.slogLevel h s (formatMessage sprintf [] v) := by
  cases severity <;> rfl

theorem adapterCall_printf (s : Nat) (h : Heap) (severity : Severity) (format : GoString) (v : List Operand) :
    adapterCall sprintf s h (.printf severity format v) =
      gatedLog severity.slogLevel h s (formatMessage sprintf format v) := by
  cases severity <;> rfl

theorem adapterCall_printAttrs (s : Nat) (h : Heap) (severity : Severity) (withContext : Bool) (msg : GoString) :
    adapterCall sprintf s h (.printAttrs severity withContext msg) = (h, loggerLog h s severity.slogLevel msg) := by
  cases severity <;> cases withContext <;> rfl

end Methods

/-- For each of the six `log.LogLevel` values, the `slog` image of the level is at most the
`slog.Level` of a severity exactly when the level is at most the severity's threshold. -/
theorem mapLogLevelToSlog_le_iff {level : Int} (inRange : allLevel ≤ level ∧ level ≤ offLevel)
    (severity : Severity) : mapLogLevelToSlog level ≤ severity.slogLevel ↔ level ≤ severity.threshold := by
  obtain rfl | rfl | rfl | rfl | rfl | rfl : level = 0 ∨ level = 1 ∨ level = 2 ∨ level = 3 ∨ level = 4 ∨ level = 5 := by
    unfold allLevel offLevel at inRange
    omega
  all_goals cases severity <;> decide

/-! ## What the calls keep -/

/-- `h'` has the `LevelVar` cells of `h`, and adapter `s` the same cell among them. -/
def SameLevel (h h' : Heap) (s : Nat) : Prop :=
  h'.levelVars = h.levelVars ∧ h'.adapters[s]?.map Adapter.levelVar = h.adapters[s]?.map Adapter.levelVar

section Frame

variable {h h' h'' : Heap} {s : Nat}

theorem SameLevel.refl (h : Heap) (s : Nat) : SameLevel h h s := ⟨rfl, rfl⟩

theorem SameLevel.trans (first : SameLevel h h' s) (second : SameLevel h' h'' s) : SameLevel h h'' s :=
  ⟨second.1.trans first.1, second.2.trans first.2⟩

theorem SameLevel.enabledOf (same : SameLevel h h' s) (level : Int) : enabledOf h' s level = enabledOf h s level :=
  enabledOf_congr same.1 same.2 level

theorem sameLevel_setAdapter {adapter adapter' : Adapter} (found : h.adapters[s]? = some adapter)
    (levelVar : adapter'.levelVar = adapter.levelVar) : SameLevel h (h.setAdapter s adapter') s :=
  ⟨rfl, by rw [getElem?_setAdapter_self found, found]; simp [levelVar]⟩

theorem sameLevel_writers (writers : List FallbackWriter) : SameLevel h { h with writers := writers } s :=
  SameLevel.refl h s

/-- An adapter whose cache and cell are kept stays coherent. -/
theorem Coherent.setAdapter {adapter adapter' : Adapter} (coherent : Coherent h s)
    (found : h.adapters[s]? = some adapter) (levelVar : adapter'.levelVar = adapter.levelVar)
    (cache : adapter'.enabledCache = adapter.enabledCache) : Coherent (h.setAdapter s adapter') s := by
  intro adapter'' found' level enabled cached
  rw [getElem?_setAdapter_self found, Option.mem_some_iff] at found'
  subst found'
  rw [cache] at cached
  simpa [handlerEnabled, Heap.level, levelVar] using coherent adapter found level enabled cached

theorem recreateHandler_sameLevel (h : Heap) (s : Nat) : SameLevel h (recreateHandler h s) s := by
  cases found : h.adapters[s]? with
  | none => simpa only [recreateHandler, found] using SameLevel.refl h s
  | some adapter =>
      cases writer : adapter.fallbackWriter with
      | none =>
          simp only [recreateHandler, found, writer]
          exact sameLevel_setAdapter (h := { h with writers := _ }) found rfl
      | some w =>
          simp only [recreateHandler, found, writer]
          exact sameLevel_setAdapter found rfl

/-- `recreateHandler` empties the cache. -/
theorem coherent_recreateHandler (h : Heap) (s : Nat) : Coherent (recreateHandler h s) s := by
  intro adapter' found' level enabled cached
  cases found : h.adapters[s]? with
  | none => simp [recreateHandler, found] at found'
  | some adapter =>
      have inside : s < h.adapters.length := (List.getElem?_eq_some_iff.mp found).1
      cases writer : adapter.fallbackWriter <;>
        simp only [recreateHandler, found, writer, getElem?_setAdapter, inside, and_self, if_true,
          Option.mem_def, Option.some.injEq] at found' <;>
        subst found' <;> cases cached

/-- A setter that changes the writers and the adapter's other fields, then recreates the handler. -/
theorem sameLevel_recreateHandler {adapter adapter' : Adapter} (found : h.adapters[s]? = some adapter)
    (levelVar : adapter'.levelVar = adapter.levelVar) (writers : List FallbackWriter) :
    SameLevel h (recreateHandler ({ h with writers := writers }.setAdapter s adapter') s) s :=
  (sameLevel_setAdapter (h := { h with writers := writers }) found levelVar).trans (recreateHandler_sameLevel _ s)

/-- Every setter keeps the levels of the adapter and leaves its cache right. -/
theorem Setter.apply_sameLevel (coherent : Coherent h s) (call : Setter) :
    SameLevel h (Setter.apply s h call) s ∧ Coherent (Setter.apply s h call) s := by
  cases found : h.adapters[s]? with
  | none =>
      cases call <;> simp only [Setter.apply, setOutput, setFallbackWriter, setErrorHandler, setFormat, found] <;>
        exact ⟨SameLevel.refl h s, coherent⟩
  | some adapter =>
      cases call with
      | output w =>
          simp only [Setter.apply, setOutput, found]
          split <;> exact ⟨sameLevel_recreateHandler found (by rfl) _, coherent_recreateHandler _ s⟩
      | fallbackWriter w =>
          simp only [Setter.apply, setFallbackWriter, found]
          split
          · exact ⟨sameLevel_writers _, coherent⟩
          · exact ⟨sameLevel_recreateHandler found (by rfl) _, coherent_recreateHandler _ s⟩
      | errorHandler handler =>
          simp only [Setter.apply, setErrorHandler, found]
          split
          · exact ⟨sameLevel_recreateHandler found (by rfl) _, coherent_recreateHandler _ s⟩
          · exact ⟨sameLevel_setAdapter found (by rfl), coherent.setAdapter found (by rfl) (by rfl)⟩
      | format value =>
          simp only [Setter.apply, setFormat, found]
          exact ⟨sameLevel_recreateHandler found (by rfl) h.writers, coherent_recreateHandler _ s⟩

theorem isEnabledCached_sameLevel (h : Heap) (s : Nat) (level : Int) :
    SameLevel h (isEnabledCached h s level).2 s := by
  rw [isEnabledCached_eq_steps]
  split
  · exact SameLevel.refl h s
  · exact ⟨storeEnabled_levelVars .., by simp [getElem?_storeEnabled, Option.map_map, Function.comp_def]⟩

end Frame

/-! ## The records of the adapter -/

/-- `logger.Log` hands the handler a record with the message exactly when the handler enables the
level. -/
theorem loggerLog_message (h : Heap) (s : Nat) (level : Int) (message : GoString) :
    (loggerLog h s level message).map Record.message = if enabledOf h s level then some message else none := by
  unfold loggerLog enabledOf
  split
  · split <;> simp_all
  · rfl

/-- On a coherent adapter, a level-gated method emits its text when the handler enables the level
and the text is not empty, and leaves the adapter coherent with its levels. -/
theorem gatedLog_of_coherent {h : Heap} {s : Nat} (coherent : Coherent h s) (level : Int) (text : GoString) :
    SameLevel h (gatedLog level h s text).1 s ∧ Coherent (gatedLog level h s text).1 s ∧
      (gatedLog level h s text).2.map Record.message =
        if enabledOf h s level then (some text).filter (fun message => !message.isEmpty) else none := by
  have first := isEnabledCached_of_coherent coherent level
  have firstSame := isEnabledCached_sameLevel h s level
  have firstCoherent := coherent_isEnabledCached coherent level
  unfold gatedLog lazyFormat
  generalize isEnabledCached h s level = lookup at first firstSame firstCoherent ⊢
  obtain ⟨enabled, h₁⟩ := lookup
  dsimp only at first firstSame firstCoherent ⊢
  subst first
  cases enabledAt : enabledOf h s level
  · simp [firstSame, firstCoherent]
  · have second := isEnabledCached_of_coherent firstCoherent level
    rw [firstSame.enabledOf, enabledAt] at second
    have secondSame := firstSame.trans (isEnabledCached_sameLevel h₁ s level)
    have secondCoherent := coherent_isEnabledCached firstCoherent level
    generalize isEnabledCached h₁ s level = lookup at second secondSame secondCoherent ⊢
    obtain ⟨enabled, h₂⟩ := lookup
    dsimp only at second secondSame secondCoherent ⊢
    subst second
    have enabledAfter : enabledOf h₂ s level = true := by rw [secondSame.enabledOf, enabledAt]
    cases text with
    | nil => simp [secondSame, secondCoherent, Option.filter]
    | cons c rest => simp [secondSame, secondCoherent, loggerLog_message, enabledAfter, Option.filter]

/-! ## The adapter tracks the simple logger -/

/-- Adapter `s` gates as `SimpleLogger` `l`: its cache holds the handler's answers, its `LevelVar`
is a cell of the heap that holds the `slog` image of `l`'s level, and that level is one of the six
`log.LogLevel` values. -/
structure Tracks (h : Heap) (s : Nat) (l : SimpleLogger) : Prop where
  coherent : Coherent h s
  cell : ∃ adapter ∈ h.adapters[s]?, adapter.levelVar < h.levelVars.length ∧
    h.level adapter = mapLogLevelToSlog l.logLevel
  inRange : allLevel ≤ l.logLevel ∧ l.logLevel ≤ offLevel

section Tracks

variable {h : Heap} {s : Nat} {l : SimpleLogger}

/-- The handler of a tracking adapter enables a severity exactly when `SimpleLogger` prints it. -/
theorem Tracks.enabledOf (tracks : Tracks h s l) (severity : Severity) :
    enabledOf h s severity.slogLevel = decide (l.logLevel ≤ severity.threshold) := by
  obtain ⟨adapter, found, -, level⟩ := tracks.cell
  rw [Option.mem_def] at found
  simp only [Slog.enabledOf, found, handlerEnabled, level, mapLogLevelToSlog_le_iff tracks.inRange]

theorem Tracks.congr {h' : Heap} (tracks : Tracks h s l) (same : SameLevel h h' s) (coherent : Coherent h' s) :
    Tracks h' s l := by
  obtain ⟨adapter, found, inside, level⟩ := tracks.cell
  rw [Option.mem_def] at found
  have cell := same.2
  rw [found] at cell
  obtain ⟨adapter', found', levelVar⟩ := Option.map_eq_some'.mp cell
  refine ⟨coherent, ⟨adapter', found', ?_, ?_⟩, tracks.inRange⟩ <;> simp only [Heap.level, same.1, levelVar] at inside level ⊢
  · exact inside
  · exact level

theorem setLogLevel_levelVars {adapter : Adapter} (found : h.adapters[s]? = some adapter) (level : Int) :
    (Slog.setLogLevel h s level).levelVars = h.levelVars.set adapter.levelVar (mapLogLevelToSlog level) := by
  simp [Slog.setLogLevel, found, Heap.setAdapter]

/-- `SetLogLevel` to one of the six values: the adapter tracks the simple logger at that level. -/
theorem Tracks.setLogLevel (tracks : Tracks h s l) {level : Int} (inRange : allLevel ≤ level ∧ level ≤ offLevel) :
    Tracks (Slog.setLogLevel h s level) s (l.setLogLevel level) := by
  obtain ⟨adapter, found, inside, -⟩ := tracks.cell
  rw [Option.mem_def] at found
  refine ⟨coherent_setLogLevel h s level, ⟨{ adapter with logLevel := level, enabledCache := fun _ => none }, ?_, ?_, ?_⟩,
    inRange⟩
  · simp only [Slog.setLogLevel, found]
    exact getElem?_setAdapter_self (h := { h with levelVars := _ }) found _
  · simpa [setLogLevel_levelVars found] using inside
  · simp [Heap.level, setLogLevel_levelVars found, inside, SimpleLogger.setLogLevel]

/-- A level-gated method on a tracking adapter keeps it tracking, and emits its text, unless empty,
exactly when the simple logger prints at the method's threshold, whatever the simple logger's own
text. -/
theorem Tracks.gatedLog (tracks : Tracks h s l) (severity : Severity) (text printed : GoString) :
    Tracks (Slog.gatedLog severity.slogLevel h s text).1 s l ∧
      (Slog.gatedLog severity.slogLevel h s text).2.map Record.message =
        (l.printAt severity.threshold printed).bind fun _ => (some text).filter (!·.isEmpty) := by
  obtain ⟨same, coherent, emitted⟩ := gatedLog_of_coherent tracks.coherent severity.slogLevel text
  refine ⟨tracks.congr same coherent, ?_⟩
  rw [emitted, tracks.enabledOf, SimpleLogger.printAt]
  by_cases shown : l.logLevel ≤ severity.threshold <;> simp [shown]

/-- One call with a level, if any, among the six values: the adapter keeps tracking the simple
logger, and emits a record when the simple logger prints, with the adapter's own formatting of the
call, less an empty message of a level-gated method. -/
theorem Tracks.call (sprintf : Sprintf) (tracks : Tracks h s l) (call : Call)
    (inRange : ∀ level, call = .setLogLevel level → allLevel ≤ level ∧ level ≤ offLevel) :
    Tracks (adapterCall sprintf s h call).1 s (l.call sprintf call).1 ∧
      (adapterCall sprintf s h call).2.map Record.message = call.expected sprintf (l.call sprintf call).2 := by
  cases call with
  | setLogLevel level => exact ⟨tracks.setLogLevel (inRange level rfl), rfl⟩
  | print severity v =>
      obtain ⟨text, called⟩ := SimpleLogger.call_print sprintf l severity v
      rw [adapterCall_print, called]
      exact tracks.gatedLog severity _ text
  | printf severity format v =>
      rw [adapterCall_printf, SimpleLogger.call_printf]
      exact tracks.gatedLog severity _ _
  | printAttrs severity withContext msg =>
      rw [adapterCall_printAttrs, SimpleLogger.call_printAttrs]
      refine ⟨tracks, ?_⟩
      rw [loggerLog_message, tracks.enabledOf, SimpleLogger.printAt]
      by_cases shown : l.logLevel ≤ severity.threshold <;> simp [shown, Call.expected]
  | configure setter =>
      obtain ⟨same, coherent⟩ := Setter.apply_sameLevel tracks.coherent setter
      have kept : (l.call sprintf (.configure setter)).1 = l := by cases setter <;> rfl
      have silent : (l.call sprintf (.configure setter)).2 = none := by cases setter <;> rfl
      rw [kept, silent]
      exact ⟨tracks.congr same coherent, rfl⟩

/-- Over any calls whose levels are among the six values, the adapter emits, call by call, a record
exactly when the simple logger prints, with its own formatting of the call, less the empty
messages of level-gated methods. -/
theorem Tracks.run (sprintf : Sprintf) (tracks : Tracks h s l) (calls : List Call)
    (inRange : ∀ level, Call.setLogLevel level ∈ calls → allLevel ≤ level ∧ level ≤ offLevel) :
    (adapterRun sprintf s h calls).2.map (Option.map Record.message) =
      List.zipWith (Call.expected sprintf) calls (l.run sprintf calls).2 := by
  induction calls generalizing h l with
  | nil => rfl
  | cons call rest ih =>
      obtain ⟨tracked, emitted⟩ :=
        tracks.call sprintf call fun level equal => inRange level (equal ▸ List.mem_cons_self _ _)
      simp only [adapterRun, SimpleLogger.run, List.map_cons, List.zipWith_cons_cons, emitted,
        ih tracked fun level member => inRange level (List.mem_cons_of_mem _ member)]

end Tracks

/- Outside the six values the two loggers part: after `SetLogLevel(6)` the adapter, back at
`slog.LevelInfo`, logs an `Info` that the simple logger drops. -/
example :
    (adapterRun (fun _ _ => []) 0 (newSlogAdapterWithErrorHandler Heap.empty (some 1) textFormat none)
        [.setLogLevel 6, .print .info [.string "x".toList]]).2.map (Option.map Record.message) =
      [none, some "x".toList] ∧
      (SimpleLogger.run (fun _ _ => []) ⟨infoLevel⟩ [.setLogLevel 6, .print .info [.string "x".toList]]).2 =
        [none, none] := by
  decide

end TrojanGo.Slog

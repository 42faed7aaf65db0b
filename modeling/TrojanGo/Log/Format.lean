import TrojanGo.Log.SlogAdapter

/-!
# The log formats and the colored text handler

`LogFormat.String` and `ParseLogFormat`, the `ColoredTextHandler` that `recreateHandler` makes for
`ColoredFormat`, and `logLevelFromConfig`, the level of the default `slog` handler that
`NewProxyFromConfigData` installs. `recreateHandler` hands `NewColoredTextHandler` the adapter's
`FallbackWriter`, which has no `Fd` method, so the colored format always ends in slog's plain text
handler; and `logLevelFromConfig` maps the config's levels 0 and 4 to other `slog` levels than the
adapter's `mapLogLevelToSlog` does.
-/

set_option autoImplicit false

namespace TrojanGo.Slog

/-! ## Format names -/

/-- `LogFormat.String`. -/
def LogFormat.string (f : Int) : GoString :=
  if f = textFormat then "text".toList
  else if f = jsonFormat then "json".toList
  else if f = coloredFormat then "colored".toList
  else "unknown".toList

/-- `ParseLogFormat`, which defaults to `TextFormat`. -/
def parseLogFormat (s : GoString) : Int :=
  if s = "text".toList then textFormat
  else if s = "json".toList then jsonFormat
  else if s = "colored".toList then coloredFormat
  else textFormat

/-! ## `ColoredTextHandler.Handle` -/

/-- A `slog.Attr`, with the text of its value. -/
structure Attr where
  key : GoString
  value : GoString
  deriving DecidableEq, Repr

/-- A `slog.Record`: its level, message and attributes. The time and PC, which `Handle` copies, are
left out. -/
structure SlogRecord where
  level : Int
  message : GoString
  attrs : List Attr
  deriving DecidableEq, Repr

/-- The attributes that `Handle` copies from a relabelled record: those whose key is not `level`. -/
def Attr.kept (a : Attr) : Bool := a.key != "level".toList

/-- The record that `Handle` makes for a trace or fatal record: the slog level it is shown at, a
`level` attribute with its name, then the record's attributes but `level`. -/
def relabel (level : Int) (name : GoString) (r : SlogRecord) : SlogRecord :=
  ⟨level, r.message, ⟨"level".toList, name⟩ :: r.attrs.filter Attr.kept⟩

/-- `ColoredTextHandler.Handle`: the record it passes to its inner handler. -/
def ColoredTextHandler.handle (r : SlogRecord) : SlogRecord :=
  if r.level = levelTrace then relabel levelDebug "TRACE".toList r
  else if r.level = levelFatal then relabel levelError "FATAL".toList r
  else r

/-! ## The handler of each format -/

/-- The writers that `NewColoredTextHandler` tells apart: one with an `Fd` method (an `*os.File`,
`os.Stdout` and `os.Stderr` among them) and the descriptor it returns, or any other writer. Its
second test, `w == os.Stdout || w == os.Stderr`, is only reached by writers without `Fd`, which
are never `os.Stdout` or `os.Stderr`. -/
inductive HandlerOutput
  | fdWriter (fd : Nat)
  | other
  deriving DecidableEq, Repr

/-- What finally formats a record: slog's text or JSON handler, or `slogcolor`'s. -/
inductive Formatter
  | text
  | json
  | slogcolor
  deriving DecidableEq, Repr

/-- A `ColoredTextHandler`: its inner handler, and `useColor`. -/
structure ColoredTextHandler where
  handler : Formatter
  useColor : Bool
  deriving DecidableEq, Repr

/-- `NewColoredTextHandler`; `isTerminal` is `term.IsTerminal`. -/
def newColoredTextHandler (isTerminal : Nat → Bool) (w : HandlerOutput) : ColoredTextHandler :=
  let useColor := match w with
    | .fdWriter fd => isTerminal fd
    | .other => false
  ⟨if useColor then .slogcolor else .text, useColor⟩

/-- The `slog.Handler` that `recreateHandler` makes. -/
inductive SlogHandler
  | json
  | colored (handler : ColoredTextHandler)
  | text
  deriving DecidableEq, Repr

/-- The handler `recreateHandler` makes for an adapter's format. Its writer is the adapter's
`FallbackWriter`, which has no `Fd` method. -/
def Handler.slogHandler (isTerminal : Nat → Bool) (handler : Handler) : SlogHandler :=
  if handler.format = jsonFormat then .json
  else if handler.format = coloredFormat then .colored (newColoredTextHandler isTerminal .other)
  else .text

/-- What formats a record that the handler gets, and the record it formats. -/
def SlogHandler.emit : SlogHandler → SlogRecord → Formatter × SlogRecord
  | .json, r => (.json, r)
  | .colored handler, r => (handler.handler, ColoredTextHandler.handle r)
  | .text, r => (.text, r)

/-! ## The level of the default handler -/

/-- `logLevelFromConfig` of `proxy.go`: the level of the `slog` default handler that
`NewProxyFromConfigData` installs, from the config's `log_level`. -/
def logLevelFromConfig (level : Int) : Int :=
  if level = 0 then levelDebug
  else if level = 1 then levelInfo
  else if level = 2 then levelWarn
  else if level = 3 then levelError
  else if level = 4 then levelError
  else if level = 5 then 1000
  else levelInfo

/- The colored format on a terminal: the record goes to slog's text handler, relabelled. At the
config level 4 the default handler shows error records, which an adapter at `FatalLevel` drops. -/
example : ((⟨0, coloredFormat⟩ : Handler).slogHandler fun _ => true).emit ⟨levelTrace, "dial".toList, []⟩ =
      (.text, ⟨levelDebug, "dial".toList, [⟨"level".toList, "TRACE".toList⟩]⟩) ∧
    logLevelFromConfig fatalLevel = levelError ∧ mapLogLevelToSlog fatalLevel = levelFatal := by
  decide

end TrojanGo.Slog

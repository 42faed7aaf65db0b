import TrojanGo.Log.SlogAdapter

/-!
# The writer of an adapter

The `FallbackWriter` that an adapter's records go through, over any sequence of the setters
`SetOutput`, `SetFallbackWriter`, `SetErrorHandler` and `SetFormat`. The handler always writes
through the adapter's own `FallbackWriter` cell, whose primary is the adapter's `output`
(`Linked`), and each setter changes that writer as `FallbackWriter.update` says
(`linked_applySetters`). So the primary is the writer of the last `SetOutput` after every
sequence (`recordWriter_primary`), and without `SetErrorHandler` the fallback is the writer of
the last `SetFallbackWriter` (`recordWriter_fallback`). `SetErrorHandler` makes a new
`FallbackWriter` with `os.Stderr` as fallback, which drops the writer an earlier
`SetFallbackWriter` gave (`setErrorHandler_discards_fallback`).
-/

set_option autoImplicit false

namespace TrojanGo.Slog

/-- A call of one of the setters of the writer configuration, with its argument. -/
inductive Setter
  | output (w : Option Writer)
  | fallbackWriter (w : Option Writer)
  | errorHandler (handler : Option ErrorHandler)
  | format (format : Int)

/-- The call of a setter on adapter `s`. -/
def Setter.apply (s : Nat) (h : Heap) : Setter → Heap
  | .output w => setOutput h s w
  | .fallbackWriter w => setFallbackWriter h s w
  | .errorHandler handler => setErrorHandler h s handler
  | .format value => setFormat h s value

/-- Setter calls on adapter `s`, in order. -/
def applySetters (h : Heap) (s : Nat) (calls : List Setter) : Heap :=
  calls.foldl (fun h call => Setter.apply s h call) h

/-- The `FallbackWriter` the records of adapter `s` are written through: the cell of its
handler. -/
def recordWriter (h : Heap) (s : Nat) : Option FallbackWriter := do
  let adapter ← h.adapters[s]?
  h.writers[adapter.handler.writer]?

/-- What a setter call does to the writer the records go through. -/
def FallbackWriter.update (fw : FallbackWriter) : Setter → FallbackWriter
  | .output w => { fw with primary := w }
  | .fallbackWriter w => { fw with fallback := w }
  | .errorHandler handler => newFallbackWriter fw.primary (some stderr) handler
  | .format _ => fw

/-- Adapter `s` writes its records through its own `FallbackWriter` cell, which holds `fw`, and
its `output` is the primary of that writer. -/
def Linked (h : Heap) (s : Nat) (fw : FallbackWriter) : Prop :=
  ∃ adapter, h.adapters[s]? = some adapter ∧ adapter.fallbackWriter = some adapter.handler.writer ∧
    h.writers[adapter.handler.writer]? = some fw ∧ adapter.output = fw.primary

theorem Linked.recordWriter {h : Heap} {s : Nat} {fw : FallbackWriter} (linked : Linked h s fw) :
    recordWriter h s = some fw := by
  obtain ⟨adapter, found, -, cell, -⟩ := linked
  simp [Slog.recordWriter, found, cell]

theorem Linked.setAdapter {h : Heap} {s : Nat} {fw : FallbackWriter} (inside : s < h.adapters.length)
    (adapter : Adapter) (writer : adapter.fallbackWriter = some adapter.handler.writer)
    (cell : h.writers[adapter.handler.writer]? = some fw) (output : adapter.output = fw.primary) :
    Linked (h.setAdapter s adapter) s fw :=
  ⟨adapter, by simp [getElem?_setAdapter, inside], writer, cell, output⟩

/-- Each setter call changes the writer of the records as `FallbackWriter.update` says, and keeps the
adapter writing through its own cell. -/
theorem Linked.apply {h : Heap} {s : Nat} {fw : FallbackWriter} (linked : Linked h s fw) :
    ∀ call : Setter, Linked (Setter.apply s h call) s (fw.update call) := by
  obtain ⟨adapter, found, writer, cell, output⟩ := linked
  have inside : s < h.adapters.length := (List.getElem?_eq_some_iff.mp found).1
  intro call
  cases call with
  | output w =>
      simp only [Setter.apply, setOutput, found, writer, recreateHandler, getElem?_setAdapter, inside,
        and_self, if_true, Heap.setAdapter_setAdapter]
      refine Linked.setAdapter ?_ _ ?_ ?_ ?_
      all_goals simp [List.getElem?_modify, cell, FallbackWriter.update, inside]
  | fallbackWriter w =>
      simp only [Setter.apply, setFallbackWriter, found, writer]
      exact ⟨adapter, found, writer, by simp [List.getElem?_modify, cell, FallbackWriter.update], output⟩
  | errorHandler handler =>
      simp only [Setter.apply, setErrorHandler, found, writer, recreateHandler, getElem?_setAdapter, inside,
        and_self, if_true, Heap.setAdapter_setAdapter]
      refine Linked.setAdapter ?_ _ ?_ ?_ ?_
      all_goals simp [FallbackWriter.update, newFallbackWriter, output, inside]
  | format value =>
      simp only [Setter.apply, setFormat, found, writer, recreateHandler, getElem?_setAdapter, inside,
        and_self, if_true, Heap.setAdapter_setAdapter]
      exact Linked.setAdapter inside _ rfl cell output

/-- Over a sequence of setter calls, the records go through the writer the calls make, one
`FallbackWriter.update` a call. -/
theorem linked_applySetters {h : Heap} {s : Nat} {fw : FallbackWriter} (linked : Linked h s fw)
    (calls : List Setter) : Linked (applySetters h s calls) s (calls.foldl FallbackWriter.update fw) := by
  induction calls generalizing h fw with
  | nil => exact linked
  | cons call rest ih => exact ih (linked.apply call)

/-- A new adapter, the last of the heap, writes through the `FallbackWriter` the constructor made. -/
theorem linked_new (h : Heap) (output : Option Writer) (format : Int) (errorHandler : Option ErrorHandler) :
    Linked (newSlogAdapterWithErrorHandler h output format errorHandler) h.adapters.length
      (newFallbackWriter output (some stderr) (some (errorHandler.getD defaultErrorHandler))) := by
  simp only [newSlogAdapterWithErrorHandler, recreateHandler, List.getElem?_concat_length]
  exact Linked.setAdapter (by simp) _ rfl (by simp) rfl

/-! ## The primary and the fallback -/

/-- The writer given to the last `SetOutput`, or to the constructor. -/
def lastOutput (output : Option Writer) (calls : List Setter) : Option Writer :=
  calls.foldl (fun w call => match call with | .output w' => w' | _ => w) output

/-- The writer given to the last `SetFallbackWriter`, `os.Stderr` if there is none. -/
def lastFallback (calls : List Setter) : Option Writer :=
  calls.foldl (fun w call => match call with | .fallbackWriter w' => w' | _ => w) (some stderr)

theorem primary_foldl_update (fw : FallbackWriter) (calls : List Setter) :
    (calls.foldl FallbackWriter.update fw).primary = lastOutput fw.primary calls := by
  induction calls generalizing fw with
  | nil => rfl
  | cons call rest ih => cases call <;> simp only [List.foldl_cons, ih, lastOutput] <;> rfl

theorem fallback_foldl_update (fw : FallbackWriter) (calls : List Setter)
    (kept : ∀ handler, Setter.errorHandler handler ∉ calls) :
    (calls.foldl FallbackWriter.update fw).fallback =
      calls.foldl (fun w call => match call with | .fallbackWriter w' => w' | _ => w) fw.fallback := by
  induction calls generalizing fw with
  | nil => rfl
  | cons call rest ih =>
      have later : ∀ handler, Setter.errorHandler handler ∉ rest :=
        fun handler member => kept handler (List.mem_cons_of_mem _ member)
      cases call with
      | errorHandler handler => exact absurd (List.mem_cons_self _ _) (kept handler)
      | _ => exact ih _ later

/-- After any sequence of setter calls on a new adapter, its records go through a
`FallbackWriter` whose primary is the writer of the last `SetOutput`, or the constructor's. -/
theorem recordWriter_primary (h : Heap) (output : Option Writer) (format : Int)
    (errorHandler : Option ErrorHandler) (calls : List Setter) :
    (recordWriter (applySetters (newSlogAdapterWithErrorHandler h output format errorHandler)
      h.adapters.length calls) h.adapters.length).map FallbackWriter.primary = some (lastOutput output calls) := by
  rw [(linked_applySetters (linked_new h output format errorHandler) calls).recordWriter, Option.map_some',
    primary_foldl_update]
  rfl

/-- Without `SetErrorHandler`, the fallback is the writer of the last `SetFallbackWriter`, or
`os.Stderr`. -/
theorem recordWriter_fallback (h : Heap) (output : Option Writer) (format : Int)
    (errorHandler : Option ErrorHandler) (calls : List Setter)
    (kept : ∀ handler, Setter.errorHandler handler ∉ calls) :
    (recordWriter (applySetters (newSlogAdapterWithErrorHandler h output format errorHandler)
      h.adapters.length calls) h.adapters.length).map FallbackWriter.fallback = some (lastFallback calls) := by
  rw [(linked_applySetters (linked_new h output format errorHandler) calls).recordWriter, Option.map_some',
    fallback_foldl_update _ _ kept]
  rfl

/-- `SetOutput(w3)`, `SetFallbackWriter(w2)` and `SetFormat(JSONFormat)` on a new adapter: the records
go through `w3`, then `w2`. -/
theorem recordWriter_fallback_after_three_setters :
    (∀ handler, Setter.errorHandler handler ∉ [.output (some 3), .fallbackWriter (some 2), .format jsonFormat]) ∧
      (recordWriter (applySetters (newSlogAdapterWithErrorHandler Heap.empty (some 1) textFormat none) 0
        [.output (some 3), .fallbackWriter (some 2), .format jsonFormat]) 0).map FallbackWriter.fallback =
        some (some 2) :=
  have kept : ∀ handler, Setter.errorHandler handler ∉ [.output (some 3), .fallbackWriter (some 2), .format jsonFormat] :=
    fun handler => by simp
  ⟨kept, recordWriter_fallback Heap.empty (some 1) textFormat none _ kept⟩

/-! ## Writing through the `FallbackWriter` -/

/-- What `Write(p)` of an `io.Writer` returns: the count written, or the error. -/
abbrev WriteResult := Except GoString Nat

/-- What `FallbackWriter.Write(p)` did: the count and the error it returned, the writers whose
`Write` it called, in order, the one that took the bytes, and the errors it handed its
`ErrorHandler`, each with its context. -/
structure WriteOutcome where
  n : Nat
  err : Option GoString
  tried : List Writer
  written : Option Writer
  reports : List (GoString × GoString)
  deriving DecidableEq, Repr

/-- The part of `FallbackWriter.Write` after the primary: the fallback, if there is one and it is
not the primary, then the length of `p` with no error. -/
def FallbackWriter.writeFallback (fw : FallbackWriter) (write : Writer → WriteResult) (length : Nat)
    (tried : List Writer) (reports : List (GoString × GoString)) : WriteOutcome :=
  match fw.fallback with
  | some fallback =>
      if fw.fallback ≠ fw.primary then
        match write fallback with
        | .ok n => ⟨n, none, tried ++ [fallback], some fallback, reports⟩
        | .error err => ⟨length, none, tried ++ [fallback], none, reports ++ [(err, "fallback writer failed".toList)]⟩
      else ⟨length, none, tried, none, reports⟩
  | none => ⟨length, none, tried, none, reports⟩

/-- `FallbackWriter.Write(p)`, where `write w` is what `w.Write(p)` returns and `length` is
`len(p)`: the primary first, then the fallback. -/
def FallbackWriter.write (fw : FallbackWriter) (write : Writer → WriteResult) (length : Nat) : WriteOutcome :=
  match fw.primary with
  | some primary =>
      match write primary with
      | .ok n => ⟨n, none, [primary], some primary, []⟩
      | .error err => fw.writeFallback write length [primary] [(err, "primary writer failed".toList)]
  | none => fw.writeFallback write length [] []

/-- `Write` never returns an error: when no writer takes the bytes they are dropped. -/
theorem FallbackWriter.write_err (fw : FallbackWriter) (write : Writer → WriteResult) (length : Nat) :
    (fw.write write length).err = none := by
  unfold FallbackWriter.write FallbackWriter.writeFallback
  repeat' split
  all_goals rfl

/-- A writer whose primary takes the bytes is the only one called. -/
theorem FallbackWriter.write_of_primary {fw : FallbackWriter} {w : Writer} (primary : fw.primary = some w)
    {write : Writer → WriteResult} {n : Nat} (accepted : write w = .ok n) (length : Nat) :
    fw.write write length = ⟨n, none, [w], some w, []⟩ := by
  simp [FallbackWriter.write, primary, accepted]

/-- After any setter calls on a new adapter, writing a record returns no error, and when the
writer of the last `SetOutput` (or of the constructor) takes the bytes, they go to it alone, with
no other writer called and nothing reported. -/
theorem newSlogAdapter_writes_to_last_output (h : Heap) (output : Option Writer) (format : Int)
    (errorHandler : Option ErrorHandler) (calls : List Setter) (write : Writer → WriteResult) (length : Nat) :
    ∃ fw, recordWriter (applySetters (newSlogAdapterWithErrorHandler h output format errorHandler)
        h.adapters.length calls) h.adapters.length = some fw ∧
      (fw.write write length).err = none ∧
      ∀ w n, lastOutput output calls = some w → write w = .ok n → fw.write write length = ⟨n, none, [w], some w, []⟩ := by
  obtain ⟨fw, found, primary⟩ := Option.map_eq_some'.mp (recordWriter_primary h output format errorHandler calls)
  exact ⟨fw, found, FallbackWriter.write_err fw write length, fun w n last accepted =>
    FallbackWriter.write_of_primary (primary.trans last) accepted length⟩

/-- `SetFallbackWriter(w2)` then `SetErrorHandler(nil)` on a new adapter: the records go through a
`FallbackWriter` whose fallback is `os.Stderr`, not the `w2` of the last `SetFallbackWriter`. -/
theorem setErrorHandler_discards_fallback :
    (recordWriter (applySetters (newSlogAdapterWithFormat Heap.empty (some 1) textFormat) 0
        [.fallbackWriter (some 2), .errorHandler none]) 0).map FallbackWriter.fallback = some (some stderr) ∧
      lastFallback [.fallbackWriter (some 2), .errorHandler none] = some 2 :=
  have linked := linked_applySetters (linked_new Heap.empty (some 1) textFormat none)
    [.fallbackWriter (some 2), .errorHandler none]
  ⟨congrArg (Option.map FallbackWriter.fallback) linked.recordWriter, rfl⟩

end TrojanGo.Slog

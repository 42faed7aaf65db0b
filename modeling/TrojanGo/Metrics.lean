import TrojanGo.Go.Runs
import TrojanGo.Go.Strings
import Mathlib.Algebra.Order.Ring.Int

/-!
# The Prometheus metrics

The package `metrics/prometheus`: the recorder functions over the registry's collectors, the
registration of the collectors, `NewServer`, and the interleavings of `Start`, the goroutine running
`ListenAndServe` and the cancellation of the context.

client_golang keeps a counter's integral additions in a `uint64` that wraps and a gauge in a
`float64`, and the recorder passes `float64(sent)`, which rounds amounts above `2 ^ 53`. Over every
run of recorder calls, whatever `CleanupUserMetrics` removes, the aggregate counters hold their start
plus the `float64` of each amount recorded, modulo `2 ^ 64`, and `active_connections` its opens less
its closes while it stays below `2 ^ 53` (`run_totals`). A user's own counters account for its calls
as long as it is not cleaned up (`run_user`), and from the start no user's traffic counter exceeds
the aggregate one while the aggregate does not wrap (`userTraffic_le_total`). Cleaning up a user with
open connections drives its gauge below zero once they close.
-/

set_option autoImplicit false

namespace TrojanGo.Metrics

/-! ## `float64` and client_golang's metrics -/

/-- `float64(n)` of a natural number: `n` rounded to 53 significant bits, ties to even, as
IEEE 754 rounds. Every `float64` from `2 ^ 53` on is an integer, so the result is one. -/
def toFloat64 (n : Nat) : Nat :=
  if n < 2 ^ 53 then n
  else
    let unit := 2 ^ (n.log2 - 52)
    if 2 * (n % unit) < unit ∨ (2 * (n % unit) = unit ∧ n / unit % 2 = 0) then n / unit * unit
    else (n / unit + 1) * unit

/-- `float64(x)` of an integer: its magnitude rounds as a natural number's does. -/
def float64OfInt (x : Int) : Int := if 0 ≤ x then toFloat64 x.toNat else -(toFloat64 x.natAbs : Int)

theorem toFloat64_of_lt {n : Nat} (small : n < 2 ^ 53) : toFloat64 n = n := if_pos small

theorem float64OfInt_of_natAbs_lt {x : Int} (small : x.natAbs < 2 ^ 53) : float64OfInt x = x := by
  unfold float64OfInt
  split_ifs
  · rw [toFloat64_of_lt (by omega)]
    omega
  · rw [toFloat64_of_lt small]
    omega

/-- A Go `int`, 64 bits wide on the platforms trojan-go is built for. -/
abbrev GoInt := {n : Int // -2 ^ 63 ≤ n ∧ n < 2 ^ 63}

/-- A `prometheus.Counter` that only integral amounts reach: its `valInt`, a `uint64`. `Add(v)` of
an integral `v` below `2 ^ 64`, such as `float64` of a positive Go `int`, takes the integer path,
`atomic.AddUint64(&c.valInt, uint64(v))`, which wraps; `Inc` adds 1 there. The float accumulator
`valBits` stays 0. -/
@[ext] structure Counter where
  valInt : Nat
  lt : valInt < 2 ^ 64
  deriving DecidableEq

/-- A counter at its start. -/
def Counter.zero : Counter := ⟨0, by decide⟩

/-- `Add(float64 v)` of an integral `v`, and `Inc` with `v = 1`. -/
def Counter.add (c : Counter) (v : Nat) : Counter := ⟨(c.valInt + v) % 2 ^ 64, Nat.mod_lt _ (by decide)⟩

theorem Counter.valInt_add (c : Counter) (v : Nat) : (c.add v).valInt = (c.valInt + v) % 2 ^ 64 := rfl

@[simp] theorem Counter.add_zero (c : Counter) : c.add 0 = c :=
  Counter.ext (show (c.valInt + 0) % 2 ^ 64 = c.valInt from Nat.mod_eq_of_lt c.lt)

@[simp] theorem Counter.add_add (c : Counter) (a b : Nat) : (c.add a).add b = c.add (a + b) :=
  Counter.ext (show ((c.valInt + a) % 2 ^ 64 + b) % 2 ^ 64 = (c.valInt + (a + b)) % 2 ^ 64 by
    rw [Nat.mod_add_mod, Nat.add_assoc])

/-- `Gauge.Add(d)` on a gauge whose value is an integer, as every value the recorder gives a gauge
is: the `float64` sum is the exact sum, rounded. `Inc` and `Dec` add 1 and -1. -/
def gaugeAdd (g d : Int) : Int := float64OfInt (g + d)

/-- A metric vector over one label (`user_hash`, or `result`): the children that
`WithLabelValues` made and `DeleteLabelValues` has not removed, with their values. -/
abbrev Vec (α : Type) := GoString → Option α

/-- `WithLabelValues(label)`, which makes a child at `zero` if there is none, then `f` on its
value. -/
def Vec.update {α : Type} (v : Vec α) (label : GoString) (zero : α) (f : α → α) : Vec α :=
  Function.update v label (some (f ((v label).getD zero)))

/-- `DeleteLabelValues(label)`. -/
def Vec.delete {α : Type} (v : Vec α) (label : GoString) : Vec α := Function.update v label none

/-- `label`'s child of a counter vector, or a counter at 0 without one, as a new child starts. -/
def Vec.child (v : Vec Counter) (label : GoString) : Counter := (v label).getD .zero

/-- The value of `label`'s child of a gauge vector. -/
def Vec.gauge (v : Vec Int) (label : GoString) : Int := (v label).getD 0

@[simp] theorem Vec.update_self {α : Type} (v : Vec α) (label : GoString) (zero : α) (f : α → α) :
    v.update label zero f label = some (f ((v label).getD zero)) := Function.update_same _ _ _

@[simp] theorem Vec.update_ne {α : Type} (v : Vec α) {label other : GoString} (zero : α) (f : α → α)
    (ne : other ≠ label) : v.update label zero f other = v other := Function.update_noteq ne _ _

/-! ## The recorder -/

/-- The collectors the recorder functions write: counter vectors, gauge vectors, gauges and
counters, as `config.go` declares them. -/
structure Registry where
  userUploadBytesTotal : Vec Counter
  userDownloadBytesTotal : Vec Counter
  userUploadSpeed : Vec Int
  userDownloadSpeed : Vec Int
  activeConnections : Int
  connectionsTotal : Counter
  userActiveConnections : Vec Int
  userActiveIPs : Vec Int
  authenticationAttempts : Vec Counter
  totalUsers : Int
  uploadBytesTotal : Counter
  downloadBytesTotal : Counter
  relayConnectionErrors : Counter
  relayPacketErrors : Counter
  redirectedConnections : Counter

/-- Every collector at its start: no children, every value 0. -/
def Registry.zero : Registry :=
  ⟨fun _ => none, fun _ => none, fun _ => none, fun _ => none, 0, .zero, fun _ => none, fun _ => none,
    fun _ => none, 0, .zero, .zero, .zero, .zero, .zero⟩

/-- `RecordTraffic`: `float64` of a positive `sent` goes to the user's and the aggregate upload
counters, of a positive `recv` to the download ones. -/
def recordTraffic (m : Registry) (userHash : GoString) (sent recv : GoInt) : Registry :=
  let m := if 0 < sent.val then
      { m with userUploadBytesTotal := m.userUploadBytesTotal.update userHash .zero (·.add (toFloat64 sent.val.toNat)),
               uploadBytesTotal := m.uploadBytesTotal.add (toFloat64 sent.val.toNat) }
    else m
  if 0 < recv.val then
    { m with userDownloadBytesTotal := m.userDownloadBytesTotal.update userHash .zero (·.add (toFloat64 recv.val.toNat)),
             downloadBytesTotal := m.downloadBytesTotal.add (toFloat64 recv.val.toNat) }
  else m

/-- `SetUserSpeed`, with `float64` of each `uint64` speed. -/
def setUserSpeed (m : Registry) (userHash : GoString) (uploadSpeed downloadSpeed : UInt64) : Registry :=
  { m with userUploadSpeed := m.userUploadSpeed.update userHash 0 fun _ => toFloat64 uploadSpeed.toNat,
           userDownloadSpeed := m.userDownloadSpeed.update userHash 0 fun _ => toFloat64 downloadSpeed.toNat }

/-- `RecordConnectionOpen`. -/
def recordConnectionOpen (m : Registry) (userHash : GoString) : Registry :=
  let m := { m with activeConnections := gaugeAdd m.activeConnections 1, connectionsTotal := m.connectionsTotal.add 1 }
  if userHash ≠ [] then { m with userActiveConnections := m.userActiveConnections.update userHash 0 (gaugeAdd · 1) }
  else m

/-- `RecordConnectionClose`. -/
def recordConnectionClose (m : Registry) (userHash : GoString) : Registry :=
  let m := { m with activeConnections := gaugeAdd m.activeConnections (-1) }
  if userHash ≠ [] then { m with userActiveConnections := m.userActiveConnections.update userHash 0 (gaugeAdd · (-1)) }
  else m

/-- `RecordAuthAttempt`. -/
def recordAuthAttempt (m : Registry) (success : Bool) : Registry :=
  { m with authenticationAttempts :=
      m.authenticationAttempts.update (if success then "success".toList else "failure".toList) .zero (·.add 1) }

/-- `SetUserCount`. -/
def setUserCount (m : Registry) (count : GoInt) : Registry := { m with totalUsers := float64OfInt count.val }

/-- `SetUserActiveIPs`. -/
def setUserActiveIPs (m : Registry) (userHash : GoString) (count : GoInt) : Registry :=
  { m with userActiveIPs := m.userActiveIPs.update userHash 0 fun _ => float64OfInt count.val }

/-- `RecordRelayConnectionError`. -/
def recordRelayConnectionError (m : Registry) : Registry :=
  { m with relayConnectionErrors := m.relayConnectionErrors.add 1 }

/-- `RecordRelayPacketError`. -/
def recordRelayPacketError (m : Registry) : Registry := { m with relayPacketErrors := m.relayPacketErrors.add 1 }

/-- `RecordRedirectedConnection`. -/
def recordRedirectedConnection (m : Registry) : Registry :=
  { m with redirectedConnections := m.redirectedConnections.add 1 }

/-- `CleanupUserMetrics`: the user's children of the six per-user vectors are deleted. -/
def cleanupUserMetrics (m : Registry) (userHash : GoString) : Registry :=
  { m with userUploadBytesTotal := m.userUploadBytesTotal.delete userHash,
           userDownloadBytesTotal := m.userDownloadBytesTotal.delete userHash,
           userUploadSpeed := m.userUploadSpeed.delete userHash,
           userDownloadSpeed := m.userDownloadSpeed.delete userHash,
           userActiveConnections := m.userActiveConnections.delete userHash,
           userActiveIPs := m.userActiveIPs.delete userHash }

/-- A call of one of the recorder functions. -/
inductive Call
  | recordTraffic (userHash : GoString) (sent recv : GoInt)
  | setUserSpeed (userHash : GoString) (uploadSpeed downloadSpeed : UInt64)
  | recordConnectionOpen (userHash : GoString)
  | recordConnectionClose (userHash : GoString)
  | recordAuthAttempt (success : Bool)
  | setUserCount (count : GoInt)
  | setUserActiveIPs (userHash : GoString) (count : GoInt)
  | recordRelayConnectionError
  | recordRelayPacketError
  | recordRedirectedConnection
  | cleanupUserMetrics (userHash : GoString)

/-- One recorder call. -/
def Registry.call (m : Registry) : Call → Registry
  | .recordTraffic userHash sent recv => recordTraffic m userHash sent recv
  | .setUserSpeed userHash up down => setUserSpeed m userHash up down
  | .recordConnectionOpen userHash => recordConnectionOpen m userHash
  | .recordConnectionClose userHash => recordConnectionClose m userHash
  | .recordAuthAttempt success => recordAuthAttempt m success
  | .setUserCount count => setUserCount m count
  | .setUserActiveIPs userHash count => setUserActiveIPs m userHash count
  | .recordRelayConnectionError => recordRelayConnectionError m
  | .recordRelayPacketError => recordRelayPacketError m
  | .recordRedirectedConnection => recordRedirectedConnection m
  | .cleanupUserMetrics userHash => cleanupUserMetrics m userHash

/-- Recorder calls, in order. -/
def Registry.run (m : Registry) (calls : List Call) : Registry := calls.foldl Registry.call m

/-- What a call adds to the aggregate upload counter: `float64` of a positive `sent`. -/
def Call.uploaded : Call → Nat
  | .recordTraffic _ sent _ => if 0 < sent.val then toFloat64 sent.val.toNat else 0
  | _ => 0

/-- What a call adds to the aggregate download counter. -/
def Call.downloaded : Call → Nat
  | .recordTraffic _ _ recv => if 0 < recv.val then toFloat64 recv.val.toNat else 0
  | _ => 0

/-- Whether a call opens a connection. -/
def Call.opens : Call → Bool
  | .recordConnectionOpen _ => true
  | _ => false

/-- Whether a call closes a connection. -/
def Call.closes : Call → Bool
  | .recordConnectionClose _ => true
  | _ => false

/-- The aggregate counters after one call, and the gauge of active connections while it is
exact. -/
theorem call_totals (m : Registry) (call : Call) :
    (m.call call).uploadBytesTotal = m.uploadBytesTotal.add call.uploaded ∧
      (m.call call).downloadBytesTotal = m.downloadBytesTotal.add call.downloaded ∧
      (m.call call).connectionsTotal = m.connectionsTotal.add (if call.opens then 1 else 0) ∧
      (m.activeConnections.natAbs + 1 < 2 ^ 53 → (m.call call).activeConnections =
        m.activeConnections + (if call.opens then 1 else 0) - (if call.closes then 1 else 0)) := by
  cases call with
  | recordTraffic userHash sent recv =>
      by_cases up : 0 < sent.val <;> by_cases down : 0 < recv.val <;>
        simp [Registry.call, recordTraffic, Call.uploaded, Call.downloaded, Call.opens, Call.closes, up, down]
  | recordConnectionOpen userHash | recordConnectionClose userHash =>
      simp only [Registry.call, recordConnectionOpen, recordConnectionClose, Call.uploaded, Call.downloaded,
        Call.opens, Call.closes, Counter.add_zero, gaugeAdd, apply_ite Registry.uploadBytesTotal,
        apply_ite Registry.downloadBytesTotal, apply_ite Registry.connectionsTotal,
        apply_ite Registry.activeConnections, ite_self, if_true, Bool.false_eq_true, if_false, true_and]
      intro small
      rw [float64OfInt_of_natAbs_lt] <;> omega
  | _ => exact ⟨(Counter.add_zero _).symm, (Counter.add_zero _).symm, (Counter.add_zero _).symm,
      fun _ => ((Int.sub_zero _).trans (Int.add_zero _)).symm⟩

/-- The aggregate counters over a run, as counters. -/
theorem run_counters (m : Registry) (calls : List Call) :
    (m.run calls).uploadBytesTotal = m.uploadBytesTotal.add (calls.map Call.uploaded).sum ∧
      (m.run calls).downloadBytesTotal = m.downloadBytesTotal.add (calls.map Call.downloaded).sum ∧
      (m.run calls).connectionsTotal = m.connectionsTotal.add (calls.countP Call.opens) := by
  induction calls generalizing m with
  | nil => simp [Registry.run]
  | cons call rest ih =>
      obtain ⟨up, down, opened, -⟩ := call_totals m call
      obtain ⟨up', down', opened'⟩ := ih (m.call call)
      refine ⟨?_, ?_, ?_⟩ <;> simp only [Registry.run, List.foldl_cons] at up' down' opened' ⊢
      · rw [up', up, Counter.add_add, List.map_cons, List.sum_cons]
      · rw [down', down, Counter.add_add, List.map_cons, List.sum_cons]
      · rw [opened', opened, Counter.add_add, List.countP_cons, Nat.add_comm]

/-- The gauge of active connections over a run that keeps it below `2 ^ 53`. -/
theorem run_activeConnections (m : Registry) (calls : List Call)
    (small : m.activeConnections.natAbs + calls.length < 2 ^ 53) :
    (m.run calls).activeConnections = m.activeConnections + calls.countP Call.opens - calls.countP Call.closes := by
  induction calls generalizing m with
  | nil => simp [Registry.run]
  | cons call rest ih =>
      rw [List.length_cons] at small
      have step := (call_totals m call).2.2.2 (by omega)
      have later := ih (m.call call) (by rw [step]; split_ifs <;> omega)
      simp only [Registry.run, List.foldl_cons, List.countP_cons, Nat.cast_add, Nat.cast_ite, Nat.cast_one,
        Nat.cast_zero] at later ⊢
      rw [later, step]
      omega

/-- Over every run of recorder calls, whatever `CleanupUserMetrics` removes, the aggregate upload
and download counters hold their start plus `float64` of each positive amount recorded, and
`connections_total` its start plus the opens, modulo `2 ^ 64`, where the `uint64` accumulators
wrap. `active_connections` is its start plus the opens less the closes as long as it stays below
`2 ^ 53`, where its `float64` sums are exact. -/
theorem run_totals (m : Registry) (calls : List Call) :
    (m.run calls).uploadBytesTotal.valInt = (m.uploadBytesTotal.valInt + (calls.map Call.uploaded).sum) % 2 ^ 64 ∧
      (m.run calls).downloadBytesTotal.valInt =
        (m.downloadBytesTotal.valInt + (calls.map Call.downloaded).sum) % 2 ^ 64 ∧
      (m.run calls).connectionsTotal.valInt = (m.connectionsTotal.valInt + calls.countP Call.opens) % 2 ^ 64 ∧
      (m.activeConnections.natAbs + calls.length < 2 ^ 53 →
        (m.run calls).activeConnections = m.activeConnections + calls.countP Call.opens - calls.countP Call.closes) := by
  obtain ⟨up, down, opened⟩ := run_counters m calls
  exact ⟨by rw [up, Counter.valInt_add], by rw [down, Counter.valInt_add], by rw [opened, Counter.valInt_add],
    run_activeConnections m calls⟩

/-! ### A user's counters -/

/-- What a call adds to `userHash`'s upload counter. -/
def Call.uploadedBy (userHash : GoString) : Call → Nat
  | .recordTraffic h sent _ => if h = userHash ∧ 0 < sent.val then toFloat64 sent.val.toNat else 0
  | _ => 0

/-- What a call adds to `userHash`'s download counter. -/
def Call.downloadedBy (userHash : GoString) : Call → Nat
  | .recordTraffic h _ recv => if h = userHash ∧ 0 < recv.val then toFloat64 recv.val.toNat else 0
  | _ => 0

/-- What a call adds to `userHash`'s gauge of active connections. -/
def Call.connectedBy (userHash : GoString) : Call → Int
  | .recordConnectionOpen h => if h = userHash ∧ h ≠ [] then 1 else 0
  | .recordConnectionClose h => if h = userHash ∧ h ≠ [] then -1 else 0
  | _ => 0

theorem Call.natAbs_connectedBy_le (call : Call) (userHash : GoString) : (call.connectedBy userHash).natAbs ≤ 1 := by
  unfold Call.connectedBy
  split <;> (try split_ifs) <;> decide

/-- Whether a call is `CleanupUserMetrics` of `userHash`. -/
def Call.cleansUp (userHash : GoString) : Call → Bool
  | .cleanupUserMetrics h => decide (h = userHash)
  | _ => false

theorem Vec.child_update_self (v : Vec Counter) (label : GoString) (f : Counter → Counter) :
    (v.update label .zero f).child label = f (v.child label) := by
  simp [Vec.child]

theorem Vec.child_update_ne (v : Vec Counter) {label other : GoString} (f : Counter → Counter) (ne : other ≠ label) :
    (v.update label .zero f).child other = v.child other := by
  simp [Vec.child, ne]

/-- A user's counters after one call other than its cleanup, and its gauge while it is exact. -/
theorem call_user (m : Registry) (call : Call) (userHash : GoString) (kept : call.cleansUp userHash = false) :
    (m.call call).userUploadBytesTotal.child userHash =
        (m.userUploadBytesTotal.child userHash).add (call.uploadedBy userHash) ∧
      (m.call call).userDownloadBytesTotal.child userHash =
        (m.userDownloadBytesTotal.child userHash).add (call.downloadedBy userHash) ∧
      ((m.userActiveConnections.gauge userHash).natAbs + 1 < 2 ^ 53 →
        (m.call call).userActiveConnections.gauge userHash =
          m.userActiveConnections.gauge userHash + call.connectedBy userHash) := by
  cases call with
  | recordTraffic h sent recv =>
      by_cases same : h = userHash
      · subst same
        by_cases up : 0 < sent.val <;> by_cases down : 0 < recv.val <;>
          simp [Registry.call, recordTraffic, Vec.child_update_self, Call.uploadedBy, Call.downloadedBy,
            Call.connectedBy, up, down]
      · by_cases up : 0 < sent.val <;> by_cases down : 0 < recv.val <;>
          simp [Registry.call, recordTraffic, Vec.child_update_ne _ _ (Ne.symm same), Call.uploadedBy,
            Call.downloadedBy, Call.connectedBy, up, down, same]
  | recordConnectionOpen h | recordConnectionClose h =>
      simp only [Registry.call, recordConnectionOpen, recordConnectionClose, Call.uploadedBy, Call.downloadedBy,
        Call.connectedBy, Counter.add_zero, apply_ite Registry.userUploadBytesTotal,
        apply_ite Registry.userDownloadBytesTotal, ite_self, true_and, Vec.gauge]
      intro small
      by_cases counted : h = userHash ∧ h ≠ []
      · obtain ⟨rfl, named⟩ := counted
        simp only [ne_eq, named, not_false_eq_true, and_self, if_true, Vec.update_self, Option.getD_some, gaugeAdd]
        rw [float64OfInt_of_natAbs_lt]; omega
      · rw [if_neg counted, Int.add_zero]
        split_ifs with named
        · simp only [Vec.update_ne _ _ _ fun same => counted ⟨same.symm, named⟩]
        · rfl
  | cleanupUserMetrics h =>
      have other : h ≠ userHash := by simpa [Call.cleansUp] using kept
      simp [Registry.call, cleanupUserMetrics, Vec.delete, Vec.child, Vec.gauge, Function.update_apply,
        Call.uploadedBy, Call.downloadedBy, Call.connectedBy, Ne.symm other]
  | _ => exact ⟨(Counter.add_zero _).symm, (Counter.add_zero _).symm, fun _ => (Int.add_zero _).symm⟩

/-- A user's traffic counters over a run that does not clean it up, as counters. -/
theorem run_userCounters (m : Registry) (calls : List Call) (userHash : GoString)
    (kept : ∀ call ∈ calls, call.cleansUp userHash = false) :
    (m.run calls).userUploadBytesTotal.child userHash =
        (m.userUploadBytesTotal.child userHash).add (calls.map (Call.uploadedBy userHash)).sum ∧
      (m.run calls).userDownloadBytesTotal.child userHash =
        (m.userDownloadBytesTotal.child userHash).add (calls.map (Call.downloadedBy userHash)).sum := by
  induction calls generalizing m with
  | nil => simp [Registry.run]
  | cons call rest ih =>
      rw [List.forall_mem_cons] at kept
      obtain ⟨up, down, -⟩ := call_user m call userHash kept.1
      obtain ⟨up', down'⟩ := ih (m.call call) kept.2
      refine ⟨?_, ?_⟩ <;> simp only [Registry.run, List.foldl_cons] at up' down' ⊢
      · rw [up', up, Counter.add_add, List.map_cons, List.sum_cons]
      · rw [down', down, Counter.add_add, List.map_cons, List.sum_cons]

/-- A user's gauge of active connections over a run that does not clean it up and keeps it below
`2 ^ 53`. -/
theorem run_userActiveConnections (m : Registry) (calls : List Call) (userHash : GoString)
    (kept : ∀ call ∈ calls, call.cleansUp userHash = false)
    (small : (m.userActiveConnections.gauge userHash).natAbs + calls.length < 2 ^ 53) :
    (m.run calls).userActiveConnections.gauge userHash =
      m.userActiveConnections.gauge userHash + (calls.map (Call.connectedBy userHash)).sum := by
  induction calls generalizing m with
  | nil => simp [Registry.run]
  | cons call rest ih =>
      rw [List.forall_mem_cons] at kept
      rw [List.length_cons] at small
      have step := (call_user m call userHash kept.1).2.2 (by omega)
      have connected := call.natAbs_connectedBy_le userHash
      have later := ih (m.call call) kept.2 (by rw [step]; omega)
      simp only [Registry.run, List.foldl_cons, List.map_cons, List.sum_cons] at later ⊢
      rw [later, step, Int.add_assoc]

/-- Over every run that does not clean a user up, the user's upload and download counters hold
their start plus `float64` of each positive amount recorded for it, modulo `2 ^ 64`, and its gauge of
active connections its start plus its opens less its closes as long as it stays below `2 ^ 53`. -/
theorem run_user (m : Registry) (calls : List Call) (userHash : GoString)
    (kept : ∀ call ∈ calls, call.cleansUp userHash = false) :
    ((m.run calls).userUploadBytesTotal.child userHash).valInt =
        ((m.userUploadBytesTotal.child userHash).valInt + (calls.map (Call.uploadedBy userHash)).sum) % 2 ^ 64 ∧
      ((m.run calls).userDownloadBytesTotal.child userHash).valInt =
        ((m.userDownloadBytesTotal.child userHash).valInt + (calls.map (Call.downloadedBy userHash)).sum) % 2 ^ 64 ∧
      ((m.userActiveConnections.gauge userHash).natAbs + calls.length < 2 ^ 53 →
        (m.run calls).userActiveConnections.gauge userHash =
          m.userActiveConnections.gauge userHash + (calls.map (Call.connectedBy userHash)).sum) := by
  obtain ⟨up, down⟩ := run_userCounters m calls userHash kept
  exact ⟨by rw [up, Counter.valInt_add], by rw [down, Counter.valInt_add],
    run_userActiveConnections m calls userHash kept⟩

/-- A user who opens a connection, sends 5 bytes and closes it. -/
theorem run_user_of_open_close :
    (∀ call ∈ [Call.recordConnectionOpen "u".toList, .recordTraffic "u".toList ⟨5, by decide⟩ ⟨0, by decide⟩,
        .recordConnectionClose "u".toList], call.cleansUp "u".toList = false) ∧
      ((Registry.zero.run [.recordConnectionOpen "u".toList, .recordTraffic "u".toList ⟨5, by decide⟩ ⟨0, by decide⟩,
          .recordConnectionClose "u".toList]).userUploadBytesTotal.child "u".toList).valInt =
        ((Registry.zero.userUploadBytesTotal.child "u".toList).valInt +
          ([Call.recordConnectionOpen "u".toList, .recordTraffic "u".toList ⟨5, by decide⟩ ⟨0, by decide⟩,
            .recordConnectionClose "u".toList].map (Call.uploadedBy "u".toList)).sum) % 2 ^ 64 := by
  have kept : ∀ call ∈ [Call.recordConnectionOpen "u".toList, .recordTraffic "u".toList ⟨5, by decide⟩ ⟨0, by decide⟩,
      .recordConnectionClose "u".toList], call.cleansUp "u".toList = false := by decide
  exact ⟨kept, (run_user Registry.zero _ "u".toList kept).1⟩

/- `CleanupUserMetrics` of a user with an open connection: when it closes, the user's gauge of
active connections is `-1`, while the aggregate one is back at 0. -/
example :
    (Registry.zero.run [.recordConnectionOpen "u".toList, .cleanupUserMetrics "u".toList,
      .recordConnectionClose "u".toList]).userActiveConnections "u".toList = some (-1) ∧
    (Registry.zero.run [.recordConnectionOpen "u".toList, .cleanupUserMetrics "u".toList,
      .recordConnectionClose "u".toList]).activeConnections = 0 := by
  decide

/-! ### A user's counters against the aggregate ones -/

/-- What a call adds to a user's traffic counters is part of what it adds to the aggregate ones. -/
theorem Call.userTraffic_le (call : Call) (userHash : GoString) :
    call.uploadedBy userHash ≤ call.uploaded ∧ call.downloadedBy userHash ≤ call.downloaded := by
  cases call with
  | recordTraffic h sent recv =>
      by_cases same : h = userHash <;> simp [Call.uploadedBy, Call.uploaded, Call.downloadedBy, Call.downloaded, same]
  | _ => exact ⟨Nat.zero_le 0, Nat.zero_le 0⟩

/-- Each user's traffic counters are at most the aggregate ones. -/
def Bounded (m : Registry) : Prop :=
  ∀ userHash, (m.userUploadBytesTotal.child userHash).valInt ≤ m.uploadBytesTotal.valInt ∧
    (m.userDownloadBytesTotal.child userHash).valInt ≤ m.downloadBytesTotal.valInt

/-- A call whose amounts do not wrap the aggregate counters keeps every user's counters at most
the aggregate ones, and the aggregate ones grow by exactly those amounts. -/
theorem Bounded.call {m : Registry} (bounded : Bounded m) (call : Call)
    (upRoom : m.uploadBytesTotal.valInt + call.uploaded < 2 ^ 64)
    (downRoom : m.downloadBytesTotal.valInt + call.downloaded < 2 ^ 64) :
    Bounded (m.call call) ∧ (m.call call).uploadBytesTotal.valInt = m.uploadBytesTotal.valInt + call.uploaded ∧
      (m.call call).downloadBytesTotal.valInt = m.downloadBytesTotal.valInt + call.downloaded := by
  obtain ⟨up, down, -, -⟩ := call_totals m call
  have upTotal : (m.call call).uploadBytesTotal.valInt = m.uploadBytesTotal.valInt + call.uploaded := by
    rw [up, Counter.valInt_add, Nat.mod_eq_of_lt upRoom]
  have downTotal : (m.call call).downloadBytesTotal.valInt = m.downloadBytesTotal.valInt + call.downloaded := by
    rw [down, Counter.valInt_add, Nat.mod_eq_of_lt downRoom]
  refine ⟨fun user => ?_, upTotal, downTotal⟩
  obtain ⟨upLow, downLow⟩ := bounded user
  rw [upTotal, downTotal]
  cases cleaned : call.cleansUp user
  · obtain ⟨up', down', -⟩ := call_user m call user cleaned
    obtain ⟨shareUp, shareDown⟩ := call.userTraffic_le user
    rw [up', down', Counter.valInt_add, Counter.valInt_add, Nat.mod_eq_of_lt (by omega),
      Nat.mod_eq_of_lt (by omega)]
    omega
  · obtain ⟨h, rfl⟩ : ∃ h, call = .cleanupUserMetrics h := by
      cases call <;> simp [Call.cleansUp] at cleaned ⊢
    simp only [Call.cleansUp, decide_eq_true_eq] at cleaned
    subst cleaned
    simp [Registry.call, cleanupUserMetrics, Vec.delete, Vec.child, Counter.zero]

/-- A run whose amounts do not wrap the aggregate counters keeps every user's counters at most the
aggregate ones. -/
theorem Bounded.run {m : Registry} (bounded : Bounded m) (calls : List Call)
    (upRoom : m.uploadBytesTotal.valInt + (calls.map Call.uploaded).sum < 2 ^ 64)
    (downRoom : m.downloadBytesTotal.valInt + (calls.map Call.downloaded).sum < 2 ^ 64) : Bounded (m.run calls) := by
  induction calls generalizing m with
  | nil => exact bounded
  | cons call rest ih =>
      simp only [List.map_cons, List.sum_cons] at upRoom downRoom
      obtain ⟨bounded', upTotal, downTotal⟩ := bounded.call call (by omega) (by omega)
      exact ih bounded' (by rw [upTotal]; omega) (by rw [downTotal]; omega)

/-- Over every run from the start in which the aggregate traffic stays below `2 ^ 64`, no user's
upload or download counter exceeds the aggregate one. -/
theorem userTraffic_le_total (calls : List Call) (userHash : GoString)
    (noWrap : (calls.map Call.uploaded).sum < 2 ^ 64 ∧ (calls.map Call.downloaded).sum < 2 ^ 64) :
    ((Registry.zero.run calls).userUploadBytesTotal.child userHash).valInt ≤
        (Registry.zero.run calls).uploadBytesTotal.valInt ∧
      ((Registry.zero.run calls).userDownloadBytesTotal.child userHash).valInt ≤
        (Registry.zero.run calls).downloadBytesTotal.valInt :=
  (show Bounded Registry.zero from fun _ => by simp [Registry.zero, Vec.child, Counter.zero]).run calls
    (by simpa [Registry.zero, Counter.zero] using noWrap.1) (by simpa [Registry.zero, Counter.zero] using noWrap.2)
    userHash

/-- Two users' traffic, then the first user cleaned up and back. -/
theorem userTraffic_le_total_of_two_users :
    (([Call.recordTraffic "u".toList ⟨5, by decide⟩ ⟨7, by decide⟩, .recordTraffic "v".toList ⟨3, by decide⟩ ⟨0, by decide⟩,
        .cleanupUserMetrics "u".toList, .recordTraffic "u".toList ⟨2, by decide⟩ ⟨0, by decide⟩].map Call.uploaded).sum <
        2 ^ 64 ∧
      ([Call.recordTraffic "u".toList ⟨5, by decide⟩ ⟨7, by decide⟩, .recordTraffic "v".toList ⟨3, by decide⟩ ⟨0, by decide⟩,
        .cleanupUserMetrics "u".toList, .recordTraffic "u".toList ⟨2, by decide⟩ ⟨0, by decide⟩].map Call.downloaded).sum <
        2 ^ 64) ∧
      ((Registry.zero.run [Call.recordTraffic "u".toList ⟨5, by decide⟩ ⟨7, by decide⟩,
          .recordTraffic "v".toList ⟨3, by decide⟩ ⟨0, by decide⟩, .cleanupUserMetrics "u".toList,
          .recordTraffic "u".toList ⟨2, by decide⟩ ⟨0, by decide⟩]).userUploadBytesTotal.child "u".toList).valInt ≤
        (Registry.zero.run [Call.recordTraffic "u".toList ⟨5, by decide⟩ ⟨7, by decide⟩,
          .recordTraffic "v".toList ⟨3, by decide⟩ ⟨0, by decide⟩, .cleanupUserMetrics "u".toList,
          .recordTraffic "u".toList ⟨2, by decide⟩ ⟨0, by decide⟩]).uploadBytesTotal.valInt := by
  have noWrap : ([Call.recordTraffic "u".toList ⟨5, by decide⟩ ⟨7, by decide⟩,
      .recordTraffic "v".toList ⟨3, by decide⟩ ⟨0, by decide⟩, .cleanupUserMetrics "u".toList,
      .recordTraffic "u".toList ⟨2, by decide⟩ ⟨0, by decide⟩].map Call.uploaded).sum < 2 ^ 64 ∧
      ([Call.recordTraffic "u".toList ⟨5, by decide⟩ ⟨7, by decide⟩,
        .recordTraffic "v".toList ⟨3, by decide⟩ ⟨0, by decide⟩, .cleanupUserMetrics "u".toList,
        .recordTraffic "u".toList ⟨2, by decide⟩ ⟨0, by decide⟩].map Call.downloaded).sum < 2 ^ 64 := by decide
  exact ⟨noWrap, (userTraffic_le_total _ "u".toList noWrap).1⟩

/-! ## Registration -/

/-- A collector of `config.go`. -/
inductive Collector
  | userUploadBytesTotal | userDownloadBytesTotal | userUploadSpeed | userDownloadSpeed
  | activeConnections | connectionsTotal | userActiveConnections | userActiveIPs
  | authenticationAttempts | totalUsers | uploadBytesTotal | downloadBytesTotal
  | relayConnectionErrors | relayPacketErrors | redirectedConnections | serverStartTime
  deriving DecidableEq

/-- The collectors `RegisterAll` and `init` pass to `MustRegister`, in their order. -/
def collectors : List Collector :=
  [.userUploadBytesTotal, .userDownloadBytesTotal, .userUploadSpeed, .userDownloadSpeed,
    .activeConnections, .connectionsTotal, .userActiveConnections, .userActiveIPs,
    .authenticationAttempts, .totalUsers, .uploadBytesTotal, .downloadBytesTotal,
    .relayConnectionErrors, .relayPacketErrors, .redirectedConnections, .serverStartTime]

/-- `MustRegister(cs...)` over the collectors of this package that a registry holds: each in
turn, and a panic (`none`) at the first one that is already registered. -/
def mustRegister (registered : List Collector) : List Collector → Option (List Collector)
  | [] => some registered
  | c :: rest => if c ∈ registered then none else mustRegister (c :: registered) rest

/-- `RegisterAll`; `RegisterDefault` is `RegisterAll` on the default registry. -/
def registerAll (registered : List Collector) : Option (List Collector) := mustRegister registered collectors

/-- `init`, which registers the collectors with the default registry. -/
def init : Option (List Collector) := mustRegister [] collectors

/- `init` registers every collector with the default registry, so `RegisterDefault` panics. -/
example : init.bind registerAll = none := by decide

/-! ## `NewServer` -/

/-- `MetricsConfig`. -/
structure MetricsConfig where
  enabled : Bool
  host : GoString
  port : Int
  path : GoString
  deriving DecidableEq

/-- The defaults of the config creator that `config.go` registers. -/
def MetricsConfig.default : MetricsConfig := ⟨false, "127.0.0.1".toList, 9100, "/metrics".toList⟩

/-- `mux.Handle(pattern, _)` on a `ServeMux` that holds `patterns`; `none` is its panic on a
pattern registered twice. The model covers that panic only: the malformed patterns `Handle` also
rejects, which differ between Go versions, are left out. -/
def handlePattern (patterns : List GoString) (pattern : GoString) : Option (List GoString) :=
  if pattern ∈ patterns then none else some (patterns ++ [pattern])

/-- What `NewServer` gives. -/
inductive NewServerResult
  /-- `nil, nil`: metrics are disabled. -/
  | disabled
  /-- The registration of a route panics. -/
  | panicked
  /-- The server's `Addr` and the patterns of its mux. -/
  | built (addr : GoString) (patterns : List GoString)
  deriving DecidableEq

/-- `NewServer` on the metrics config in its context. -/
def newServer (cfg : MetricsConfig) : NewServerResult :=
  if !cfg.enabled then .disabled
  else
    let addr := cfg.host ++ ':' :: (toString cfg.port).toList
    let path := if cfg.path = [] then "/metrics".toList else cfg.path
    match (handlePattern [] path).bind (handlePattern · "/health".toList) with
    | none => .panicked
    | some patterns => .built addr patterns

/- The default config, enabled, and the same with the metrics path `/health`, which the health
check registers again. -/
example : newServer { MetricsConfig.default with enabled := true } =
      .built "127.0.0.1:9100".toList ["/metrics".toList, "/health".toList] ∧
    newServer { MetricsConfig.default with enabled := true, path := "/health".toList } = .panicked := by
  decide

/-! ## The server

`Start` runs `ListenAndServe` in a goroutine that sends an error other than `ErrServerClosed` on
`errChan`, a channel of capacity 1, and `select`s between that channel and `s.ctx.Done()`. On
`Done` it returns `Close()`, which cancels `s.ctx` and returns `Shutdown`'s result. -/

/-- The capacity of `errChan`, `make(chan error, 1)`. -/
def errChanCapacity : Nat := 1

/-- Where the goroutine running `ListenAndServe` is. -/
inductive Listener
  | serving
  | sending (err : GoString)
  | returned
  deriving DecidableEq

/-- Where `Start` is. -/
inductive Starter
  | selecting
  | closing
  | returned (result : Option GoString)
  deriving DecidableEq

/-- `Start`, its goroutine and what they share. -/
structure Server where
  /-- `s.ctx` is done. -/
  cancelled : Bool
  /-- `s.server.Shutdown` has been called. -/
  shutdown : Bool
  listener : Listener
  errChan : List GoString
  starter : Starter
  deriving DecidableEq

/-- `Start` on the server that `NewServer` built: its goroutine has started, and `Start` is at its
`select`. -/
def started : Server := ⟨false, false, .serving, [], .selecting⟩

/-- Which goroutine moves, and what its environment answers. -/
inductive Action
  /-- The context that `NewServer` was given is cancelled. -/
  | cancel
  /-- `ListenAndServe` returns an error other than `ErrServerClosed`: `net.Listen` fails (also
  after a racing `Shutdown`), or `Serve` does. -/
  | fail (err : GoString)
  /-- `ListenAndServe` returns `ErrServerClosed`, once `Shutdown` has been called. -/
  | serverClosed
  /-- `errChan <- err`. -/
  | send
  /-- `Start`'s `select`; `pickDone` is Go's choice when both cases are ready. -/
  | select (pickDone : Bool)
  /-- `Close`: `s.cancel()`, then `s.server.Shutdown`, which returns `shutdownErr`. -/
  | close (shutdownErr : Option GoString)

/-- One step of `Start`, its goroutine or the environment; `none` when it cannot be taken. -/
def next (s : Server) : Action → Option Server
  | .cancel => if s.cancelled then none else some { s with cancelled := true }
  | .fail err => if s.listener = .serving then some { s with listener := .sending err } else none
  | .serverClosed =>
      if s.listener = .serving ∧ s.shutdown then some { s with listener := .returned } else none
  | .send =>
      match s.listener with
      | .sending err =>
          if s.errChan.length < errChanCapacity then
            some { s with listener := .returned, errChan := s.errChan ++ [err] }
          else none
      | _ => none
  | .select pickDone =>
      if s.starter = .selecting then
        match selectReceive s.cancelled pickDone s.errChan with
        | some (some (err, rest)) => some { s with errChan := rest, starter := .returned (some err) }
        | some none => some { s with starter := .closing }
        | none => none
      else none
  | .close shutdownErr =>
      if s.starter = .closing then
        some { s with cancelled := true, shutdown := true, starter := .returned shutdownErr }
      else none

/- A listen error that races with the cancellation is lost: the listener sends it, but `Start`'s
`select` takes `Done`, and `Close` returns `Shutdown`'s `nil`, so `RunMetricsServer` logs nothing.
The error stays in `errChan`. -/
example : runSteps next started [.fail "bind".toList, .send, .cancel, .select true, .close none] =
    some ⟨true, true, .returned, ["bind".toList], .returned none⟩ := rfl

end TrojanGo.Metrics

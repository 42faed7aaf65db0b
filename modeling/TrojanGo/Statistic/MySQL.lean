import TrojanGo.Statistic.Memory
import Mathlib.Algebra.BigOperators.Group.List
import Mathlib.Tactic.Abel

/-!
# The MySQL backend

`updater` of `statistic/mysql/mysql.go`. Each round first flushes every user's counters into
the `users` table, one `UPDATE` per user, and then reloads the set of users from a `SELECT` over
the table. The database is the environment: which statements fail, what `RowsAffected`
answers and where `Scan` stops make up a round's `RoundFaults`. Between rounds the server
charges traffic to its users.

A round always leaves every counter at zero, and it reports, in the statements it runs, exactly
the traffic it took from the counters (`updaterRound_reported`). Over a whole run, the traffic
charged to a user is what its statements carry plus what its counters still hold; the traffic
of a statement that failed is not in the table.
-/

set_option autoImplicit false

namespace TrojanGo.Statistic

/-! ## The table and the database -/

/-- A row of the `users` table, as `SELECT password,quota,download,upload` reads it. -/
structure Row where
  password : GoString
  quota : Int
  download : Int
  upload : Int
  deriving DecidableEq, Repr

/-- Go's `+` on `int64`: the sum wraps into `[-2^63, 2^63)`. -/
def int64Add (a b : Int) : Int := (a + b).bmod (2 ^ 64)

/-- The test of the `rows.Next()` loop: `download+upload < quota || quota < 0` adds the user. -/
def admits (row : Row) : Bool := int64Add row.download row.upload < row.quota || row.quota < 0

/-- The `UPDATE` of one user: `upload` and `download` of every row with that password grow by
the two arguments. -/
def updateRows (table : List Row) (upload download : Nat) (hash : GoString) : List Row :=
  table.map fun row =>
    if row.password = hash then { row with upload := row.upload + upload, download := row.download + download }
    else row

/-- What `s.RowsAffected()` returns: the count, and whether it failed. -/
structure ExecResult where
  rowsAffected : Int
  rowsAffectedFails : Bool
  deriving DecidableEq, Repr

/-- What the database does in one round: the result of each user's `UPDATE` (`none` is an error
of `a.db.Exec`), whether the `SELECT` fails (its error or `rows.Err()`), and the row at which
`rows.Scan` first fails, if one does. -/
structure RoundFaults where
  exec : GoString → Option ExecResult
  queryFails : Bool
  scanFailsAt : Option Nat

/-- One `UPDATE` the updater ran: the user, the increments of `download` and `upload`, and
whether `Exec` succeeded. -/
structure Statement where
  hash : GoString
  download : Nat
  upload : Nat
  applied : Bool
  deriving DecidableEq, Repr

/-- The increments of a statement as a pair `(sent, recv)`: `download` carries what was sent. -/
def Statement.amount (st : Statement) : Nat × Nat := (st.download, st.upload)

/-- The backend: the authenticator it shares with the server, and the `users` table. -/
structure Server where
  auth : Authenticator
  table : List Row

/-! ## One round of `updater` -/

/-- One pass of the `ListUsers` loop for `hash`: `ResetTraffic`, the `UPDATE` with upload and
download swapped, and then the test of `RowsAffected` as the code writes it, which deletes the
user only when `RowsAffected` itself fails with a count of zero. -/
def flushUser (faults : RoundFaults) (st : Server × List Statement) (hash : GoString) :
    Server × List Statement :=
  let reset := st.1.auth.resetTraffic hash
  let sent := reset.1.1
  let recv := reset.1.2
  match faults.exec hash with
  | none => (⟨reset.2, st.1.table⟩, st.2 ++ [⟨hash, sent, recv, false⟩])
  | some result =>
      let auth :=
        if result.rowsAffectedFails ∧ result.rowsAffected = 0 then reset.2.delUser hash else reset.2
      (⟨auth, updateRows st.1.table recv sent hash⟩, st.2 ++ [⟨hash, sent, recv, true⟩])

/-- The body of the `rows.Next()` loop for one row. -/
def pullRow (auth : Authenticator) (row : Row) : Authenticator :=
  if admits row then auth.addUser row.password else auth.delUser row.password

/-- The rows the `rows.Next()` loop reaches: all of them, or those before the first failed
`Scan`. -/
def scannedRows (faults : RoundFaults) (table : List Row) : List Row :=
  match faults.scanFailsAt with
  | none => table
  | some failed => table.take failed

/-- The `SELECT` and its loop; a failed query leaves the users as they are. -/
def pull (faults : RoundFaults) (table : List Row) (auth : Authenticator) : Authenticator :=
  if faults.queryFails then auth else (scannedRows faults table).foldl pullRow auth

/-- One round of the `updater` loop: the flush over the users `ListUsers` returned, then the
`SELECT`. It returns the backend after the round and the statements it ran. -/
def updaterRound (faults : RoundFaults) (s : Server) : Server × List Statement :=
  let flushed := s.auth.hashes.foldl (flushUser faults) (s, [])
  (⟨pull faults flushed.1.table flushed.1.auth, flushed.1.table⟩, flushed.2)

/-! ## Runs -/

/-- What happens to the backend: the server charges traffic to a user (`AuthUser`, then
`AddTraffic`), or the updater runs a round. -/
inductive Event
  | charge (hash : GoString) (sent recv : Nat)
  | round (faults : RoundFaults)

/-- One event, with the statements it ran. -/
def step (s : Server) : Event → Server × List Statement
  | .charge hash sent recv => (⟨s.auth.addTraffic hash sent recv, s.table⟩, [])
  | .round faults => updaterRound faults s

/-- A run: the backend after the events, and every statement run on the way. -/
def run (s : Server) : List Event → Server × List Statement
  | [] => (s, [])
  | e :: rest => ((run (step s e).1 rest).1, (step s e).2 ++ (run (step s e).1 rest).2)

/-- `hash` is a user in every state of the run: it is never deleted. -/
def Present (hash : GoString) : Server → List Event → Prop
  | s, [] => hash ∈ s.auth.hashes
  | s, e :: rest => hash ∈ s.auth.hashes ∧ Present hash (step s e).1 rest

instance decidablePresent (hash : GoString) : (s : Server) → (evs : List Event) →
    Decidable (Present hash s evs)
  | s, [] => inferInstanceAs (Decidable (hash ∈ s.auth.hashes))
  | s, e :: rest =>
      @instDecidableAnd _ _ (inferInstanceAs (Decidable (hash ∈ s.auth.hashes)))
        (decidablePresent hash (step s e).1 rest)

/-- The traffic an event charges to `hash`, as `(sent, recv)`. -/
def Event.charges (hash : GoString) : Event → Nat × Nat
  | .charge other sent recv => if other = hash then (sent, recv) else 0
  | .round _ => 0

/-- The traffic the events of a run charge to `hash`. -/
def charged (hash : GoString) (evs : List Event) : Nat × Nat := (evs.map (Event.charges hash)).sum

/-- The increments that the statements for `hash` carried, over those that succeeded
(`applied = true`) or those that failed (`applied = false`). -/
def increments (applied : Bool) (hash : GoString) (log : List Statement) : Nat × Nat :=
  ((log.filter fun st => st.hash = hash ∧ st.applied = applied).map Statement.amount).sum

/-- Everything the statements for `hash` carried, whether they succeeded or not. -/
def reported (hash : GoString) (log : List Statement) : Nat × Nat :=
  increments true hash log + increments false hash log

@[simp] theorem increments_append (applied : Bool) (hash : GoString) (log log' : List Statement) :
    increments applied hash (log ++ log') = increments applied hash log + increments applied hash log' := by
  simp [increments, List.filter_append]

theorem reported_append (hash : GoString) (log log' : List Statement) :
    reported hash (log ++ log') = reported hash log + reported hash log' := by
  simp only [reported, increments_append]
  abel

theorem reported_statement (hash : GoString) (st : Statement) :
    reported hash [st] = if st.hash = hash then st.amount else 0 := by
  cases applied : st.applied <;> by_cases same : st.hash = hash <;>
    simp [reported, increments, List.filter_cons, applied, same]

/-! ## The flush -/

theorem flushUser_traffic (faults : RoundFaults) (st : Server × List Statement) (hash : GoString) :
    (flushUser faults st hash).1.auth.traffic = Function.update st.1.auth.traffic hash 0 := by
  unfold flushUser
  split
  · rfl
  · dsimp only
    split <;> simp

/-- A pass reports the counters it resets. -/
theorem flushUser_reported (faults : RoundFaults) (st : Server × List Statement)
    (hash x : GoString) :
    reported x (flushUser faults st hash).2 =
      reported x st.2 + if hash = x then st.1.auth.traffic hash else 0 := by
  unfold flushUser
  split <;> simp [reported_append, reported_statement, Statement.amount]

theorem flush_traffic (faults : RoundFaults) (hashes : List GoString)
    (st : Server × List Statement) (x : GoString) :
    (hashes.foldl (flushUser faults) st).1.auth.traffic x =
      if x ∈ hashes then 0 else st.1.auth.traffic x := by
  induction hashes generalizing st with
  | nil => simp
  | cons hash rest ih =>
      rw [List.foldl_cons, ih, flushUser_traffic]
      by_cases same : x = hash
      · subst same
        simp
      · simp [same, Function.update_noteq same]

/-- The flush moves traffic from the counters into statements and loses none on the way. -/
theorem flush_accounts (faults : RoundFaults) (hashes : List GoString)
    (st : Server × List Statement) (x : GoString) :
    reported x (hashes.foldl (flushUser faults) st).2 + (hashes.foldl (flushUser faults) st).1.auth.traffic x =
      reported x st.2 + st.1.auth.traffic x := by
  induction hashes generalizing st with
  | nil => rfl
  | cons hash rest ih =>
      rw [List.foldl_cons, ih, flushUser_reported, flushUser_traffic]
      by_cases same : hash = x
      · subst same
        simp
      · simp [same, Ne.symm same]

/-! ## The reload -/

theorem mem_pullRow (auth : Authenticator) (row : Row) (x : GoString) :
    x ∈ (pullRow auth row).hashes ↔ if row.password = x then admits row = true else x ∈ auth.hashes := by
  unfold pullRow
  by_cases same : row.password = x
  · cases admits row <;> simp [same]
  · cases admits row <;> simp [same, Ne.symm same]

theorem traffic_pullRow (auth : Authenticator) (row : Row) (idle : auth.traffic = 0) :
    (pullRow auth row).traffic = 0 := by
  unfold pullRow
  split <;> simp [idle]

/-- The last row for `x` that the loop reaches. -/
def lastRow (rows : List Row) (x : GoString) : Option Row := rows.reverse.find? (·.password = x)

/-- After the `rows.Next()` loop, the last row of a user decides whether it is one; a hash with
no row keeps what it was. -/
theorem mem_foldl_pullRow (rows : List Row) (auth : Authenticator) (x : GoString) :
    x ∈ (rows.foldl pullRow auth).hashes ↔
      match lastRow rows x with
      | some row => admits row = true
      | none => x ∈ auth.hashes := by
  induction rows using List.reverseRecOn with
  | nil => rfl
  | append_singleton init row ih =>
      rw [List.foldl_append, List.foldl_cons, List.foldl_nil, mem_pullRow, ih]
      by_cases same : row.password = x <;> simp [lastRow, same]

theorem traffic_pull (faults : RoundFaults) (table : List Row) (auth : Authenticator)
    (idle : auth.traffic = 0) : (pull faults table auth).traffic = 0 := by
  unfold pull
  split
  · exact idle
  · generalize scannedRows faults table = rows
    induction rows generalizing auth with
    | nil => exact idle
    | cons row rest ih => exact ih _ (traffic_pullRow auth row idle)

/-! ## A whole round -/

theorem flush_traffic_eq_zero (faults : RoundFaults) (s : Server) :
    (s.auth.hashes.foldl (flushUser faults) (s, [])).1.auth.traffic = 0 := by
  funext x
  rw [flush_traffic]
  split
  · rfl
  · exact s.auth.idle x ‹_›

/-- A round leaves every counter at zero. -/
theorem updaterRound_traffic (faults : RoundFaults) (s : Server) :
    (updaterRound faults s).1.auth.traffic = 0 :=
  traffic_pull _ _ _ (flush_traffic_eq_zero faults s)

/-- The statements of a round carry exactly the counters the round started from. -/
theorem updaterRound_reported (faults : RoundFaults) (s : Server) (x : GoString) :
    reported x (updaterRound faults s).2 = s.auth.traffic x := by
  have accounts := flush_accounts faults s.auth.hashes (s, []) x
  rw [flush_traffic_eq_zero] at accounts
  simpa [reported, increments] using accounts

/-- The round of the specification: every `UPDATE` and its `RowsAffected` succeed, and so does
the `SELECT` and every `Scan`. -/
structure RoundFaults.Succeeds (faults : RoundFaults) : Prop where
  exec : ∀ hash, ∃ rowsAffected, faults.exec hash = some ⟨rowsAffected, false⟩
  query : faults.queryFails = false
  scan : faults.scanFailsAt = none

theorem flushUser_keeps (faults : RoundFaults) (succeeds : faults.Succeeds)
    (st : Server × List Statement) (hash : GoString) :
    (flushUser faults st hash).1.auth.hashes = st.1.auth.hashes ∧
      (flushUser faults st hash).1.table.map Row.password = st.1.table.map Row.password := by
  obtain ⟨rowsAffected, updated⟩ := succeeds.exec hash
  simp only [flushUser, updated, Bool.false_eq_true, false_and, ite_false, updateRows,
    List.map_map]
  refine ⟨rfl, List.map_congr_left fun row _ => ?_⟩
  by_cases same : row.password = hash <;> simp [same]

theorem flush_keeps (faults : RoundFaults) (succeeds : faults.Succeeds) (hashes : List GoString)
    (st : Server × List Statement) :
    (hashes.foldl (flushUser faults) st).1.auth.hashes = st.1.auth.hashes ∧
      (hashes.foldl (flushUser faults) st).1.table.map Row.password = st.1.table.map Row.password := by
  induction hashes generalizing st with
  | nil => exact ⟨rfl, rfl⟩
  | cons hash rest ih =>
      obtain ⟨users, passwords⟩ := flushUser_keeps faults succeeds st hash
      rw [List.foldl_cons, (ih _).1, (ih _).2, users, passwords]
      exact ⟨rfl, rfl⟩

theorem lastRow_eq_none {rows : List Row} {x : GoString} (absent : x ∉ rows.map Row.password) :
    lastRow rows x = none := by
  simp only [lastRow, List.find?_eq_none, List.mem_reverse, decide_eq_true_eq]
  exact fun row member same => absent (List.mem_map.mpr ⟨row, member, same⟩)

/-- A user that has no row in the table survives a round in which the database answers every
statement: the `UPDATE` succeeds with zero rows, `RowsAffected` does not fail, and so the code
never deletes it. The reloaded table has no row for it either. -/
theorem updaterRound_keeps_user_without_row (faults : RoundFaults) (succeeds : faults.Succeeds)
    (s : Server) (hash : GoString) (user : hash ∈ s.auth.hashes)
    (noRow : hash ∉ s.table.map Row.password) :
    hash ∈ (updaterRound faults s).1.auth.hashes ∧
      hash ∉ ((updaterRound faults s).1.table.filter admits).map Row.password := by
  obtain ⟨users, passwords⟩ := flush_keeps faults succeeds s.auth.hashes (s, [])
  have flushedNoRow : hash ∉ (s.auth.hashes.foldl (flushUser faults) (s, [])).1.table.map Row.password := by
    rw [passwords]
    exact noRow
  refine ⟨?_, fun member => flushedNoRow (List.map_subset _ (List.filter_sublist _).subset member)⟩
  simp only [updaterRound, pull, succeeds.query, succeeds.scan, scannedRows,
    Bool.false_eq_true, ite_false]
  rw [mem_foldl_pullRow, lastRow_eq_none flushedNoRow, users]
  exact user

theorem updaterRound_keeps_user_without_row_of_empty_table :
    RoundFaults.Succeeds ⟨fun _ => some ⟨0, false⟩, false, none⟩ ∧
      "a".toList ∈ (Authenticator.empty.addUser "a".toList).hashes ∧
      "a".toList ∉ ([] : List Row).map Row.password ∧
      "a".toList ∈
        (updaterRound ⟨fun _ => some ⟨0, false⟩, false, none⟩
          ⟨Authenticator.empty.addUser "a".toList, []⟩).1.auth.hashes ∧
      "a".toList ∉
        ((updaterRound ⟨fun _ => some ⟨0, false⟩, false, none⟩
          ⟨Authenticator.empty.addUser "a".toList, []⟩).1.table.filter admits).map Row.password := by
  have succeeds : RoundFaults.Succeeds ⟨fun _ => some ⟨0, false⟩, false, none⟩ :=
    ⟨fun _ => ⟨0, rfl⟩, rfl, rfl⟩
  have user : "a".toList ∈ (Authenticator.empty.addUser "a".toList).hashes := by decide
  have noRow : "a".toList ∉ ([] : List Row).map Row.password := by decide
  exact ⟨succeeds, user, noRow,
    updaterRound_keeps_user_without_row _ succeeds ⟨Authenticator.empty.addUser "a".toList, []⟩
      "a".toList user noRow⟩

/-! ## Traffic over a run -/

/-- One event: the counters before and the traffic charged are the statements' increments and
the counters after, for a user present when it is charged. -/
theorem step_accounts (s : Server) (e : Event) (hash : GoString) (user : hash ∈ s.auth.hashes) :
    s.auth.traffic hash + e.charges hash = reported hash (step s e).2 + (step s e).1.auth.traffic hash := by
  cases e with
  | charge other sent recv =>
      by_cases same : hash = other
      · subst same
        simp [step, Event.charges, Authenticator.traffic_addTraffic, user, reported, increments]
      · simp [step, Event.charges, Authenticator.traffic_addTraffic, same, Ne.symm same, reported,
          increments]
  | round faults =>
      simp [step, Event.charges, updaterRound_reported, updaterRound_traffic]

theorem run_accounts (s : Server) (evs : List Event) (hash : GoString) (present : Present hash s evs) :
    s.auth.traffic hash + charged hash evs = reported hash (run s evs).2 + (run s evs).1.auth.traffic hash := by
  induction evs generalizing s with
  | nil => simp [charged, run, reported, increments]
  | cons e rest ih =>
      have now := step_accounts s e hash present.1
      have later := ih (step s e).1 present.2
      simp only [charged, List.map_cons, List.sum_cons] at later ⊢
      calc s.auth.traffic hash + (e.charges hash + (rest.map (Event.charges hash)).sum)
          = (s.auth.traffic hash + e.charges hash) + (rest.map (Event.charges hash)).sum := by abel
        _ = reported hash (step s e).2 +
              ((step s e).1.auth.traffic hash + (rest.map (Event.charges hash)).sum) := by
            rw [now]; abel
        _ = reported hash (run s (e :: rest)).2 + (run s (e :: rest)).1.auth.traffic hash := by
            rw [later]; simp only [run, reported_append]; abel

/-- Over every run, for every user that is never deleted: the counters it started with and the
traffic charged to it equal the increments of its `UPDATE`s that succeeded, plus those of its
`UPDATE`s that failed, plus its counters now. Component 1 is `sent` and `download`, component 2
is `recv` and `upload`. -/
theorem run_traffic_accounted (s : Server) (evs : List Event) (hash : GoString)
    (present : Present hash s evs) :
    s.auth.traffic hash + charged hash evs =
      increments true hash (run s evs).2 + increments false hash (run s evs).2 +
        (run s evs).1.auth.traffic hash :=
  run_accounts s evs hash present

theorem run_traffic_accounted_through_failed_update :
    Present "a".toList ⟨Authenticator.empty.addUser "a".toList, [⟨"a".toList, -1, 0, 0⟩]⟩
        [.charge "a".toList 0 5, .round ⟨fun _ => none, false, none⟩] ∧
      (Authenticator.empty.addUser "a".toList).traffic "a".toList +
          charged "a".toList [.charge "a".toList 0 5, .round ⟨fun _ => none, false, none⟩] =
        increments true "a".toList
            (run ⟨Authenticator.empty.addUser "a".toList, [⟨"a".toList, -1, 0, 0⟩]⟩
              [.charge "a".toList 0 5, .round ⟨fun _ => none, false, none⟩]).2 +
          increments false "a".toList
            (run ⟨Authenticator.empty.addUser "a".toList, [⟨"a".toList, -1, 0, 0⟩]⟩
              [.charge "a".toList 0 5, .round ⟨fun _ => none, false, none⟩]).2 +
          (run ⟨Authenticator.empty.addUser "a".toList, [⟨"a".toList, -1, 0, 0⟩]⟩
              [.charge "a".toList 0 5, .round ⟨fun _ => none, false, none⟩]).1.auth.traffic "a".toList := by
  have present : Present "a".toList ⟨Authenticator.empty.addUser "a".toList, [⟨"a".toList, -1, 0, 0⟩]⟩
      [.charge "a".toList 0 5, .round ⟨fun _ => none, false, none⟩] := by decide
  exact ⟨present, run_traffic_accounted _ _ _ present⟩

/-- A user charged 5 bytes of `recv`, then a round whose `UPDATE` fails: the bytes were taken
from the counter and written nowhere, so the charged traffic is not the written increments plus
the counters. -/
theorem updater_drops_traffic_of_failed_update :
    Present "a".toList ⟨Authenticator.empty.addUser "a".toList, [⟨"a".toList, -1, 0, 0⟩]⟩
        [.charge "a".toList 0 5, .round ⟨fun _ => none, false, none⟩] ∧
      charged "a".toList [.charge "a".toList 0 5, .round ⟨fun _ => none, false, none⟩] ≠
        increments true "a".toList
            (run ⟨Authenticator.empty.addUser "a".toList, [⟨"a".toList, -1, 0, 0⟩]⟩
              [.charge "a".toList 0 5, .round ⟨fun _ => none, false, none⟩]).2 +
          (run ⟨Authenticator.empty.addUser "a".toList, [⟨"a".toList, -1, 0, 0⟩]⟩
              [.charge "a".toList 0 5, .round ⟨fun _ => none, false, none⟩]).1.auth.traffic "a".toList := by
  decide

end TrojanGo.Statistic

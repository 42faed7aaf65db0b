import TrojanGo.Go.Runs
import Mathlib.Data.List.Basic

/-!
# The http tunnel server

`tunnel/http/server.go` as a message-passing system: the accept loop, one goroutine per
connection it obtains from the underlay, the buffered `connChan`, the consumers that call
`AcceptConn`, and `Close`. The environment chooses what the underlay and the relay answer and
which ready case a `select` takes.

Every connection a goroutine has returned from is closed, still waits in `connChan`, was returned
by `AcceptConn`, or had a first request that `http.ReadRequest` refused
(`reachable_accounted`). So a connection left open once everything has stopped waits in
`connChan` or had a malformed first request (`leaked_of_quiescent`). The last case is a leak: that
path returns without `conn.Close()`, and a closed server can end with such a connection neither
delivered nor closed (`http_server_leaks_malformed_request`).
-/

set_option autoImplicit false

namespace TrojanGo.Http

/-- The capacity of `connChan`, `make(chan tunnel.Conn, 32)`. -/
def connChanCapacity : Nat := 32

/-- What the first bytes of a connection make of its goroutine's first steps: `http.ReadRequest`
fails, or a `CONNECT` request (whether `tunnel.NewAddressFromAddr` accepts its host, and
whether writing the `200 Connection established` answer succeeds), or any other method. -/
inductive FirstRequest
  | malformed
  | connect (hostValid written : Bool)
  | other
  deriving DecidableEq, Repr

/-- Where the goroutine serving one connection is. -/
inductive Task
  /-- At `http.ReadRequest`. -/
  | reading
  /-- At `s.connChan <- &ConnectConn{...}`. -/
  | sendingConnect
  /-- At `s.connChan <- newConn`, with `conn.Close()` deferred. -/
  | sendingOther
  /-- Writing the request into the pipe, reading the response, writing it back, and reading the
  next request. -/
  | relaying
  | returned
  deriving DecidableEq, Repr

/-- One connection the server obtained, with the goroutine that serves it. -/
structure Conn where
  task : Task
  /-- What the goroutine's first `http.ReadRequest` found. -/
  request : Option FirstRequest
  /-- The server called `conn.Close()`. -/
  closed : Bool
  deriving DecidableEq, Repr

/-- The server: connection `i` is the `i`-th one the underlay gave; `connChan` and `delivered`
hold indices of connections, one entry per wrapper (`ConnectConn` or `OtherConn`). -/
structure Server where
  /-- `s.ctx` is done. -/
  cancelled : Bool
  underlayClosed : Bool
  /-- The accept loop has not returned. -/
  looping : Bool
  conns : List Conn
  connChan : List Nat
  /-- The wrappers that an `AcceptConn` returned, in order. -/
  delivered : List Nat
  deriving DecidableEq, Repr

/-- `NewServer`: the accept loop is started. -/
def init : Server := ⟨false, false, true, [], [], []⟩

/-- Which goroutine moves, and what its environment answers. -/
inductive Action
  /-- The accept loop's `s.underlay.AcceptConn`, while the underlay is open: a new connection, or
  an error. -/
  | accept (succeeds : Bool)
  /-- The first request of a connection's goroutine. -/
  | read (conn : Nat) (request : FirstRequest)
  /-- A goroutine's send on `connChan`. -/
  | send (conn : Nat)
  /-- One exchange of a non-`CONNECT` session with the relay: another request follows, or some
  step of it fails. -/
  | relay (conn : Nat) (again : Bool)
  /-- A consumer's `AcceptConn`: the case `select` takes when both are ready. -/
  | acceptConn (pickDone : Bool)
  /-- `Close`: `s.cancel()`. -/
  | cancel
  /-- `Close`: `s.underlay.Close()`. -/
  | closeUnderlay

def Server.setConn (s : Server) (i : Nat) (c : Conn) : Server := { s with conns := s.conns.set i c }

/-- The goroutine after `http.ReadRequest` and the `CONNECT` checks. A refused request returns
without closing the connection; the two failures of `CONNECT` close it. -/
def afterRead (request : FirstRequest) : Conn :=
  match request with
  | .malformed => ⟨.returned, some request, false⟩
  | .connect false _ => ⟨.returned, some request, true⟩
  | .connect true false => ⟨.returned, some request, true⟩
  | .connect true true => ⟨.sendingConnect, some request, false⟩
  | .other => ⟨.sendingOther, some request, false⟩

/-- One step of the server. -/
def next (s : Server) : Action → Option Server
  | .accept succeeds =>
      if !s.looping then none
      else if !s.underlayClosed ∧ succeeds then
        some { s with conns := s.conns ++ [⟨.reading, none, false⟩] }
      else if s.cancelled then some { s with looping := false }
      else some s
  | .read i request =>
      match s.conns[i]? with
      | some ⟨.reading, _, _⟩ => some (s.setConn i (afterRead request))
      | _ => none
  | .send i =>
      match s.conns[i]? with
      | some c =>
          if s.connChan.length < connChanCapacity then
            match c.task with
            | .sendingConnect => some { s.setConn i { c with task := .returned } with connChan := s.connChan ++ [i] }
            | .sendingOther => some { s.setConn i { c with task := .relaying } with connChan := s.connChan ++ [i] }
            | _ => none
          else none
      | none => none
  | .relay i again =>
      match s.conns[i]? with
      | some c =>
          if c.task = .relaying then
            some (s.setConn i
              (if again then { c with task := .sendingOther } else { c with task := .returned, closed := true }))
          else none
      | none => none
  | .acceptConn pickDone =>
      (selectReceive s.cancelled pickDone s.connChan).map fun
        | none => s
        | some (i, rest) => { s with connChan := rest, delivered := s.delivered ++ [i] }
  | .cancel => some { s with cancelled := true }
  | .closeUnderlay => if s.cancelled then some { s with underlayClosed := true } else none

/-! ## Where a connection ends -/

/-- The server is done with a connection: it closed it, or left it as it is after a malformed
first request. -/
def Conn.Settled (c : Conn) : Prop := c.closed = true ∨ c.request = some .malformed

/-- Every connection whose goroutine returned is settled, or a wrapper of it waits in
`connChan` or was delivered. -/
def Accounted (s : Server) : Prop :=
  ∀ i c, s.conns[i]? = some c → c.task = .returned → c.Settled ∨ i ∈ s.connChan ++ s.delivered

/-- A step keeps `Accounted` when every returned connection of the new state is settled, is
wrapped, or was already there, and no wrapper is lost. -/
theorem Accounted.of_step {s s' : Server} (accounted : Accounted s)
    (each : ∀ i c, s'.conns[i]? = some c → c.task = .returned →
      c.Settled ∨ i ∈ s'.connChan ++ s'.delivered ∨ s.conns[i]? = some c)
    (kept : s.connChan ++ s.delivered ⊆ s'.connChan ++ s'.delivered) : Accounted s' := by
  intro i c found returned
  rcases each i c found returned with settled | wrapped | old
  · exact .inl settled
  · exact .inr wrapped
  · exact (accounted i c old returned).imp_right (@kept i)

theorem getElem?_setConn (s : Server) (i j : Nat) (c : Conn) :
    (s.setConn i c).conns[j]? = if i = j ∧ i < s.conns.length then some c else s.conns[j]? := by
  simp only [Server.setConn, List.getElem?_set]
  by_cases same : i = j
  · subst same
    by_cases inside : i < s.conns.length
    · simp [inside]
    · simp [inside, List.getElem?_eq_none (Nat.le_of_not_lt inside)]
  · simp [same]

/-- After replacing connection `i`, a connection is the new one or an old one. -/
theorem setConn_found {s : Server} {i j : Nat} {c c' : Conn}
    (found : (s.setConn i c).conns[j]? = some c') : (i = j ∧ c' = c) ∨ s.conns[j]? = some c' := by
  rw [getElem?_setConn] at found
  split at found
  · exact .inl ⟨‹i = j ∧ _›.1, (Option.some.inj found).symm⟩
  · exact .inr found

/-- The goroutine returns after its first request only on the paths that settle the
connection. -/
theorem afterRead_settled (request : FirstRequest) (returned : (afterRead request).task = .returned) :
    (afterRead request).Settled := by
  cases request with
  | malformed => exact .inr rfl
  | connect hostValid written => cases hostValid <;> cases written <;> first | exact .inl rfl | cases returned
  | other => cases returned

theorem next_accounted {s s' : Server} {a : Action} (accounted : Accounted s)
    (stepped : next s a = some s') : Accounted s' := by
  cases a with
  | accept succeeds =>
      simp only [next] at stepped
      split_ifs at stepped <;> cases stepped
      · refine accounted.of_step (fun i c found returned => .inr (.inr ?_)) (List.Subset.refl _)
        rcases Nat.lt_or_ge i s.conns.length with old | new
        · rwa [List.getElem?_append_left old] at found
        · rw [List.getElem?_append_right new] at found
          cases h : i - s.conns.length <;> simp [h] at found
          subst found
          cases returned
      all_goals exact accounted
  | read i request =>
      simp only [next] at stepped
      split at stepped
      · cases stepped
        refine accounted.of_step (fun j c found returned => ?_) (List.Subset.refl _)
        rcases setConn_found found with ⟨-, rfl⟩ | old
        · exact .inl (afterRead_settled request returned)
        · exact .inr (.inr old)
      · cases stepped
  | send i =>
      simp only [next] at stepped
      split at stepped
      · split_ifs at stepped
        split at stepped <;> cases stepped
        all_goals
          refine accounted.of_step (fun j c found _ => ?_) (fun k => by simp; tauto)
          rcases setConn_found found with ⟨rfl, -⟩ | old
          · exact .inr (.inl (by simp))
          · exact .inr (.inr old)
      · cases stepped
  | relay i again =>
      simp only [next] at stepped
      split at stepped
      · split_ifs at stepped <;> cases stepped
        all_goals
          refine accounted.of_step (fun j c found returned => ?_) (List.Subset.refl _)
          rcases setConn_found found with ⟨-, rfl⟩ | old
          · first | exact .inl (.inl rfl) | cases returned
          · exact .inr (.inr old)
      · cases stepped
  | acceptConn pickDone =>
      simp only [next] at stepped
      obtain ⟨received, received_eq, rfl⟩ := Option.map_eq_some'.mp stepped
      rcases received with _ | ⟨head, rest⟩
      · exact accounted
      · refine accounted.of_step (fun j c found _ => .inr (.inr found)) fun k => ?_
        simp only [selectReceive_eq_some received_eq, List.cons_append, List.mem_cons, List.mem_append,
          List.mem_singleton]
        tauto
  | cancel =>
      cases stepped
      exact accounted
  | closeUnderlay =>
      simp only [next] at stepped
      split_ifs at stepped
      cases stepped
      exact accounted

/-- In every state of every interleaving, a connection whose goroutine returned is closed, had a
malformed first request, waits in `connChan`, or was delivered. -/
theorem reachable_accounted {s : Server} (reachable : Reachable next init s) : Accounted s :=
  reachable.invariant (fun i c found => by simp [init] at found) fun _ _ _ => next_accounted

/-- The server is closed and none of its goroutines will move again: the accept loop and every
connection's goroutine have returned. -/
def Quiescent (s : Server) : Prop :=
  s.cancelled = true ∧ s.underlayClosed = true ∧ s.looping = false ∧ ∀ c ∈ s.conns, c.task = .returned

instance : DecidablePred Quiescent := fun s =>
  inferInstanceAs (Decidable (s.cancelled = true ∧ s.underlayClosed = true ∧ s.looping = false ∧
    ∀ c ∈ s.conns, c.task = .returned))

/-- Connection `i` was obtained, and is neither closed by the server nor returned by an
`AcceptConn`. -/
def Leaked (s : Server) (i : Nat) : Prop :=
  ∃ c ∈ s.conns[i]?, c.closed = false ∧ i ∉ s.delivered

instance (s : Server) (i : Nat) : Decidable (Leaked s i) :=
  inferInstanceAs (Decidable (∃ c ∈ s.conns[i]?, c.closed = false ∧ i ∉ s.delivered))

/-- A connection left over in a quiescent state waits in `connChan`, or its first request was
malformed. -/
theorem leaked_of_quiescent {s : Server} (reachable : Reachable next init s)
    (quiescent : Quiescent s) {i : Nat} (leaked : Leaked s i) :
    i ∈ s.connChan ∨ ∃ c ∈ s.conns[i]?, c.request = some .malformed := by
  obtain ⟨c, found, open_, undelivered⟩ := leaked
  have returned := quiescent.2.2.2 c (List.mem_iff_getElem?.mpr ⟨i, found⟩)
  rcases reachable_accounted reachable i c found returned with (closed | malformed) | wrapped
  · simp [open_] at closed
  · exact .inr ⟨c, found, malformed⟩
  · exact (List.mem_append.mp wrapped).imp_right (absurd · undelivered)

/-- A `CONNECT` connection that the goroutine put in `connChan`, and a server closed before any
consumer called `AcceptConn`: the connection is left open in the channel. -/
theorem leaked_of_quiescent_in_connChan :
    ∃ s, Reachable next init s ∧ Quiescent s ∧ Leaked s 0 ∧
      (0 ∈ s.connChan ∨ ∃ c ∈ s.conns[0]?, c.request = some .malformed) := by
  obtain ⟨s, reachable, holds⟩ := reachable_of_runSteps next init
    [.accept true, .read 0 (.connect true true), .send 0, .cancel, .closeUnderlay, .accept false]
    (fun s => decide (Quiescent s ∧ Leaked s 0)) (by decide)
  obtain ⟨quiescent, leaked⟩ := of_decide_eq_true holds
  exact ⟨s, reachable, quiescent, leaked, leaked_of_quiescent reachable quiescent leaked⟩

/-- A connection whose first bytes are not an HTTP request: the goroutine logs the error and
returns without `conn.Close()`. After `Close`, the accept loop returns too, and the connection is
never closed nor handed to a consumer. -/
theorem http_server_leaks_malformed_request :
    ∃ s, Reachable next init s ∧ Quiescent s ∧ Leaked s 0 := by
  obtain ⟨s, reachable, holds⟩ := reachable_of_runSteps next init
    [.accept true, .read 0 .malformed, .cancel, .closeUnderlay, .accept false]
    (fun s => decide (Quiescent s ∧ Leaked s 0)) (by decide)
  exact ⟨s, reachable, of_decide_eq_true holds⟩

end TrojanGo.Http

import TrojanGo.Go.Runs
import Mathlib.Data.List.Basic

/-!
# The simplesocks tunnel server

The `simplesocks` server of `tunnel/simplesocks` as a message-passing system: the accept loop,
which reads each connection's header itself and sends the connection to `connChan` or
`packetChan`, the consumers' `AcceptConn` and `AcceptPacket`, and `Close`.

Each connection the loop obtains has exactly one owner in every state of every interleaving: the
loop, one of the two channels, one consumer, or the closed connections (`reachable_ownedOnce`).
So no connection is delivered twice (`delivered_at_most_once`), and a malformed or unknown header
always closes it. What a closed server can still strand is a connection left in a channel
(`stranded_in_channel`).
-/

set_option autoImplicit false

namespace TrojanGo.SimpleSocks

/-- The capacity of `connChan` and of `packetChan`, `make(chan ..., 32)`. -/
def chanCapacity : Nat := 32

/-- What `metadata.ReadFrom(conn)` finds: an error, or the command `Connect`, `Associate`, or
another one. -/
inductive Header
  | malformed
  | connect
  | associate
  | unknown
  deriving DecidableEq, Repr

/-- Where the accept loop is, with the connection it holds. -/
inductive Loop
  | accepting
  | readingHeader (conn : Nat)
  | sendingConn (conn : Nat)
  | sendingPacket (conn : Nat)
  | returned
  deriving DecidableEq, Repr

/-- The server. Connection `i` is the `i`-th one the underlay gave; the lists hold indices. -/
structure Server where
  /-- `s.ctx` is done. -/
  cancelled : Bool
  underlayClosed : Bool
  loop : Loop
  /-- How many connections the underlay gave. -/
  obtained : Nat
  /-- The connections the server closed. -/
  closed : List Nat
  connChan : List Nat
  packetChan : List Nat
  /-- The connections an `AcceptConn` returned. -/
  deliveredConns : List Nat
  /-- The connections an `AcceptPacket` returned, inside a `PacketConn`. -/
  deliveredPackets : List Nat
  deriving DecidableEq, Repr

/-- `NewServer`: the accept loop is started. -/
def init : Server := ⟨false, false, .accepting, 0, [], [], [], [], []⟩

/-- Which goroutine moves, and what its environment answers. -/
inductive Action
  /-- The loop's `s.underlay.AcceptConn`, while the underlay is open: a connection, or an error. -/
  | accept (succeeds : Bool)
  /-- The loop's `metadata.ReadFrom(conn)`. -/
  | header (header : Header)
  /-- The loop's send on `connChan` or `packetChan`. -/
  | send
  /-- A consumer's `AcceptConn`: the case `select` takes when both are ready. -/
  | acceptConn (pickDone : Bool)
  /-- A consumer's `AcceptPacket`. -/
  | acceptPacket (pickDone : Bool)
  /-- `Close`: `s.cancel()`. -/
  | cancel
  /-- `Close`: `s.underlay.Close()`. -/
  | closeUnderlay

/-- One step of the server. -/
def next (s : Server) : Action → Option Server
  | .accept succeeds =>
      match s.loop with
      | .accepting =>
          if !s.underlayClosed ∧ succeeds then
            some { s with loop := .readingHeader s.obtained, obtained := s.obtained + 1 }
          else if s.cancelled then some { s with loop := .returned }
          else some s
      | _ => none
  | .header header =>
      match s.loop with
      | .readingHeader i =>
          match header with
          | .malformed | .unknown => some { s with loop := .accepting, closed := s.closed ++ [i] }
          | .connect => some { s with loop := .sendingConn i }
          | .associate => some { s with loop := .sendingPacket i }
      | _ => none
  | .send =>
      match s.loop with
      | .sendingConn i =>
          if s.connChan.length < chanCapacity then
            some { s with loop := .accepting, connChan := s.connChan ++ [i] }
          else none
      | .sendingPacket i =>
          if s.packetChan.length < chanCapacity then
            some { s with loop := .accepting, packetChan := s.packetChan ++ [i] }
          else none
      | _ => none
  | .acceptConn pickDone =>
      (selectReceive s.cancelled pickDone s.connChan).map fun
        | none => s
        | some (i, rest) => { s with connChan := rest, deliveredConns := s.deliveredConns ++ [i] }
  | .acceptPacket pickDone =>
      (selectReceive s.cancelled pickDone s.packetChan).map fun
        | none => s
        | some (i, rest) => { s with packetChan := rest, deliveredPackets := s.deliveredPackets ++ [i] }
  | .cancel => some { s with cancelled := true }
  | .closeUnderlay => if s.cancelled then some { s with underlayClosed := true } else none

/-! ## Every connection has one owner -/

/-- The connection the loop holds, if any. -/
def Loop.held : Loop → Option Nat
  | .readingHeader i | .sendingConn i | .sendingPacket i => some i
  | _ => none

/-- How many places hold connection `i`: the loop, the closed connections, the two channels and
the consumers. -/
def owners (s : Server) (i : Nat) : Nat :=
  (if s.loop.held = some i then 1 else 0) + s.closed.count i + s.connChan.count i +
    s.packetChan.count i + s.deliveredConns.count i + s.deliveredPackets.count i

/-- Every connection the server obtained has exactly one owner, and no other index has one. -/
def OwnedOnce (s : Server) : Prop := ∀ i, owners s i = if i < s.obtained then 1 else 0

/-- A step moves a connection from one owner to another, or the loop takes a new one. -/
theorem next_owners {s s' : Server} {a : Action} (stepped : next s a = some s') (i : Nat) :
    (s'.obtained = s.obtained ∧ owners s' i = owners s i) ∨
      (s'.obtained = s.obtained + 1 ∧ owners s' i = owners s i + if s.obtained = i then 1 else 0) := by
  cases a with
  | accept succeeds =>
      simp only [next] at stepped
      split at stepped
      · rename_i accepting
        split_ifs at stepped <;> cases stepped
        · exact .inr ⟨rfl, by simp [owners, accepting, Loop.held]; omega⟩
        all_goals exact .inl ⟨rfl, by simp [owners, accepting, Loop.held]⟩
      · cases stepped
  | header header =>
      simp only [next] at stepped
      split at stepped
      · rename_i j holding
        refine .inl ⟨?_, ?_⟩ <;> cases header <;> cases stepped <;>
          simp [owners, holding, Loop.held, List.count_append, List.count_singleton'] <;> omega
      · cases stepped
  | send =>
      simp only [next] at stepped
      split at stepped <;> (try split_ifs at stepped) <;> cases stepped
      all_goals
        rename_i j holding _
        exact .inl ⟨rfl, by
          simp [owners, holding, Loop.held, List.count_append, List.count_singleton']; omega⟩
  | acceptConn pickDone | acceptPacket pickDone =>
      simp only [next] at stepped
      obtain ⟨received, received_eq, rfl⟩ := Option.map_eq_some'.mp stepped
      rcases received with _ | ⟨j, rest⟩
      · exact .inl ⟨rfl, rfl⟩
      · refine .inl ⟨rfl, ?_⟩
        simp [owners, selectReceive_eq_some received_eq, List.count_cons, List.count_append,
          List.count_singleton']
        omega
  | cancel =>
      cases stepped
      exact .inl ⟨rfl, rfl⟩
  | closeUnderlay =>
      simp only [next] at stepped
      split_ifs at stepped
      cases stepped
      exact .inl ⟨rfl, rfl⟩

theorem next_ownedOnce {s s' : Server} {a : Action} (owned : OwnedOnce s)
    (stepped : next s a = some s') : OwnedOnce s' := by
  intro i
  have before := owned i
  rcases next_owners stepped i with ⟨obtained, moved⟩ | ⟨obtained, taken⟩
  · rw [moved, before, obtained]
  · rw [taken, before, obtained]
    split_ifs <;> omega

/-- In every state of every interleaving, each connection the server obtained has exactly one
owner. -/
theorem reachable_ownedOnce {s : Server} (reachable : Reachable next init s) : OwnedOnce s :=
  reachable.invariant (fun i => by simp [owners, init, Loop.held]) fun _ _ _ => next_ownedOnce

/-- No connection is returned twice by `AcceptConn` and `AcceptPacket`, nor both returned and
closed. -/
theorem delivered_at_most_once {s : Server} (reachable : Reachable next init s) (i : Nat) :
    s.deliveredConns.count i + s.deliveredPackets.count i + s.closed.count i ≤ 1 := by
  have owned := reachable_ownedOnce reachable i
  simp only [owners] at owned
  split_ifs at owned <;> omega

/-- A connection with a `Connect` header that `AcceptConn` delivered, then one with a malformed
header that the loop closed. -/
theorem delivered_at_most_once_after_acceptConn :
    ∃ s, Reachable next init s ∧ s.deliveredConns = [0] ∧ s.closed = [1] ∧
      s.deliveredConns.count 0 + s.deliveredPackets.count 0 + s.closed.count 0 ≤ 1 := by
  obtain ⟨s, reachable, holds⟩ := reachable_of_runSteps next init
    [.accept true, .header .connect, .send, .accept true, .header .malformed, .acceptConn false]
    (fun s => decide (s.deliveredConns = [0] ∧ s.closed = [1])) (by decide)
  obtain ⟨delivered, closed⟩ := of_decide_eq_true holds
  exact ⟨s, reachable, delivered, closed, delivered_at_most_once reachable 0⟩

/-- Once the server is closed and its loop has returned, a connection that was neither delivered
nor closed waits in one of the channels. -/
theorem stranded_in_channel {s : Server} (reachable : Reachable next init s)
    (returned : s.loop = .returned) {i : Nat} (obtained : i < s.obtained) (open_ : i ∉ s.closed)
    (undelivered : i ∉ s.deliveredConns ∧ i ∉ s.deliveredPackets) :
    i ∈ s.connChan ∨ i ∈ s.packetChan := by
  have owned := reachable_ownedOnce reachable i
  simp only [owners, returned, Loop.held, obtained, ite_true, List.count_eq_zero.mpr open_,
    List.count_eq_zero.mpr undelivered.1, List.count_eq_zero.mpr undelivered.2] at owned
  by_contra neither
  rw [not_or] at neither
  simp [List.count_eq_zero.mpr neither.1, List.count_eq_zero.mpr neither.2] at owned

/-- A connection with an `Associate` header sent to `packetChan`, and a server closed before any
consumer called `AcceptPacket`: the connection is stranded in the channel. -/
theorem stranded_in_packetChan :
    ∃ s, Reachable next init s ∧ s.loop = .returned ∧ 0 < s.obtained ∧ 0 ∉ s.closed ∧
      (0 ∉ s.deliveredConns ∧ 0 ∉ s.deliveredPackets) ∧ (0 ∈ s.connChan ∨ 0 ∈ s.packetChan) := by
  obtain ⟨s, reachable, holds⟩ := reachable_of_runSteps next init
    [.accept true, .header .associate, .send, .cancel, .closeUnderlay, .accept false]
    (fun s => decide (s.loop = .returned ∧ 0 < s.obtained ∧ 0 ∉ s.closed ∧
      (0 ∉ s.deliveredConns ∧ 0 ∉ s.deliveredPackets))) (by decide)
  obtain ⟨returned, obtained, open_, undelivered⟩ := of_decide_eq_true holds
  exact ⟨s, reachable, returned, obtained, open_, undelivered,
    stranded_in_channel reachable returned obtained open_ undelivered⟩

end TrojanGo.SimpleSocks

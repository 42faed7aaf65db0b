import TrojanGo.Go.Strings
import Mathlib.Algebra.Group.Prod
import Mathlib.Algebra.Group.Nat.Basic
import Mathlib.Data.List.Nodup

/-!
# The memory authenticator

The store that the MySQL backend wraps: the set of valid user hashes, each with a pair of
traffic counters. The backend calls `ListUsers`, `ResetTraffic`, `AddUser` and `DelUser`; the
server charges traffic to the user that `AuthUser` finds.
-/

set_option autoImplicit false

namespace TrojanGo.Statistic

/-- Modelled from the spec: `memory.Authenticator` (not under `src/`), "a set of valid hashes
with per-user traffic counters". `traffic` gives the counters `(sent, recv)` of each user; a hash
that is not a user has no counters, and they read as zero. -/
structure Authenticator where
  hashes : List GoString
  traffic : GoString → Nat × Nat
  nodup : hashes.Nodup
  idle : ∀ hash, hash ∉ hashes → traffic hash = 0

namespace Authenticator

/-- Zeroing the counters of one hash keeps non-users idle. -/
theorem idle_update_zero (a : Authenticator) (hash : GoString) (hashes : List GoString)
    (shrinks : ∀ x, x ∉ hashes → x ≠ hash → x ∉ a.hashes) :
    ∀ x, x ∉ hashes → Function.update a.traffic hash 0 x = 0 := by
  intro x absent
  by_cases same : x = hash
  · rw [same, Function.update_same]
  · rw [Function.update_noteq same, a.idle x (shrinks x absent same)]

/-- The authenticator with no users. -/
def empty : Authenticator := ⟨[], fun _ => 0, List.nodup_nil, fun _ _ => rfl⟩

/-- `AddUser`: a new user starts with zero counters; a hash that is already a user is refused
and changes nothing. -/
def addUser (a : Authenticator) (hash : GoString) : Authenticator :=
  if present : hash ∈ a.hashes then a
  else
    { hashes := hash :: a.hashes
      traffic := a.traffic
      nodup := List.nodup_cons.mpr ⟨present, a.nodup⟩
      idle := fun x absent => a.idle x (List.not_mem_of_not_mem_cons absent) }

/-- `DelUser`: the user and its counters are dropped. -/
def delUser (a : Authenticator) (hash : GoString) : Authenticator where
  hashes := a.hashes.erase hash
  traffic := Function.update a.traffic hash 0
  nodup := a.nodup.erase hash
  idle := a.idle_update_zero hash _ fun _ absent other member =>
    absent ((a.nodup.mem_erase_iff).mpr ⟨other, member⟩)

/-- `AuthUser(hash)`, then `AddTraffic(sent, recv)` on the user it finds; a hash that is not a
user is not charged. -/
def addTraffic (a : Authenticator) (hash : GoString) (sent recv : Nat) : Authenticator :=
  if present : hash ∈ a.hashes then
    { a with
      traffic := Function.update a.traffic hash (a.traffic hash + (sent, recv))
      idle := fun x absent => by
        rw [Function.update_noteq (fun same : x = hash => absent (same ▸ present)), a.idle x absent] }
  else a

/-- `ResetTraffic` of the user `hash`: its counters, which are then set to zero. -/
def resetTraffic (a : Authenticator) (hash : GoString) : (Nat × Nat) × Authenticator :=
  (a.traffic hash,
    { a with
      traffic := Function.update a.traffic hash 0
      idle := a.idle_update_zero hash a.hashes fun _ absent _ => absent })

@[simp] theorem mem_hashes_addUser {a : Authenticator} {hash x : GoString} :
    x ∈ (a.addUser hash).hashes ↔ x = hash ∨ x ∈ a.hashes := by
  unfold addUser
  split
  · rename_i present
    exact ⟨Or.inr, fun member => member.elim (fun same => same ▸ present) id⟩
  · exact List.mem_cons

@[simp] theorem traffic_addUser (a : Authenticator) (hash : GoString) :
    (a.addUser hash).traffic = a.traffic := by
  unfold addUser
  split <;> rfl

@[simp] theorem mem_hashes_delUser {a : Authenticator} {hash x : GoString} :
    x ∈ (a.delUser hash).hashes ↔ x ≠ hash ∧ x ∈ a.hashes :=
  a.nodup.mem_erase_iff

@[simp] theorem traffic_delUser (a : Authenticator) (hash : GoString) :
    (a.delUser hash).traffic = Function.update a.traffic hash 0 := rfl

@[simp] theorem hashes_addTraffic (a : Authenticator) (hash : GoString) (sent recv : Nat) :
    (a.addTraffic hash sent recv).hashes = a.hashes := by
  unfold addTraffic
  split <;> rfl

theorem traffic_addTraffic (a : Authenticator) (hash : GoString) (sent recv : Nat) (x : GoString) :
    (a.addTraffic hash sent recv).traffic x =
      a.traffic x + if x = hash ∧ hash ∈ a.hashes then (sent, recv) else 0 := by
  unfold addTraffic
  by_cases same : x = hash
  · subst same
    split <;> simp [*]
  · split <;> simp [same, Function.update_noteq same]

@[simp] theorem resetTraffic_fst (a : Authenticator) (hash : GoString) :
    (a.resetTraffic hash).1 = a.traffic hash := rfl

@[simp] theorem hashes_resetTraffic (a : Authenticator) (hash : GoString) :
    (a.resetTraffic hash).2.hashes = a.hashes := rfl

@[simp] theorem traffic_resetTraffic (a : Authenticator) (hash : GoString) :
    (a.resetTraffic hash).2.traffic = Function.update a.traffic hash 0 := rfl

end Authenticator

end TrojanGo.Statistic

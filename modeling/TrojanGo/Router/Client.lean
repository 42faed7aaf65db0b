import TrojanGo.Router.Rules
import Mathlib.Data.Fintype.Pi
import Mathlib.Tactic.FinCases

/-!
# Router client

`Client.Route` and `Client.DialConn` of `tunnel/router/client.go`. The one effect of `Route`
is name resolution: each call of `newIPAddress` takes the next answer of a resolver, so a
statement about a call can count its lookups and name the answer it acted on.
-/

set_option autoImplicit false

namespace TrojanGo.Router

open Net

/-! ## Policies and strategies -/

/-- `Block`. -/
def block : Int := 0
/-- `Bypass`. -/
def bypass : Int := 1
/-- `Proxy`. -/
def proxy : Int := 2

/-- `AsIs`. -/
def asIs : Int := 0
/-- `IPIfNonMatch`. -/
def ipIfNonMatch : Int := 1
/-- `IPOnDemand`. -/
def ipOnDemand : Int := 2

/-- The policies in the order of the loops `for i := Block; i <= Proxy; i++`. -/
def policies : List (Fin 3) := [0, 1, 2]

/-! ## Addresses and resolution -/

/-- `tunnel.Address` as `Route` reads it: an IP address (`IPv4` or `IPv6`), or a domain name. -/
inductive Address
  | ip (ip : IP) (port : Nat)
  | domainName (name : GoString) (port : Nat)

/-- Modelled from the spec: the answers of `tunnel.Address.ResolveIP`, which is not under
`src/`. The `n`-th lookup of a call gets `answer n` (`none` is a failed lookup); `lookups`
counts the lookups made. -/
structure Resolver where
  answer : Nat → Option IP
  lookups : Nat

/-- `newIPAddress`: one lookup of the address, yielding the resolved IP. -/
def newIPAddress (resolver : Resolver) : Option IP × Resolver :=
  (resolver.answer resolver.lookups, { resolver with lookups := resolver.lookups + 1 })

/-! ## `Route` and `DialConn` -/

/-- The fields of the router `Client` that `Route` reads. The two dialers of `DialConn`,
`underlay` and `direct`, appear only through `DialOutcome`, which names the one it dials. -/
structure Client where
  domains : Fin 3 → List Domain
  cidrs : Fin 3 → List CIDR
  defaultPolicy : Int
  domainStrategy : Int

namespace Client

/-- The policy loop over the CIDR lists: the first policy whose list contains `ip`. -/
def cidrPolicy (c : Client) (ip : IP) : Option (Fin 3) :=
  policies.find? fun i => matchIP (c.cidrs i) ip

/-- The policy loop over the domain lists: the first policy with a rule matching `name`. -/
def domainPolicy (re : Regexp) (c : Client) (name : GoString) : Option (Fin 3) :=
  policies.find? fun i => matchDomain re (c.domains i) name

/-- A resolution made only under the strategy `strategy`. -/
def resolveIf (c : Client) (strategy : Int) (resolver : Resolver) : Option IP × Resolver :=
  if c.domainStrategy = strategy then newIPAddress resolver else (none, resolver)

/-- The policy a loop returned, or the final `return c.defaultPolicy`. -/
def orDefault (c : Client) : Option (Fin 3) → Int
  | some i => i.val
  | none => c.defaultPolicy

/-- `Client.Route`: for a domain name, the CIDR lists under `IPOnDemand`, then the domain
lists, then the CIDR lists under `IPIfNonMatch`; for an IP, the CIDR lists. -/
def route (re : Regexp) (c : Client) (address : Address) (resolver : Resolver) :
    Int × Resolver :=
  match address with
  | .ip target _ => (c.orDefault (c.cidrPolicy target), resolver)
  | .domainName name _ =>
      let (onDemand, resolver) := c.resolveIf ipOnDemand resolver
      match onDemand.bind c.cidrPolicy with
      | some i => (i.val, resolver)
      | none =>
          match c.domainPolicy re name with
          | some i => (i.val, resolver)
          | none =>
              let (ifNonMatch, resolver) := c.resolveIf ipIfNonMatch resolver
              (c.orDefault (ifNonMatch.bind c.cidrPolicy), resolver)

/-- What `Client.DialConn` does with a connection: dial the underlay (`Proxy`), return the
error `router blocked address` (`Block`), dial the direct client (`Bypass`), or reach
`panic("unknown policy")`. -/
inductive DialOutcome
  | underlay
  | blocked
  | direct
  | panic
  deriving DecidableEq, Repr

/-- `Client.DialConn`: route, then switch on the policy. -/
def dialConn (re : Regexp) (c : Client) (address : Address) (resolver : Resolver) :
    DialOutcome × Resolver :=
  let (policy, resolver) := c.route re address resolver
  (if policy = proxy then .underlay
    else if policy = block then .blocked
    else if policy = bypass then .direct
    else .panic, resolver)

end Client

/-! ## The decision `Route` reaches -/

/-- `result` is the least policy satisfying `P`, or `default` when none does. -/
def LeastOr (P : Fin 3 → Prop) (default result : Int) : Prop :=
  (∃ p, P p ∧ (∀ q < p, ¬ P q) ∧ result = p.val) ∨ ((∀ p, ¬ P p) ∧ result = default)

/-- The decision of `Route` as the specification words it, when the resolver answers
`resolved`. An IP goes by the CIDR lists; a domain name under `IPOnDemand` by the CIDR lists
for the resolved address when one of them contains it, and otherwise by the domain lists;
under `IPIfNonMatch` by the domain lists when one matches, and otherwise by the CIDR lists for
the resolved address; under `AsIs` by the domain lists. With no match, the default policy. -/
def ReferenceDecision (re : Regexp) (c : Client) (address : Address) (resolved : Option IP)
    (result : Int) : Prop :=
  match address with
  | .ip target _ => LeastOr (fun p => matchIP (c.cidrs p) target = true) c.defaultPolicy result
  | .domainName name _ =>
      let byDomain := fun p => matchDomain re (c.domains p) name = true
      let byResolved := fun p => ∃ ip, resolved = some ip ∧ matchIP (c.cidrs p) ip = true
      if c.domainStrategy = ipOnDemand then
        ((∃ p, byResolved p) ∧ LeastOr byResolved c.defaultPolicy result) ∨
          ((¬ ∃ p, byResolved p) ∧ LeastOr byDomain c.defaultPolicy result)
      else if c.domainStrategy = ipIfNonMatch then
        ((∃ p, byDomain p) ∧ LeastOr byDomain c.defaultPolicy result) ∨
          ((¬ ∃ p, byDomain p) ∧ LeastOr byResolved c.defaultPolicy result)
      else LeastOr byDomain c.defaultPolicy result

/-- The policy loops return the least policy that matches. -/
theorem find?_policies_least :
    ∀ P : Fin 3 → Bool, ∀ i, policies.find? P = some i → P i = true ∧ ∀ q < i, P q = false := by
  decide

theorem find?_policies_none {P : Fin 3 → Bool} (missing : policies.find? P = none) (p : Fin 3) :
    P p = false := by
  have everyPolicy : ∀ p : Fin 3, p ∈ policies := by decide
  simpa using List.find?_eq_none.mp missing p (everyPolicy p)

theorem leastOr_orDefault (c : Client) (P : Fin 3 → Bool) :
    LeastOr (fun p => P p = true) c.defaultPolicy (c.orDefault (policies.find? P)) := by
  cases found : policies.find? P with
  | some i =>
      obtain ⟨holds, before⟩ := find?_policies_least P i found
      exact .inl ⟨i, holds, fun q below => by simp [before q below], rfl⟩
  | none => exact .inr ⟨fun p => by simp [find?_policies_none found p], rfl⟩

/-- The CIDR loop on a resolution result decides by the resolved address. -/
theorem leastOr_bind_cidrPolicy (c : Client) (resolved : Option IP) :
    LeastOr (fun p => ∃ ip, resolved = some ip ∧ matchIP (c.cidrs p) ip = true) c.defaultPolicy
      (c.orDefault (resolved.bind c.cidrPolicy)) := by
  cases resolved with
  | none => exact .inr ⟨by simp, rfl⟩
  | some ip => simpa using leastOr_orDefault c fun i => matchIP (c.cidrs i) ip

theorem exists_iff_find?_isSome (P : Fin 3 → Bool) :
    (∃ p, P p = true) ↔ (policies.find? P).isSome := by
  cases found : policies.find? P with
  | some i => simpa using ⟨i, (find?_policies_least P i found).1⟩
  | none => simpa using find?_policies_none found

theorem exists_resolved_iff (c : Client) (resolved : Option IP) :
    (∃ p, ∃ ip, resolved = some ip ∧ matchIP (c.cidrs p) ip = true) ↔
      (resolved.bind c.cidrPolicy).isSome := by
  cases resolved with
  | none => simp
  | some ip => simpa [Client.cidrPolicy] using exists_iff_find?_isSome fun i => matchIP (c.cidrs i) ip

theorem exists_domain_iff (re : Regexp) (c : Client) (name : GoString) :
    (∃ p, matchDomain re (c.domains p) name = true) ↔ (c.domainPolicy re name).isSome :=
  exists_iff_find?_isSome _

/-- `Route` reaches the reference decision on the answer of the resolver's next lookup, and
resolves at most once. -/
theorem route_spec (re : Regexp) (c : Client) (address : Address) (resolver : Resolver) :
    ReferenceDecision re c address (resolver.answer resolver.lookups) (c.route re address resolver).1 ∧
      (c.route re address resolver).2.lookups ≤ resolver.lookups + 1 := by
  cases address with
  | ip target port => exact ⟨leastOr_orDefault c _, by simp [Client.route]⟩
  | domainName name port =>
      have byDomain := leastOr_orDefault c fun i => matchDomain re (c.domains i) name
      rw [← Client.domainPolicy] at byDomain
      have byResolved := leastOr_bind_cidrPolicy c (resolver.answer resolver.lookups)
      by_cases onDemand : c.domainStrategy = ipOnDemand
      · have notIfNonMatch : c.domainStrategy ≠ ipIfNonMatch := by rw [onDemand]; decide
        simp only [ReferenceDecision, Client.route, Client.resolveIf, onDemand, if_true,
          newIPAddress, if_neg notIfNonMatch]
        rw [← onDemand, exists_resolved_iff]
        cases found : (resolver.answer resolver.lookups).bind c.cidrPolicy with
        | some i => exact ⟨.inl ⟨rfl, by rwa [found] at byResolved⟩, le_refl _⟩
        | none =>
            refine ⟨.inr ⟨by simp, ?_⟩, ?_⟩ <;>
              cases domain : c.domainPolicy re name <;> simp_all [Client.orDefault]
      · simp only [ReferenceDecision, Client.route, Client.resolveIf, onDemand, if_false,
          Option.bind_none, newIPAddress]
        rw [exists_domain_iff]
        by_cases ifNonMatch : c.domainStrategy = ipIfNonMatch
        · simp only [ifNonMatch, if_true]
          cases domain : c.domainPolicy re name with
          | some i => exact ⟨.inl ⟨rfl, by rwa [domain] at byDomain⟩, by simp⟩
          | none => exact ⟨.inr ⟨by simp, byResolved⟩, by simp⟩
        · simp only [ifNonMatch, if_false]
          cases domain : c.domainPolicy re name <;> simp_all [Client.orDefault]

theorem LeastOr.result_cases {P : Fin 3 → Prop} {default result : Int}
    (least : LeastOr P default result) : (∃ p : Fin 3, result = p.val) ∨ result = default := by
  rcases least with ⟨p, -, -, chosen⟩ | ⟨-, fallback⟩
  · exact .inl ⟨p, chosen⟩
  · exact .inr fallback

/-- A reference decision is a policy of the loops or the default policy. -/
theorem ReferenceDecision.result_cases {re : Regexp} {c : Client} {address : Address}
    {resolved : Option IP} {result : Int} (decided : ReferenceDecision re c address resolved result) :
    (∃ p : Fin 3, result = p.val) ∨ result = c.defaultPolicy := by
  cases address with
  | ip target port => exact LeastOr.result_cases decided
  | domainName name port =>
      simp only [ReferenceDecision] at decided
      split_ifs at decided
      all_goals first
        | exact LeastOr.result_cases decided
        | rcases decided with ⟨-, least⟩ | ⟨-, least⟩ <;> exact least.result_cases

/-- With a default policy among `Block`, `Bypass` and `Proxy`, so is every result of
`Route`. -/
theorem route_mem_policies (re : Regexp) (c : Client) (address : Address) (resolver : Resolver)
    (valid : c.defaultPolicy = block ∨ c.defaultPolicy = bypass ∨ c.defaultPolicy = proxy) :
    (c.route re address resolver).1 = block ∨ (c.route re address resolver).1 = bypass ∨
      (c.route re address resolver).1 = proxy := by
  rcases (route_spec re c address resolver).1.result_cases with ⟨p, chosen⟩ | fallback
  · fin_cases p <;> simp [chosen, block, bypass, proxy]
  · rw [fallback]
    exact valid

/-- `DialConn` reaches its `panic` only on a policy outside the three, and on `Block` it dials
neither the underlay nor the direct client. -/
theorem dialConn_cases (re : Regexp) (c : Client) (address : Address) (resolver : Resolver) :
    ((c.dialConn re address resolver).1 = .panic ↔
      ¬ ((c.route re address resolver).1 = block ∨ (c.route re address resolver).1 = bypass ∨
        (c.route re address resolver).1 = proxy)) ∧
      ((c.route re address resolver).1 = block → (c.dialConn re address resolver).1 = .blocked) := by
  simp only [Client.dialConn, block, bypass, proxy]
  constructor
  · split_ifs <;> simp_all
  · intro blocked
    simp [blocked]

end TrojanGo.Router

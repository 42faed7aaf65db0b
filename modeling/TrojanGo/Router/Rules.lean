import TrojanGo.Go.Net

/-!
# Router rules

The rule values of `v2router` that the router compiles (`Domain`, `CIDR`), Go's `regexp` as
the router calls it, and the two matchers of `tunnel/router/client.go`: `matchDomain` and
`matchIP`, each a loop over its list in which the first deciding rule wins.
-/

set_option autoImplicit false

namespace TrojanGo.Router

open Net Strings

/-- `v2router.Domain_Type`. A value outside the enum reaches `matchDomain` as `unknown`. -/
inductive DomainType
  | plain
  | regex
  | domain
  | full
  | unknown (code : Int)
  deriving DecidableEq, Repr

/-- `v2router.Domain_Attribute`; the router reads only its key. -/
structure DomainAttribute where
  key : GoString
  deriving DecidableEq, Repr

/-- `v2router.Domain`: one domain rule (`attributes` is the field `Attribute`). -/
structure Domain where
  type : DomainType
  value : GoString
  attributes : List DomainAttribute
  deriving DecidableEq, Repr

/-- `v2router.CIDR`: an address and its prefix length (the field `Prefix`). -/
structure CIDR where
  ip : IP
  prefixLength : UInt32
  deriving DecidableEq

/-- Go's `regexp` as the router uses it: which patterns `regexp.Compile` accepts, and whether
a compiled pattern matches somewhere in a text. -/
structure Regexp where
  compiles : GoString → Bool
  matchString : GoString → GoString → Bool

/-- `regexp.Match(pattern, []byte(target))`: `none` is the compile error. -/
def regexpMatch (re : Regexp) (pattern target : GoString) : Option Bool :=
  if re.compiles pattern then some (re.matchString pattern target) else none

/-! ## `matchDomain` -/

/-- The body of the loop of `matchDomain` for rule `d`: `some b` returns `b`, `none` goes on
to the next rule. A `Domain` rule checks the rune before the first occurrence of its value. -/
def domainVerdict (re : Regexp) (target : GoString) (d : Domain) : Option Bool :=
  match d.type with
  | .full => if d.value = target then some true else none
  | .domain =>
      let idx := index target d.value
      if hasSuffix target d.value ∧ (idx = 0 ∨ target[(idx - 1).toNat]? = some '.') then some true
      else none
  | .plain => if contains target d.value then some true else none
  | .regex =>
      match regexpMatch re d.value target with
      | none => some false
      | some true => some true
      | some false => none
  | .unknown _ => none

/-- `matchDomain`. -/
def matchDomain (re : Regexp) : List Domain → GoString → Bool
  | [], _ => false
  | d :: list, target => (domainVerdict re target d).getD (matchDomain re list target)

/-- The meaning of a domain rule as the specification states it: a `Full` rule is the whole
target, a `Domain` rule the target or a suffix after a dot, a `Plain` rule a substring, a
`Regex` rule a pattern that compiles and matches; any other rule matches nothing. -/
def DomainRuleSpec (re : Regexp) (d : Domain) (target : GoString) : Prop :=
  match d.type with
  | .full => target = d.value
  | .domain => target = d.value ∨ ('.' :: d.value) <:+ target
  | .plain => d.value <:+: target
  | .regex => re.compiles d.value = true ∧ re.matchString d.value target = true
  | .unknown _ => False

/-- The `Domain` rule `a.com` is accepted on `a.comxa.com`: `strings.Index` finds `a.com`
at offset 0, so the rune before the suffix (`x`) is never checked. The specification's rule
does not match there. -/
theorem matchDomain_accepts_unanchored_suffix (re : Regexp) :
    matchDomain re [⟨.domain, "a.com".toList, []⟩] "a.comxa.com".toList = true ∧
      ¬ ∃ d ∈ [(⟨.domain, "a.com".toList, []⟩ : Domain)], DomainRuleSpec re d "a.comxa.com".toList := by
  refine ⟨rfl, ?_⟩
  simp only [List.mem_singleton, exists_eq_left, DomainRuleSpec, not_or]
  exact ⟨by decide, by decide⟩

/-! ## `matchIP` -/

/-- The body of the loop of `matchIP` for rule `c`: a rule of the other family is skipped,
otherwise the network `c.Ip/c.Prefix` is asked whether it contains `target`. -/
def cidrContains (target : IP) (c : CIDR) : Bool :=
  let isIPv6 := (to4 target.bytes).isNone
  let len := if isIPv6 then 16 else 4
  let mask := cidrMask c.prefixLength.toNat (8 * len)
  let cidrIP := c.ip.bytes
  if (to4 cidrIP).isSome = isIPv6 then false
  else IPNet.contains ⟨ipMask cidrIP mask, mask⟩ target.bytes

/-- `matchIP`: whether some rule of `list` contains `target`. -/
def matchIP (list : List CIDR) (target : IP) : Bool := list.any (cidrContains target)

theorem cidrContains_iff (target : IP) (c : CIDR) :
    cidrContains target c = true ↔
      c.ip.isIPv4 = target.isIPv4 ∧ c.prefixLength.toNat ≤ target.bitLength ∧
        AgreeOn c.prefixLength.toNat c.ip.canonical target.canonical := by
  simp only [cidrContains, IP.bitLength, IP.isIPv4, IP.canonical, AgreeOn]
  generalize c.prefixLength.toNat = n
  have nonempty : c.ip.bytes ≠ [] :=
    List.ne_nil_of_length_pos (by rcases c.ip.wellFormed with four | sixteen <;> omega)
  rcases Option.eq_none_or_eq_some (to4 target.bytes) with targetShort | ⟨t4, targetShort⟩ <;>
    rcases Option.eq_none_or_eq_some (to4 c.ip.bytes) with ruleShort | ⟨c4, ruleShort⟩ <;>
    simp only [targetShort, ruleShort, Option.isNone_some, Option.isSome_some, Option.getD_some,
      Option.isNone_none, Option.isSome_none, Option.getD_none, Bool.false_eq_true, ite_false,
      ite_true, Nat.reduceMul, true_and, false_and, false_iff, iff_false, Bool.true_eq_false]
  case inl.inl =>
    have targetSixteen := length_of_to4_eq_none targetShort
    have ruleSixteen := length_of_to4_eq_none ruleShort
    by_cases fits : n ≤ 128
    · rw [cidrMask_of_le (by decide) fits, ipMask_of_sixteen ruleSixteen (maskBytes_length _ _),
        contains_maskBytes_sixteen ruleSixteen ruleShort targetSixteen targetShort]
      exact ⟨fun agree => ⟨fits, fun i inPrefix => agree i (by omega) inPrefix⟩,
        fun ⟨_, agree⟩ i _ inPrefix => agree i inPrefix⟩
    · rw [cidrMask_of_lt (by omega), ipMask_nil nonempty, contains_nil]
      simp [fits]
  case inr.intro.inr.intro =>
    by_cases fits : n ≤ 32
    · rw [cidrMask_of_le (by decide) fits,
        ipMask_of_to4 c.ip.wellFormed ruleShort (maskBytes_length _ _),
        contains_maskBytes_four (to4_length ruleShort) targetShort]
      exact ⟨fun agree => ⟨fits, fun i inPrefix => agree i (by omega) inPrefix⟩,
        fun ⟨_, agree⟩ i _ inPrefix => agree i inPrefix⟩
    · rw [cidrMask_of_lt (by omega), ipMask_nil nonempty, contains_nil]
      simp [fits]

/-- `matchIP` accepts exactly when some rule has the target's family, a prefix length within
that family's bit length, and agrees with the target on that many leading bits. -/
theorem matchIP_iff (list : List CIDR) (target : IP) :
    matchIP list target = true ↔
      ∃ c ∈ list, c.ip.isIPv4 = target.isIPv4 ∧ c.prefixLength.toNat ≤ target.bitLength ∧
        AgreeOn c.prefixLength.toNat c.ip.canonical target.canonical := by
  simp only [matchIP, List.any_eq_true, cidrContains_iff]

end TrojanGo.Router

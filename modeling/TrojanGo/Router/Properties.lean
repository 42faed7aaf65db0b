import TrojanGo.Router.NewClient

/-!
# Routing a client built by `NewClient`

What a call of `Route` and `DialConn` does on a client that `NewClient` returned: the
reference decision, one lookup at most, a policy among the three, and no `panic`. Then two
configurations on which the built client departs from what the specification asks: a
destination spelled in capitals escapes a `domain:` rule, and a `cidr:` rule keeps a prefix
length outside its family's range.
-/

set_option autoImplicit false

namespace TrojanGo.Router

open Net Strings

/-- What the specification asks of one call of `Route` and `DialConn` on a client. -/
structure RoutesAsSpecified (re : Regexp) (c : Client) (address : Address) (resolver : Resolver) :
    Prop where
  strategyKnown :
    c.domainStrategy = asIs ∨ c.domainStrategy = ipIfNonMatch ∨ c.domainStrategy = ipOnDemand
  reference :
    ReferenceDecision re c address (resolver.answer resolver.lookups) (c.route re address resolver).1
  atMostOneLookup : (c.route re address resolver).2.lookups ≤ resolver.lookups + 1
  policy : (c.route re address resolver).1 = block ∨ (c.route re address resolver).1 = bypass ∨
    (c.route re address resolver).1 = proxy
  noPanic : (c.dialConn re address resolver).1 ≠ .panic
  blockDialsNothing :
    (c.route re address resolver).1 = block → (c.dialConn re address resolver).1 = .blocked

/-- Every client that `NewClient` returns routes every address as specified, for every
answer of the resolver. -/
theorem newClient_routes_as_specified (rt : Runtime) (cfg : RouterConfig) (c : Client)
    (built : newClient rt cfg = .ok c) (address : Address) (resolver : Resolver) :
    RoutesAsSpecified rt.regexp c address resolver := by
  obtain ⟨strategyKnown, policyKnown⟩ := newClient_valid built
  have policy := route_mem_policies rt.regexp c address resolver policyKnown
  have dial := dialConn_cases rt.regexp c address resolver
  exact ⟨strategyKnown, (route_spec rt.regexp c address resolver).1,
    (route_spec rt.regexp c address resolver).2, policy, fun panics => dial.1.mp panics policy,
    dial.2⟩

/-- The configuration `block: ["cidr:10.0.0.0/8"]` with the strategy `ip_on_demand`, and the
destination `example.com:443`, which resolves to `10.1.2.3`: the client looks the name up once
and blocks it. -/
theorem newClient_routes_as_specified_on_cidr_rule :
    newClient ⟨⟨fun _ => true, fun _ _ => false⟩, id, fun a b => a == b, fun _ _ => none, fun _ _ => none, true⟩
        ⟨"ip_on_demand".toList, "proxy".toList, [], [], ["cidr:10.0.0.0/8".toList], [], []⟩ =
      .ok ((Client.empty proxy ipOnDemand).appendCidrs 0 [⟨⟨v4InV6Prefix ++ [10, 0, 0, 0], by decide⟩, 8⟩]) ∧
    RoutesAsSpecified ⟨fun _ => true, fun _ _ => false⟩
      ((Client.empty proxy ipOnDemand).appendCidrs 0 [⟨⟨v4InV6Prefix ++ [10, 0, 0, 0], by decide⟩, 8⟩])
      (.domainName "example.com".toList 443) ⟨fun _ => parseIP "10.1.2.3".toList, 0⟩ ∧
    (((Client.empty proxy ipOnDemand).appendCidrs 0 [⟨⟨v4InV6Prefix ++ [10, 0, 0, 0], by decide⟩, 8⟩]).route
      ⟨fun _ => true, fun _ _ => false⟩ (.domainName "example.com".toList 443)
      ⟨fun _ => parseIP "10.1.2.3".toList, 0⟩).1 = block :=
  have built : newClient ⟨⟨fun _ => true, fun _ _ => false⟩, id, fun a b => a == b, fun _ _ => none,
      fun _ _ => none, true⟩ ⟨"ip_on_demand".toList, "proxy".toList, [], [], ["cidr:10.0.0.0/8".toList], [], []⟩ =
      .ok ((Client.empty proxy ipOnDemand).appendCidrs 0 [⟨⟨v4InV6Prefix ++ [10, 0, 0, 0], by decide⟩, 8⟩]) := rfl
  ⟨built, newClient_routes_as_specified _ _ _ built _ _, rfl⟩

/-- The configuration `block: ["domain:example.com"]`, default policy `proxy`, strategy `as_is`. -/
theorem newClient_route_case_sensitive (rt : Runtime) :
    (newClient rt ⟨"as_is".toList, "proxy".toList, [], [], ["domain:example.com".toList], [], []⟩).isOk =
        rt.directStarts ∧
      ∀ c, newClient rt ⟨"as_is".toList, "proxy".toList, [], [], ["domain:example.com".toList], [], []⟩
          = .ok c →
        ∀ resolver : Resolver,
          (c.route rt.regexp (.domainName "example.com".toList 443) resolver).1 = block ∧
          (c.route rt.regexp (.domainName "EXAMPLE.com".toList 443) resolver).1 = proxy := by
  have built : newClient rt ⟨"as_is".toList, "proxy".toList, [], [], ["domain:example.com".toList], [], []⟩ =
      if rt.directStarts then
        .ok ((Client.empty proxy asIs).appendDomains 0 [⟨.domain, "example.com".toList, []⟩])
      else .error "router failed to initialize raw client".toList := by
    cases rt with
    | mk regexp unicodeLower equalFold loadIP loadSite directStarts => cases directStarts <;> rfl
  rw [built]
  cases rt.directStarts
  · exact ⟨rfl, fun c failed => by cases failed⟩
  · refine ⟨rfl, fun c returned resolver => ?_⟩
    cases returned
    exact ⟨rfl, rfl⟩

/-- The configuration whose `block` list holds two `cidr:` rules for `10.0.0.0`, one with the
prefix `99` and one with the prefix `-1`: both rules are kept, for an IPv4 address, with the
prefix lengths 99 and `uint32(-1)`. -/
theorem newClient_accepts_out_of_range_prefix (rt : Runtime) :
    (newClient rt ⟨"as_is".toList, "proxy".toList, [], [],
        ["cidr:10.0.0.0/99".toList, "cidr:10.0.0.0/-1".toList], [], []⟩).isOk = rt.directStarts ∧
      ∀ c, newClient rt ⟨"as_is".toList, "proxy".toList, [], [],
          ["cidr:10.0.0.0/99".toList, "cidr:10.0.0.0/-1".toList], [], []⟩ = .ok c →
        (c.cidrs 0).map CIDR.prefixLength = [99, 4294967295] ∧ ∀ cidr ∈ c.cidrs 0, cidr.ip.isIPv4 := by
  have built : newClient rt ⟨"as_is".toList, "proxy".toList, [], [],
      ["cidr:10.0.0.0/99".toList, "cidr:10.0.0.0/-1".toList], [], []⟩ =
      if rt.directStarts then
        addCidrRules ⟨"as_is".toList, "proxy".toList, [], [],
          ["cidr:10.0.0.0/99".toList, "cidr:10.0.0.0/-1".toList], [], []⟩ (Client.empty proxy asIs)
      else .error "router failed to initialize raw client".toList := by
    cases rt with
    | mk regexp unicodeLower equalFold loadIP loadSite directStarts => cases directStarts <;> rfl
  rw [built]
  cases rt.directStarts
  · exact ⟨rfl, fun c failed => nomatch failed⟩
  · refine ⟨rfl, fun c returned => ?_⟩
    cases returned
    exact ⟨rfl, by decide⟩

/-- A `geosite:` code whose loaded list holds a `Regex` entry: the `geosite:` loop appends the
entry as loaded, without the `regexp.Compile` that the `regex:` loop makes, so `NewClient`
keeps it whatever its pattern, one that does not compile included. -/
theorem newClient_keeps_geosite_regex (rt : Runtime) (pattern : GoString)
    (loaded : rt.loadSite [] "bad".toList = some [⟨.regex, pattern, []⟩])
    (started : rt.directStarts = true) :
    newClient rt ⟨"as_is".toList, "proxy".toList, [], [], ["geosite:bad".toList], [], []⟩ =
      .ok ((Client.empty proxy asIs).appendDomains 0 [⟨.regex, pattern, []⟩]) := by
  have geoIP : addGeoIP rt ⟨"as_is".toList, "proxy".toList, [], [], ["geosite:bad".toList], [], []⟩
      (Client.empty proxy asIs) = Client.empty proxy asIs := rfl
  have geoSite : addGeoSite rt ⟨"as_is".toList, "proxy".toList, [], [], ["geosite:bad".toList], [], []⟩
      (Client.empty proxy asIs) = (Client.empty proxy asIs).appendDomains 0 [⟨.regex, pattern, []⟩] := by
    show (match rt.loadSite [] "bad".toList with
      | none => Client.empty proxy asIs
      | some domainList => (Client.empty proxy asIs).appendDomains 0 (selectSite rt [] domainList)) = _
    rw [loaded]
    rfl
  rw [newClient_eq_ok]
  refine ⟨started, asIs, proxy, rfl, rfl, ?_⟩
  simp only [compileRules, geoIP, geoSite]
  rfl


/-- A geosite file whose `bad` list holds the one `Regex` entry `(`, which `regexp.Compile`
rejects: `NewClient` succeeds and its `Block` table holds the pattern. -/
theorem newClient_keeps_uncompilable_geosite_regex :
    (⟨fun pattern => decide (pattern ≠ "(".toList), fun _ _ => false⟩ : Regexp).compiles "(".toList = false ∧
      newClient ⟨⟨fun pattern => decide (pattern ≠ "(".toList), fun _ _ => false⟩, id, fun a b => a == b,
          fun _ _ => none, fun _ code => if code = "bad".toList then some [⟨.regex, "(".toList, []⟩] else none, true⟩
          ⟨"as_is".toList, "proxy".toList, [], [], ["geosite:bad".toList], [], []⟩ =
        .ok ((Client.empty proxy asIs).appendDomains 0 [⟨.regex, "(".toList, []⟩]) :=
  ⟨by decide, newClient_keeps_geosite_regex _ _ (by decide) rfl⟩

end TrojanGo.Router

import TrojanGo.Router.Client

/-!
# Building the router client

`loadCode` and `NewClient` of `tunnel/router/client.go`: the domain strategy and the default
policy, then eight loops that compile the rule strings of the `Proxy`, `Bypass` and `Block`
lists into the tables of the client. The loops over `regex:`, `regexp:` and `cidr:` rules can
fail, and then `NewClient` returns their error.
-/

set_option autoImplicit false

namespace TrojanGo.Router

open Net Strings

/-- Modelled from the spec: the fields of the router `Config` that `NewClient` reads
(`router.go`'s `Config` is not under `src/`): the strategy and default policy texts, the three
rule lists, and the two geodata files. -/
structure RouterConfig where
  domainStrategy : GoString
  defaultPolicy : GoString
  proxy : List GoString
  bypass : List GoString
  block : List GoString
  geoIPFilename : GoString
  geoSiteFilename : GoString

/-- What `NewClient` takes from outside `client.go`: Go's `regexp`, the `unicode.ToLower`
table for runes outside ASCII, `strings.EqualFold`, the geodata loader of `common/geodata`
(`none` is a load error), and whether `freedom.NewClient` starts the direct client. -/
structure Runtime where
  regexp : Regexp
  unicodeLower : Char → Char
  equalFold : GoString → GoString → Bool
  loadIP : GoString → GoString → Option (List CIDR)
  loadSite : GoString → GoString → Option (List Domain)
  directStarts : Bool

/-- `codeInfo`: a rule's code and the policy of the list it came from. -/
structure CodeInfo where
  code : GoString
  strategy : Fin 3
  deriving DecidableEq, Repr

/-- One list's loop of `loadCode`: the codes of its rules that carry `rulePrefix`; a rule with
nothing after the prefix is skipped with a warning. -/
def codesOf (rulePrefix : GoString) (strategy : Fin 3) (list : List GoString) : List CodeInfo :=
  list.filterMap fun s =>
    if hasPrefix s rulePrefix ∧ s.drop rulePrefix.length ≠ [] then
      some ⟨s.drop rulePrefix.length, strategy⟩
    else none

/-- `loadCode`: the codes of the `Proxy` list, then of `Bypass`, then of `Block`. -/
def loadCode (cfg : RouterConfig) (rulePrefix : GoString) : List CodeInfo :=
  codesOf rulePrefix 2 cfg.proxy ++ codesOf rulePrefix 1 cfg.bypass ++ codesOf rulePrefix 0 cfg.block

namespace Client

/-- `client.domains[i] = append(client.domains[i], rules...)`. -/
def appendDomains (c : Client) (i : Fin 3) (rules : List Domain) : Client :=
  { c with domains := Function.update c.domains i (c.domains i ++ rules) }

/-- `client.cidrs[i] = append(client.cidrs[i], rules...)`. -/
def appendCidrs (c : Client) (i : Fin 3) (rules : List CIDR) : Client :=
  { c with cidrs := Function.update c.cidrs i (c.cidrs i ++ rules) }

@[simp] theorem appendDomains_defaultPolicy (c : Client) (i : Fin 3) (rules : List Domain) :
    (c.appendDomains i rules).defaultPolicy = c.defaultPolicy := rfl

@[simp] theorem appendDomains_domainStrategy (c : Client) (i : Fin 3) (rules : List Domain) :
    (c.appendDomains i rules).domainStrategy = c.domainStrategy := rfl

@[simp] theorem appendDomains_cidrs (c : Client) (i : Fin 3) (rules : List Domain) :
    (c.appendDomains i rules).cidrs = c.cidrs := rfl

@[simp] theorem appendCidrs_defaultPolicy (c : Client) (i : Fin 3) (rules : List CIDR) :
    (c.appendCidrs i rules).defaultPolicy = c.defaultPolicy := rfl

@[simp] theorem appendCidrs_domainStrategy (c : Client) (i : Fin 3) (rules : List CIDR) :
    (c.appendCidrs i rules).domainStrategy = c.domainStrategy := rfl

@[simp] theorem appendCidrs_domains (c : Client) (i : Fin 3) (rules : List CIDR) :
    (c.appendCidrs i rules).domains = c.domains := rfl

/-- The client `NewClient` starts from: empty tables, a default policy and a strategy. -/
def empty (defaultPolicy domainStrategy : Int) : Client :=
  { domains := fun _ => [], cidrs := fun _ => [], defaultPolicy, domainStrategy }

end Client

/-! ## The rule loops -/

/-- The `geoip:` loop: the CIDRs the loader finds for each code join the list of its policy;
a code that fails to load is skipped. -/
def addGeoIP (rt : Runtime) (cfg : RouterConfig) (c : Client) : Client :=
  (loadCode cfg "geoip:".toList).foldl (fun c info =>
    match rt.loadIP cfg.geoIPFilename info.code with
    | none => c
    | some cidrs => c.appendCidrs info.strategy cidrs) c

/-- The code and the wanted attribute of a `geosite:` rule (`name@attr`), or `none` for a
code that starts or ends with `@`. -/
def siteCode (code : GoString) : Option (GoString × GoString) :=
  let attrIdx := index code "@".toList
  if 0 < attrIdx then
    if !hasSuffix code "@".toList then some (code.take attrIdx.toNat, code.drop (attrIdx.toNat + 1))
    else none
  else if attrIdx = 0 then none
  else some (code, [])

/-- The domains of a loaded site list that the `geosite:` loop keeps: all of them when no
attribute is wanted, and otherwise each domain once for every attribute of it whose key
equals the wanted one up to case. -/
def selectSite (rt : Runtime) (attrWanted : GoString) (domainList : List Domain) : List Domain :=
  if attrWanted ≠ [] then
    domainList.flatMap fun domain =>
      (domain.attributes.filter fun attr => rt.equalFold attrWanted attr.key).map fun _ => domain
  else domainList

/-- The `geosite:` loop. -/
def addGeoSite (rt : Runtime) (cfg : RouterConfig) (c : Client) : Client :=
  (loadCode cfg "geosite:".toList).foldl (fun c info =>
    match siteCode info.code with
    | none => c
    | some (code, attrWanted) =>
        match rt.loadSite cfg.geoSiteFilename code with
        | none => c
        | some domainList => c.appendDomains info.strategy (selectSite rt attrWanted domainList)) c

/-- The loops of the `domain:`, `keyword:` and `full:` rules: each code, lowercased, becomes a
rule of type `type`. -/
def addTextRules (rt : Runtime) (cfg : RouterConfig) (rulePrefix : GoString) (type : DomainType)
    (c : Client) : Client :=
  (loadCode cfg rulePrefix).foldl (fun c info =>
    c.appendDomains info.strategy [⟨type, toLower rt.unicodeLower info.code, []⟩]) c

/-- The loops of the `regex:` and `regexp:` rules: a code that `regexp.Compile` refuses ends
`NewClient` with an error; the others become `Regex` rules as written. -/
def addRegexRules (rt : Runtime) (cfg : RouterConfig) (rulePrefix : GoString) (c : Client) :
    Except GoString Client :=
  (loadCode cfg rulePrefix).foldlM (fun c info =>
    if rt.regexp.compiles info.code then .ok (c.appendDomains info.strategy [⟨.regex, info.code, []⟩])
    else .error ("invalid regular expression: ".toList ++ info.code)) c

/-- One `cidr:` rule, `ip/prefix`: split at `/`, `net.ParseIP`, then
`strconv.ParseInt(prefix, 10, 32)` kept as `uint32(prefix)`. -/
def parseCidrRule (code : GoString) : Except GoString CIDR :=
  match split code '/' with
  | [ipText, prefixText] =>
      match parseIP ipText with
      | none => .error ("invalid cidr ip: ".toList ++ code)
      | some ip =>
          match parseInt32 prefixText with
          | .error _ => .error "invalid prefix".toList
          | .ok n => .ok ⟨ip, uint32OfInt n⟩
  | _ => .error ("invalid cidr: ".toList ++ code)

/-- A `cidr:` rule is accepted exactly when it is one `/` between an address `net.ParseIP`
reads and a prefix `strconv.ParseInt(prefix, 10, 32)` reads, with no range check against the
address's bit length: the rule keeps the address and `uint32` of the prefix. -/
theorem parseCidrRule_eq_ok {code : GoString} {x : CIDR} :
    parseCidrRule code = .ok x ↔
      ∃ ipText prefixText n, code = ipText ++ '/' :: prefixText ∧ '/' ∉ ipText ∧ '/' ∉ prefixText ∧
        parseIP ipText = some x.ip ∧ parseInt32 prefixText = .ok n ∧ x.prefixLength = uint32OfInt n := by
  constructor
  · intro parsed
    unfold parseCidrRule at parsed
    split at parsed
    · rename_i ipText prefixText parts
      obtain ⟨rfl, absentIp, absentPrefix⟩ := split_eq_pair_iff.mp parts
      cases ip : parseIP ipText with
      | none => simp [ip] at parsed
      | some ip' =>
          cases n : parseInt32 prefixText with
          | error => simp [ip, n] at parsed
          | ok n' =>
              simp only [ip, n, Except.ok.injEq] at parsed
              subst parsed
              exact ⟨ipText, prefixText, n', rfl, absentIp, absentPrefix, ip, n, rfl⟩
    · simp at parsed
  · rintro ⟨ipText, prefixText, n, rfl, absentIp, absentPrefix, ip, parsedPrefix, prefixLength⟩
    rw [parseCidrRule, split_eq_pair_iff.mpr ⟨rfl, absentIp, absentPrefix⟩]
    simp only [ip, parsedPrefix, Except.ok.injEq]
    cases x
    simp_all

/-- The `cidr:` loop. -/
def addCidrRules (cfg : RouterConfig) (c : Client) : Except GoString Client :=
  (loadCode cfg "cidr:".toList).foldlM (fun c info =>
    (parseCidrRule info.code).map fun cidr => c.appendCidrs info.strategy [cidr]) c

/-! ## `NewClient` -/

/-- The `domain_strategy` switch over the lowercased text. -/
def parseDomainStrategy (rt : Runtime) (text : GoString) : Option Int :=
  let text := toLower rt.unicodeLower text
  if text ∈ ["as_is", "as-is", "asis"].map String.toList then some asIs
  else if text ∈ ["ip_if_non_match", "ip-if-non-match", "ipifnonmatch"].map String.toList then
    some ipIfNonMatch
  else if text ∈ ["ip_on_demand", "ip-on-demand", "ipondemand"].map String.toList then some ipOnDemand
  else none

/-- The `default_policy` switch over the lowercased text. -/
def parseDefaultPolicy (rt : Runtime) (text : GoString) : Option Int :=
  let text := toLower rt.unicodeLower text
  if text = "proxy".toList then some proxy
  else if text = "bypass".toList then some bypass
  else if text = "block".toList then some block
  else none

/-- The rule loops of `NewClient`, in the order of the code, from the client built so far. -/
def compileRules (rt : Runtime) (cfg : RouterConfig) (c : Client) : Except GoString Client := do
  let c := addGeoIP rt cfg c
  let c := addGeoSite rt cfg c
  let c := addTextRules rt cfg "domain:".toList .domain c
  let c := addTextRules rt cfg "keyword:".toList .plain c
  let c ← addRegexRules rt cfg "regex:".toList c
  let c ← addRegexRules rt cfg "regexp:".toList c
  let c := addTextRules rt cfg "full:".toList .full c
  addCidrRules cfg c

/-- `NewClient`. An unknown default policy is reported with the text of the domain strategy,
as the code does. -/
def newClient (rt : Runtime) (cfg : RouterConfig) : Except GoString Client := do
  unless rt.directStarts do
    throw "router failed to initialize raw client".toList
  let some domainStrategy := parseDomainStrategy rt cfg.domainStrategy
    | throw ("unknown strategy: ".toList ++ cfg.domainStrategy)
  let some defaultPolicy := parseDefaultPolicy rt cfg.defaultPolicy
    | throw ("unknown strategy: ".toList ++ cfg.domainStrategy)
  compileRules rt cfg (Client.empty defaultPolicy domainStrategy)

/-! ## What the loops keep -/

/-- The strategy and the default policy, which the rule loops never change. -/
def Client.settings (c : Client) : Int × Int := (c.domainStrategy, c.defaultPolicy)

theorem foldl_settings {β : Type} (f : Client → β → Client)
    (keeps : ∀ c b, (f c b).settings = c.settings) :
    ∀ (l : List β) (c : Client), (l.foldl f c).settings = c.settings
  | [], _ => rfl
  | b :: l, c => by rw [List.foldl_cons, foldl_settings f keeps l, keeps]

theorem foldlM_settings {β : Type} (f : Client → β → Except GoString Client)
    (keeps : ∀ c b c', f c b = .ok c' → c'.settings = c.settings) :
    ∀ (l : List β) (c c' : Client), l.foldlM f c = .ok c' → c'.settings = c.settings
  | [], c, c', run => by cases run; rfl
  | b :: l, c, c', run => by
      rw [List.foldlM_cons] at run
      cases step : f c b with
      | error e => simp [step, bind, Except.bind] at run
      | ok next =>
          simp only [step, bind, Except.bind] at run
          rw [foldlM_settings f keeps l next c' run, keeps c b next step]

theorem addGeoIP_settings (rt : Runtime) (cfg : RouterConfig) (c : Client) :
    (addGeoIP rt cfg c).settings = c.settings := by
  unfold addGeoIP
  exact foldl_settings _ (fun c info => by split <;> rfl) _ c

theorem addGeoSite_settings (rt : Runtime) (cfg : RouterConfig) (c : Client) :
    (addGeoSite rt cfg c).settings = c.settings := by
  unfold addGeoSite
  exact foldl_settings _ (fun c info => by split <;> (try split) <;> rfl) _ c

theorem addTextRules_settings (rt : Runtime) (cfg : RouterConfig) (rulePrefix : GoString)
    (type : DomainType) (c : Client) :
    (addTextRules rt cfg rulePrefix type c).settings = c.settings := by
  unfold addTextRules
  apply foldl_settings
  intros
  rfl

theorem addRegexRules_settings {rt : Runtime} {cfg : RouterConfig} {rulePrefix : GoString}
    {c c' : Client} (run : addRegexRules rt cfg rulePrefix c = .ok c') : c'.settings = c.settings := by
  unfold addRegexRules at run
  exact foldlM_settings _ (fun c info c' step => by
    split at step
    · cases step; rfl
    · cases step) _ c c' run

theorem addCidrRules_settings {cfg : RouterConfig} {c c' : Client}
    (run : addCidrRules cfg c = .ok c') : c'.settings = c.settings := by
  unfold addCidrRules at run
  exact foldlM_settings _ (fun c info c' step => by
    cases parsed : parseCidrRule info.code with
    | error e => simp [parsed, Except.map] at step
    | ok cidr =>
        simp only [parsed, Except.map, Except.ok.injEq] at step
        subst step
        rfl) _ c c' run

/-- The loops of `compileRules` one after another: the two `regex` loops and the `cidr:` loop
succeeded, and the others cannot fail. -/
theorem compileRules_eq_ok {rt : Runtime} {cfg : RouterConfig} {c c' : Client}
    (run : compileRules rt cfg c = .ok c') :
    ∃ afterRegex afterRegexp,
      addRegexRules rt cfg "regex:".toList (addTextRules rt cfg "keyword:".toList .plain
        (addTextRules rt cfg "domain:".toList .domain (addGeoSite rt cfg (addGeoIP rt cfg c)))) = .ok afterRegex ∧
      addRegexRules rt cfg "regexp:".toList afterRegex = .ok afterRegexp ∧
      addCidrRules cfg (addTextRules rt cfg "full:".toList .full afterRegexp) = .ok c' := by
  simp only [compileRules, bind, Except.bind] at run
  split at run
  · cases run
  split at run
  · cases run
  exact ⟨_, _, ‹_›, ‹_›, run⟩

theorem compileRules_settings {rt : Runtime} {cfg : RouterConfig} {c c' : Client}
    (run : compileRules rt cfg c = .ok c') : c'.settings = c.settings := by
  obtain ⟨_, _, regexRun, regexpRun, run⟩ := compileRules_eq_ok run
  rw [addCidrRules_settings run, addTextRules_settings, addRegexRules_settings regexpRun,
    addRegexRules_settings regexRun, addTextRules_settings, addTextRules_settings,
    addGeoSite_settings, addGeoIP_settings]

/-- `NewClient` succeeds exactly when the direct client starts, both switches know their text,
and the rule loops succeed. -/
theorem newClient_eq_ok {rt : Runtime} {cfg : RouterConfig} {c : Client} :
    newClient rt cfg = .ok c ↔
      rt.directStarts = true ∧ ∃ domainStrategy defaultPolicy,
        parseDomainStrategy rt cfg.domainStrategy = some domainStrategy ∧
        parseDefaultPolicy rt cfg.defaultPolicy = some defaultPolicy ∧
        compileRules rt cfg (Client.empty defaultPolicy domainStrategy) = .ok c := by
  unfold newClient
  cases started : rt.directStarts <;>
    cases strategy : parseDomainStrategy rt cfg.domainStrategy <;>
    cases policy : parseDefaultPolicy rt cfg.defaultPolicy <;>
    simp [bind, Except.bind, pure, Except.pure, throw, throwThe, MonadExceptOf.throw]

/-- A client that `NewClient` returns has the strategy and the default policy its
configuration names. -/
theorem newClient_settings {rt : Runtime} {cfg : RouterConfig} {c : Client}
    (built : newClient rt cfg = .ok c) :
    ∃ domainStrategy defaultPolicy,
      parseDomainStrategy rt cfg.domainStrategy = some domainStrategy ∧
      parseDefaultPolicy rt cfg.defaultPolicy = some defaultPolicy ∧
      c.settings = (domainStrategy, defaultPolicy) := by
  obtain ⟨-, domainStrategy, defaultPolicy, strategy, policy, run⟩ := newClient_eq_ok.mp built
  exact ⟨domainStrategy, defaultPolicy, strategy, policy, compileRules_settings run⟩

theorem parseDomainStrategy_cases {rt : Runtime} {text : GoString} {strategy : Int}
    (parsed : parseDomainStrategy rt text = some strategy) :
    strategy = asIs ∨ strategy = ipIfNonMatch ∨ strategy = ipOnDemand := by
  simp only [parseDomainStrategy] at parsed
  split_ifs at parsed <;> cases parsed <;> simp

theorem parseDefaultPolicy_cases {rt : Runtime} {text : GoString} {policy : Int}
    (parsed : parseDefaultPolicy rt text = some policy) :
    policy = block ∨ policy = bypass ∨ policy = proxy := by
  simp only [parseDefaultPolicy] at parsed
  split_ifs at parsed <;> cases parsed <;> simp

/-- `NewClient` builds only clients with one of the three strategies and one of the three
policies as default. -/
theorem newClient_valid {rt : Runtime} {cfg : RouterConfig} {c : Client}
    (built : newClient rt cfg = .ok c) :
    (c.domainStrategy = asIs ∨ c.domainStrategy = ipIfNonMatch ∨ c.domainStrategy = ipOnDemand) ∧
      (c.defaultPolicy = block ∨ c.defaultPolicy = bypass ∨ c.defaultPolicy = proxy) := by
  obtain ⟨domainStrategy, defaultPolicy, strategy, policy, settings⟩ := newClient_settings built
  simp only [Client.settings, Prod.mk.injEq] at settings
  rw [settings.1, settings.2]
  exact ⟨parseDomainStrategy_cases strategy, parseDefaultPolicy_cases policy⟩

end TrojanGo.Router

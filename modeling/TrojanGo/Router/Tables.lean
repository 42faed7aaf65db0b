import TrojanGo.Router.NewClient

/-!
# The tables `NewClient` builds

What the rule loops of `NewClient` put in the tables of the client, for every configuration it
accepts. Each loop takes its codes from `loadCode`, whose codes are the remainders of the rules
of each policy's list that carry the loop's prefix (`mem_loadCode`), and appends to the table of
the code's policy only. So the domain table of a policy holds the `geosite:` entries and the
`domain:`, `keyword:`, `regex:`, `regexp:` and `full:` rules of its own list, and its CIDR table
the `geoip:` entries and the `cidr:` rules of that list, and nothing else (`newClient_tables`).
-/

set_option autoImplicit false

namespace TrojanGo.Router

open Net Strings

/-! ## The tables, as the spec reads the configuration -/

/-- The rule list of policy `p`: `Router.Block`, `Router.Bypass` or `Router.Proxy`. -/
def RouterConfig.rules (cfg : RouterConfig) (p : Fin 3) : List GoString :=
  if p = 0 then cfg.block else if p = 1 then cfg.bypass else cfg.proxy

/-- `r` follows `rulePrefix` in a rule of `list`, and is not empty. -/
def Rule (rulePrefix : GoString) (list : List GoString) (r : GoString) : Prop :=
  rulePrefix ++ r ∈ list ∧ r ≠ []

/-- A `geosite:` code names a list and maybe an attribute: `name@attr`, split at the first `@`,
or a name with no `@` and no attribute. A code that starts or ends with `@` names nothing. -/
def SiteCode (code name attr : GoString) : Prop :=
  ¬ ['@'] <+: code ∧ ¬ ['@'] <:+ code ∧
    (('@' ∉ code ∧ name = code ∧ attr = []) ∨ (code = name ++ '@' :: attr ∧ '@' ∉ name))

/-- An entry the loader gives for a `geosite:` code: any entry of the named list, or, when the
code has an attribute, an entry carrying an attribute whose key equals it up to case. -/
def GeositeEntry (rt : Runtime) (file code : GoString) (d : Domain) : Prop :=
  ∃ name attr, SiteCode code name attr ∧ ∃ list, rt.loadSite file name = some list ∧ d ∈ list ∧
    (attr = [] ∨ ∃ a ∈ d.attributes, rt.equalFold attr a.key = true)

/-- What the domain table of policy `p` holds, in the order of the loops: the `geosite:` entries,
the `domain:`, `keyword:`, `regex:`, `regexp:` and `full:` rules of list `p`. -/
def ExpectedDomain (rt : Runtime) (cfg : RouterConfig) (p : Fin 3) (d : Domain) : Prop :=
  (∃ r, Rule "geosite:".toList (cfg.rules p) r ∧ GeositeEntry rt cfg.geoSiteFilename r d) ∨
  (∃ r, Rule "domain:".toList (cfg.rules p) r ∧ d = ⟨.domain, toLower rt.unicodeLower r, []⟩) ∨
  (∃ r, Rule "keyword:".toList (cfg.rules p) r ∧ d = ⟨.plain, toLower rt.unicodeLower r, []⟩) ∨
  (∃ r, Rule "regex:".toList (cfg.rules p) r ∧ d = ⟨.regex, r, []⟩) ∨
  (∃ r, Rule "regexp:".toList (cfg.rules p) r ∧ d = ⟨.regex, r, []⟩) ∨
  ∃ r, Rule "full:".toList (cfg.rules p) r ∧ d = ⟨.full, toLower rt.unicodeLower r, []⟩

/-- What the CIDR table of policy `p` holds: the loaded `geoip:` entries and the parsed `cidr:`
rules of list `p`. -/
def ExpectedCidr (rt : Runtime) (cfg : RouterConfig) (p : Fin 3) (x : CIDR) : Prop :=
  (∃ r, Rule "geoip:".toList (cfg.rules p) r ∧ ∃ cidrs, rt.loadIP cfg.geoIPFilename r = some cidrs ∧ x ∈ cidrs) ∨
  ∃ r, Rule "cidr:".toList (cfg.rules p) r ∧ parseCidrRule r = .ok x

/-! ## `loadCode` -/

theorem mem_codesOf {rulePrefix : GoString} {strategy : Fin 3} {list : List GoString} {info : CodeInfo} :
    info ∈ codesOf rulePrefix strategy list ↔ info.strategy = strategy ∧ Rule rulePrefix list info.code := by
  obtain ⟨code, p⟩ := info
  simp only [codesOf, List.mem_filterMap, Option.ite_none_right_eq_some, Option.some.injEq, CodeInfo.mk.injEq, Rule]
  constructor
  · rintro ⟨s, member, ⟨isPrefix, nonempty⟩, rfl, rfl⟩
    rw [hasPrefix_iff, List.prefix_iff_eq_append] at isPrefix
    exact ⟨rfl, isPrefix.symm ▸ member, nonempty⟩
  · rintro ⟨rfl, member, nonempty⟩
    exact ⟨_, member, ⟨hasPrefix_iff.mpr (List.prefix_append _ _), by simpa using nonempty⟩, by simp, rfl⟩

/-- A code of `loadCode` is the remainder of a rule of the list of its policy. -/
theorem mem_loadCode {cfg : RouterConfig} {rulePrefix : GoString} {info : CodeInfo} :
    info ∈ loadCode cfg rulePrefix ↔ Rule rulePrefix (cfg.rules info.strategy) info.code := by
  obtain ⟨code, p⟩ := info
  simp only [loadCode, List.mem_append, mem_codesOf]
  fin_cases p <;> simp [RouterConfig.rules]

/-- The codes of policy `p` that `loadCode` takes are the remainders of the rules of list `p`. -/
theorem exists_mem_loadCode {cfg : RouterConfig} {rulePrefix : GoString} {p : Fin 3} {P : GoString → Prop} :
    (∃ info ∈ loadCode cfg rulePrefix, info.strategy = p ∧ P info.code) ↔ ∃ r, Rule rulePrefix (cfg.rules p) r ∧ P r :=
  ⟨fun ⟨info, member, policy, holds⟩ => ⟨info.code, policy ▸ mem_loadCode.mp member, holds⟩,
    fun ⟨r, rule, holds⟩ => ⟨⟨r, p⟩, mem_loadCode.mpr rule, rfl, holds⟩⟩

/-! ## The loops -/

@[simp] theorem mem_appendDomains {c : Client} {i p : Fin 3} {rules : List Domain} {d : Domain} :
    d ∈ (c.appendDomains i rules).domains p ↔ d ∈ c.domains p ∨ (i = p ∧ d ∈ rules) := by
  by_cases same : i = p
  · subst same
    simp [Client.appendDomains]
  · simp [Client.appendDomains, Function.update_apply, Ne.symm same, same]

@[simp] theorem mem_appendCidrs {c : Client} {i p : Fin 3} {rules : List CIDR} {x : CIDR} :
    x ∈ (c.appendCidrs i rules).cidrs p ↔ x ∈ c.cidrs p ∨ (i = p ∧ x ∈ rules) := by
  by_cases same : i = p
  · subst same
    simp [Client.appendCidrs]
  · simp [Client.appendCidrs, Function.update_apply, Ne.symm same, same]

section Loops

variable {α : Type} (mem : Client → Fin 3 → α → Prop) (P : GoString → α → Prop)

/-- A loop over the codes of `loadCode` whose step adds `P code` to the table of the code's
policy adds, to the table of `p`, the `P r` of the rules of list `p`. -/
theorem mem_foldl_loadCode (f : Client → CodeInfo → Client)
    (step : ∀ c info p x, mem (f c info) p x ↔ mem c p x ∨ (info.strategy = p ∧ P info.code x))
    (cfg : RouterConfig) (rulePrefix : GoString) (c : Client) (p : Fin 3) (x : α) :
    mem ((loadCode cfg rulePrefix).foldl f c) p x ↔ mem c p x ∨ ∃ r, Rule rulePrefix (cfg.rules p) r ∧ P r x := by
  suffices loop : ∀ (infos : List CodeInfo) c, mem (infos.foldl f c) p x ↔
      mem c p x ∨ ∃ info ∈ infos, info.strategy = p ∧ P info.code x by
    rw [loop, exists_mem_loadCode (P := fun r => P r x)]
  intro infos
  induction infos with
  | nil => simp
  | cons info infos ih => intro c; simp only [List.foldl_cons, ih, step, List.exists_mem_cons_iff, or_assoc]

/-- The same for a loop that can fail, when it succeeds. -/
theorem mem_foldlM_loadCode (f : Client → CodeInfo → Except GoString Client)
    (step : ∀ c info c', f c info = .ok c' → ∀ p x, mem c' p x ↔ mem c p x ∨ (info.strategy = p ∧ P info.code x))
    {cfg : RouterConfig} {rulePrefix : GoString} {c c' : Client}
    (run : (loadCode cfg rulePrefix).foldlM f c = .ok c') (p : Fin 3) (x : α) :
    mem c' p x ↔ mem c p x ∨ ∃ r, Rule rulePrefix (cfg.rules p) r ∧ P r x := by
  suffices loop : ∀ (infos : List CodeInfo) c, infos.foldlM f c = .ok c' → (mem c' p x ↔
      mem c p x ∨ ∃ info ∈ infos, info.strategy = p ∧ P info.code x) by
    rw [loop _ c run, exists_mem_loadCode (P := fun r => P r x)]
  intro infos
  induction infos with
  | nil => intro c run; cases run; simp
  | cons info infos ih =>
      intro c run
      rw [List.foldlM_cons] at run
      cases stepped : f c info with
      | error e => simp [stepped, bind, Except.bind] at run
      | ok next =>
          simp only [stepped, bind, Except.bind] at run
          simp only [ih next run, step c info next stepped, List.exists_mem_cons_iff, or_assoc]

end Loops

/-! ## `geosite:` codes -/

/-- `siteCode` reads a code as `SiteCode` says. -/
theorem siteCode_eq_some {code name attr : GoString} : siteCode code = some (name, attr) ↔ SiteCode code name attr := by
  have at_ : "@".toList = ['@'] := rfl
  by_cases member : '@' ∈ code
  · obtain ⟨pre, post, absent, rfl, -⟩ := List.exists_erase_eq member
    have first : (pre ++ '@' :: post = name ++ '@' :: attr ∧ '@' ∉ name) ↔ name = pre ∧ attr = post := by
      constructor
      · rintro ⟨same, absent'⟩
        have offsets := (index_singleton_append absent).symm.trans (same ▸ index_singleton_append absent')
        obtain ⟨rfl, rest⟩ := List.append_inj same (by omega)
        exact ⟨rfl, (List.cons.inj rest).2.symm⟩
      · rintro ⟨rfl, rfl⟩
        exact ⟨rfl, absent⟩
    have offset : index (pre ++ '@' :: post) ['@'] = pre.length := index_singleton_append absent
    cases pre with
    | nil =>
        simp only [List.nil_append] at offset
        simp [siteCode, SiteCode, at_, offset]
    | cons d pre =>
        have other : '@' ≠ d := fun same => absent (same ▸ List.mem_cons_self _ _)
        have starts : ¬ ['@'] <+: d :: pre ++ '@' :: post := by simp [other]
        by_cases ends : ['@'] <:+ d :: pre ++ '@' :: post
        · simp only [siteCode, SiteCode, at_, offset, hasSuffix_iff.mpr ends, ends]
          simp
        · have suffix := Bool.eq_false_iff.mpr (mt hasSuffix_iff.mp ends)
          simp only [siteCode, SiteCode, at_, offset, suffix, starts, ends, member, first]
          constructor <;> simp +contextual
  · have starts : ¬ ['@'] <+: code := fun isPrefix => member (isPrefix.subset (List.mem_singleton_self _))
    have ends : ¬ ['@'] <:+ code := fun isSuffix => member (isSuffix.subset (List.mem_singleton_self _))
    have apart : ¬ code = name ++ '@' :: attr := by rintro rfl; simp at member
    simp [siteCode, SiteCode, at_, index_singleton_of_not_mem member, member, starts, ends, apart, eq_comm]

example : siteCode "google@cn".toList = some ("google".toList, "cn".toList) := by decide
example : siteCode "google@".toList = none := by decide

theorem mem_selectSite {rt : Runtime} {attrWanted : GoString} {domainList : List Domain} {d : Domain} :
    d ∈ selectSite rt attrWanted domainList ↔
      d ∈ domainList ∧ (attrWanted = [] ∨ ∃ a ∈ d.attributes, rt.equalFold attrWanted a.key = true) := by
  by_cases none : attrWanted = []
  · simp [selectSite, none]
  · simp only [selectSite, none, ne_eq, not_false_eq_true, if_true, List.mem_flatMap, List.mem_map,
      List.mem_filter, false_or]
    constructor
    · rintro ⟨d', member, a, ⟨attr, equal⟩, rfl⟩
      exact ⟨member, a, attr, equal⟩
    · rintro ⟨member, a, attr, equal⟩
      exact ⟨d, member, a, ⟨attr, equal⟩, rfl⟩

/-- A code `siteCode` reads gives the entries of the list it names, with the attribute it names. -/
theorem geositeEntry_of_siteCode {rt : Runtime} {file code name attr : GoString} {d : Domain}
    (site : siteCode code = some (name, attr)) :
    GeositeEntry rt file code d ↔ ∃ list, rt.loadSite file name = some list ∧ d ∈ selectSite rt attr list := by
  simp only [GeositeEntry, ← siteCode_eq_some, site, Option.some.injEq, Prod.mk.injEq, mem_selectSite]
  constructor
  · rintro ⟨_, _, ⟨rfl, rfl⟩, found⟩
    exact found
  · exact fun found => ⟨_, _, ⟨rfl, rfl⟩, found⟩

theorem not_geositeEntry_of_siteCode {rt : Runtime} {file code : GoString} {d : Domain}
    (site : siteCode code = none) : ¬ GeositeEntry rt file code d := by
  rintro ⟨name, attr, reading, -⟩
  rw [← siteCode_eq_some, site] at reading
  cases reading

/-! ## What each loop adds -/

section Loops

variable {rt : Runtime} {cfg : RouterConfig} {c c' : Client} {p : Fin 3} {d : Domain} {x : CIDR}

theorem mem_addGeoIP_domains : d ∈ (addGeoIP rt cfg c).domains p ↔ d ∈ c.domains p := by
  unfold addGeoIP
  refine (mem_foldl_loadCode (fun c p d => d ∈ c.domains p) (fun _ _ => False) _ (fun c info p d => ?_) _ _ c p d).trans
    (by simp)
  split <;> simp

theorem mem_addGeoIP_cidrs : x ∈ (addGeoIP rt cfg c).cidrs p ↔ x ∈ c.cidrs p ∨
    ∃ r, Rule "geoip:".toList (cfg.rules p) r ∧ ∃ cidrs, rt.loadIP cfg.geoIPFilename r = some cidrs ∧ x ∈ cidrs := by
  unfold addGeoIP
  refine mem_foldl_loadCode (fun c p x => x ∈ c.cidrs p)
    (fun r x => ∃ cidrs, rt.loadIP cfg.geoIPFilename r = some cidrs ∧ x ∈ cidrs) _ (fun c info p x => ?_) _ _ c p x
  split <;> simp [*]

theorem mem_addGeoSite_domains : d ∈ (addGeoSite rt cfg c).domains p ↔ d ∈ c.domains p ∨
    ∃ r, Rule "geosite:".toList (cfg.rules p) r ∧ GeositeEntry rt cfg.geoSiteFilename r d := by
  unfold addGeoSite
  refine mem_foldl_loadCode (fun c p d => d ∈ c.domains p) _ _ (fun c info p d => ?_) _ _ c p d
  cases site : siteCode info.code with
  | none => simp [not_geositeEntry_of_siteCode site]
  | some reading =>
      obtain ⟨name, attr⟩ := reading
      cases load : rt.loadSite cfg.geoSiteFilename name <;> simp [geositeEntry_of_siteCode site, load]

theorem mem_addGeoSite_cidrs : x ∈ (addGeoSite rt cfg c).cidrs p ↔ x ∈ c.cidrs p := by
  unfold addGeoSite
  refine (mem_foldl_loadCode (fun c p x => x ∈ c.cidrs p) (fun _ _ => False) _ (fun c info p x => ?_) _ _ c p x).trans
    (by simp)
  split
  · simp
  · split <;> simp

theorem mem_addTextRules_domains {rulePrefix : GoString} {type : DomainType} :
    d ∈ (addTextRules rt cfg rulePrefix type c).domains p ↔ d ∈ c.domains p ∨
      ∃ r, Rule rulePrefix (cfg.rules p) r ∧ d = ⟨type, toLower rt.unicodeLower r, []⟩ := by
  unfold addTextRules
  exact mem_foldl_loadCode (fun c p d => d ∈ c.domains p) (fun r d => d = ⟨type, toLower rt.unicodeLower r, []⟩) _
    (fun c info p d => by simp) _ _ c p d

theorem mem_addTextRules_cidrs {rulePrefix : GoString} {type : DomainType} :
    x ∈ (addTextRules rt cfg rulePrefix type c).cidrs p ↔ x ∈ c.cidrs p := by
  unfold addTextRules
  exact (mem_foldl_loadCode (fun c p x => x ∈ c.cidrs p) (fun _ _ => False) _ (fun c info p x => by simp) _ _ c p x).trans
    (by simp)

theorem mem_addRegexRules_domains {rulePrefix : GoString} (run : addRegexRules rt cfg rulePrefix c = .ok c') :
    d ∈ c'.domains p ↔ d ∈ c.domains p ∨ ∃ r, Rule rulePrefix (cfg.rules p) r ∧ d = ⟨.regex, r, []⟩ := by
  refine mem_foldlM_loadCode (fun c p d => d ∈ c.domains p) (fun r d => d = ⟨.regex, r, []⟩) _
    (fun c info c' step p d => ?_) run p d
  split at step
  · cases step
    simp
  · cases step

theorem mem_addRegexRules_cidrs {rulePrefix : GoString} (run : addRegexRules rt cfg rulePrefix c = .ok c') :
    x ∈ c'.cidrs p ↔ x ∈ c.cidrs p := by
  refine (mem_foldlM_loadCode (fun c p x => x ∈ c.cidrs p) (fun _ _ => False) _
    (fun c info c' step p x => ?_) run p x).trans (by simp)
  split at step
  · cases step
    simp
  · cases step

theorem mem_addCidrRules_domains (run : addCidrRules cfg c = .ok c') : d ∈ c'.domains p ↔ d ∈ c.domains p := by
  refine (mem_foldlM_loadCode (fun c p d => d ∈ c.domains p) (fun _ _ => False) _
    (fun c info c' step p d => ?_) run p d).trans (by simp)
  cases parsed : parseCidrRule info.code <;> simp only [parsed, Except.map, reduceCtorEq, Except.ok.injEq] at step
  subst step
  simp

theorem mem_addCidrRules_cidrs (run : addCidrRules cfg c = .ok c') :
    x ∈ c'.cidrs p ↔ x ∈ c.cidrs p ∨ ∃ r, Rule "cidr:".toList (cfg.rules p) r ∧ parseCidrRule r = .ok x := by
  refine mem_foldlM_loadCode (fun c p x => x ∈ c.cidrs p) (fun r x => parseCidrRule r = .ok x) _
    (fun c info c' step p x => ?_) run p x
  cases parsed : parseCidrRule info.code <;> simp only [parsed, Except.map, reduceCtorEq, Except.ok.injEq] at step
  subst step
  simp [parsed, @eq_comm _ x]

end Loops

/-! ## The tables -/

/-- The rule loops add to the table of each policy what its own list asks for. -/
theorem compileRules_tables {rt : Runtime} {cfg : RouterConfig} {c c' : Client}
    (run : compileRules rt cfg c = .ok c') (p : Fin 3) :
    (∀ d, d ∈ c'.domains p ↔ d ∈ c.domains p ∨ ExpectedDomain rt cfg p d) ∧
      ∀ x, x ∈ c'.cidrs p ↔ x ∈ c.cidrs p ∨ ExpectedCidr rt cfg p x := by
  obtain ⟨afterRegex, afterRegexp, regexRun, regexpRun, cidrRun⟩ := compileRules_eq_ok run
  constructor
  · intro d
    rw [mem_addCidrRules_domains cidrRun, mem_addTextRules_domains, mem_addRegexRules_domains regexpRun,
      mem_addRegexRules_domains regexRun, mem_addTextRules_domains, mem_addTextRules_domains,
      mem_addGeoSite_domains, mem_addGeoIP_domains]
    simp only [ExpectedDomain, or_assoc]
  · intro x
    rw [mem_addCidrRules_cidrs cidrRun, mem_addTextRules_cidrs, mem_addRegexRules_cidrs regexpRun,
      mem_addRegexRules_cidrs regexRun, mem_addTextRules_cidrs, mem_addTextRules_cidrs,
      mem_addGeoSite_cidrs, mem_addGeoIP_cidrs]
    simp only [ExpectedCidr, or_assoc]

/-- Every client that `NewClient` returns holds, in the domain table and in the CIDR table of
each policy, exactly the rules and loaded entries of that policy's list. -/
theorem newClient_tables {rt : Runtime} {cfg : RouterConfig} {c : Client} (built : newClient rt cfg = .ok c)
    (p : Fin 3) :
    (∀ d, d ∈ c.domains p ↔ ExpectedDomain rt cfg p d) ∧ ∀ x, x ∈ c.cidrs p ↔ ExpectedCidr rt cfg p x := by
  obtain ⟨-, _, _, -, -, run⟩ := newClient_eq_ok.mp built
  simpa [Client.empty] using compileRules_tables run p

/-- The configuration `block: ["domain:Example.com", "cidr:10.0.0.0/8"]`, `proxy: ["regexp:a+"]`. -/
theorem newClient_tables_of_two_lists :
    newClient ⟨⟨fun _ => true, fun _ _ => false⟩, id, fun a b => a == b, fun _ _ => none, fun _ _ => none, true⟩
        ⟨"as_is".toList, "proxy".toList, ["regexp:a+".toList], [],
          ["domain:Example.com".toList, "cidr:10.0.0.0/8".toList], [], []⟩ =
      .ok ((((Client.empty proxy asIs).appendDomains 0 [⟨.domain, "example.com".toList, []⟩]).appendDomains 2
        [⟨.regex, "a+".toList, []⟩]).appendCidrs 0 [⟨⟨v4InV6Prefix ++ [10, 0, 0, 0], by decide⟩, 8⟩]) ∧
    ((∀ d, d ∈ ((((Client.empty proxy asIs).appendDomains 0 [⟨.domain, "example.com".toList, []⟩]).appendDomains 2
        [⟨.regex, "a+".toList, []⟩]).appendCidrs 0 [⟨⟨v4InV6Prefix ++ [10, 0, 0, 0], by decide⟩, 8⟩]).domains 0 ↔
      ExpectedDomain ⟨⟨fun _ => true, fun _ _ => false⟩, id, fun a b => a == b, fun _ _ => none, fun _ _ => none, true⟩
        ⟨"as_is".toList, "proxy".toList, ["regexp:a+".toList], [],
          ["domain:Example.com".toList, "cidr:10.0.0.0/8".toList], [], []⟩ 0 d) ∧
      ∀ x, x ∈ ((((Client.empty proxy asIs).appendDomains 0 [⟨.domain, "example.com".toList, []⟩]).appendDomains 2
        [⟨.regex, "a+".toList, []⟩]).appendCidrs 0 [⟨⟨v4InV6Prefix ++ [10, 0, 0, 0], by decide⟩, 8⟩]).cidrs 0 ↔
      ExpectedCidr ⟨⟨fun _ => true, fun _ _ => false⟩, id, fun a b => a == b, fun _ _ => none, fun _ _ => none, true⟩
        ⟨"as_is".toList, "proxy".toList, ["regexp:a+".toList], [],
          ["domain:Example.com".toList, "cidr:10.0.0.0/8".toList], [], []⟩ 0 x) :=
  have built : newClient ⟨⟨fun _ => true, fun _ _ => false⟩, id, fun a b => a == b, fun _ _ => none,
      fun _ _ => none, true⟩
      ⟨"as_is".toList, "proxy".toList, ["regexp:a+".toList], [],
        ["domain:Example.com".toList, "cidr:10.0.0.0/8".toList], [], []⟩ =
      .ok ((((Client.empty proxy asIs).appendDomains 0 [⟨.domain, "example.com".toList, []⟩]).appendDomains 2
        [⟨.regex, "a+".toList, []⟩]).appendCidrs 0 [⟨⟨v4InV6Prefix ++ [10, 0, 0, 0], by decide⟩, 8⟩]) := rfl
  ⟨built, newClient_tables built 0⟩

end TrojanGo.Router

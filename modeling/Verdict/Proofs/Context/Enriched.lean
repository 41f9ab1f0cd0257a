import Verdict.Proofs.Context.Parts
import Verdict.Proofs.Intel

/-!
# What enrichment adds to a request

Where a request has an address and some provider answers in time, enrichment puts the three parts of
their consensus into the security factors, in the place of what was there (`Consensus.putInto`), and
changes nothing else.  A second time it puts in what is there already (`enrich_sets`).
-/

namespace Verdict

/-! ## The factors of a consensus -/

namespace Value

theorem itemTexts_map_str (ss : List String) : itemTexts (ss.map .str) = ss := by
  induction ss with
  | nil => rfl
  | cons s rest ih => rw [List.map_cons, itemTexts, ih, ofJson, display, text?, Option.getD_some]

/-- A list of texts is read as itself. -/
theorem ofJson_ofStrings (ss : List String) : ofJson (.ofStrings ss) = .list ss := by
  rw [Json.ofStrings, ofJson, itemTexts_map_str]

/-- A finite number is read as itself. -/
theorem ofJson_ofFloat {x : Float} (finite : Number.isFinite x = true) :
    ofJson (.ofFloat x) = .number x := by
  rw [Json.ofFloat, if_pos finite]
  rfl

end Value

namespace Consensus

/-- The names of the factors that enrichment sets. -/
def factorNames : List String :=
  ["ip_reputation", "malicious_ip", "threat_categories"]

/-- The factors that a consensus comes to. -/
def factors (c : Consensus) : List (String × Json) :=
  [("ip_reputation", .ofFloat c.score), ("malicious_ip", .bool c.malicious),
    ("threat_categories", .ofStrings c.categories)]

/-- Puts the factors of a consensus in the place of those of the same names. -/
def putInto (c : Consensus) (factors : KeyMap Json) : KeyMap Json :=
  c.factors.foldl (fun m e => m.insert e.1 e.2) factors

theorem get?_putInto (c : Consensus) (factors : KeyMap Json) (name : String) :
    (c.putInto factors).get? name = (c.factors.reverse.lookup name).or (factors.get? name) :=
  KeyMap.get?_foldl_insert c.factors factors name

/-- Factors of other names stay as they are. -/
theorem get?_putInto_of_other {name : String} (other : name ∉ factorNames) (c : Consensus)
    (factors : KeyMap Json) : (c.putInto factors).get? name = factors.get? name := by
  have names : c.factors.map Prod.fst = factorNames := rfl
  have absent : c.factors.reverse.lookup name = none := by
    refine List.lookup_eq_none_iff.mpr fun entry member => ?_
    have named : entry.1 ∈ factorNames :=
      names ▸ List.mem_map_of_mem (List.mem_reverse.mp member)
    exact bne_iff_ne.mpr fun same => other (same ▸ named)
  rw [get?_putInto, absent, Option.none_or]

theorem putInto_putInto (c : Consensus) (factors : KeyMap Json) :
    c.putInto (c.putInto factors) = c.putInto factors := by
  refine KeyMap.eq_of_get? fun name => ?_
  rw [get?_putInto, get?_putInto]
  cases c.factors.reverse.lookup name <;> rfl

variable {c : Consensus} {about : String} {answering : List Provider}

theorem Merges.isFinite_score (merges : c.Merges about answering) :
    Number.isFinite c.score = true := by
  obtain ⟨a, ranked, least, below, -⟩ := merges.ranked
  exact Number.isFinite_of_rank ranked (by omega) below

theorem Merges.isEmpty_eq (merges : c.Merges about answering) :
    c.isEmpty = answering.isEmpty := by
  rw [isEmpty, merges.providers]
  cases answering <;> rfl

end Consensus

/-! ## Enriched requests -/

namespace Context

/-- Whether the security factors of a request say what a consensus says, under each name of their
    part. -/
structure Reports (ctx : Context) (c : Consensus) : Prop where
  score : ∀ lead, Part.ofName? lead = some .security →
    ctx.resolve (lead ++ "." ++ "ip_reputation") = some (.number c.score)
  malicious : ∀ lead, Part.ofName? lead = some .security →
    ctx.resolve (lead ++ "." ++ "malicious_ip") = some (.bool c.malicious)
  categories : ∀ lead, Part.ofName? lead = some .security →
    ctx.resolve (lead ++ "." ++ "threat_categories") = some (.list c.categories)

/-- A request with the factors of a consensus. -/
def withConsensus (ctx : Context) (c : Consensus) : Context :=
  { ctx with securityFactors := c.putInto ctx.securityFactors }

theorem enrich_of_no_address {ctx : Context} (none : ctx.clientIp = none)
    (providers : List Provider) (timeout : Nat) : ctx.enrich providers timeout = ctx := by
  rw [enrich, none]

theorem enrich_of_address {ctx : Context} {ip : String} (given : ctx.clientIp = some ip)
    (providers : List Provider) (timeout : Nat) :
    ctx.enrich providers timeout =
      if (providers.filter (Provider.inTime timeout)).isEmpty then ctx
      else ctx.withConsensus (.ask providers timeout ip) := by
  have merges := Consensus.merges_ask providers timeout ip
  rw [enrich, given, ← merges.isEmpty_eq]
  rfl

theorem resolve_factor (ctx : Context) {lead name : String}
    (known : Part.ofName? lead = some .security) (set : name ∈ Consensus.factorNames) :
    ctx.resolve (lead ++ "." ++ name) = (ctx.securityFactors.get? name).map Value.ofJson := by
  have visible : ∀ name ∈ Consensus.factorNames,
      String.ofList (Text.dropBlankEnd name.toList) = name := by decide
  rw [resolve_append ctx known, visible name set]
  rfl

theorem reports_withConsensus {c : Consensus} {about : String} {answering : List Provider}
    (merges : c.Merges about answering) (ctx : Context) : (ctx.withConsensus c).Reports c where
  score lead known := by
    rw [resolve_factor _ known (by decide), withConsensus, Consensus.get?_putInto]
    exact congrArg some (Value.ofJson_ofFloat merges.isFinite_score)
  malicious lead known := by
    rw [resolve_factor _ known (by decide), withConsensus, Consensus.get?_putInto]
    rfl
  categories lead known := by
    rw [resolve_factor _ known (by decide), withConsensus, Consensus.get?_putInto]
    exact congrArg some (Value.ofJson_ofStrings c.categories)

/-- Enrichment leaves a request as it was where the request has no address or no provider answers in
    time.  Otherwise the request then reports the consensus of those that did.  Nothing changes but
    the factors of the consensus, and a second enrichment changes nothing more. -/
theorem enrich_sets (ctx : Context) (providers : List Provider) (timeout : Nat) :
    let answering := providers.filter (Provider.inTime timeout)
    let enriched := ctx.enrich providers timeout
    (ctx.clientIp = none ∨ answering = [] → enriched = ctx) ∧
    (∀ ip, ctx.clientIp = some ip → answering ≠ [] →
      let c := Consensus.ask providers timeout ip
      c.Merges ip answering ∧ enriched.Reports c) ∧
    enriched = { ctx with securityFactors := enriched.securityFactors } ∧
    (∀ name ∉ Consensus.factorNames,
      enriched.securityFactors.get? name = ctx.securityFactors.get? name) ∧
    enriched.enrich providers timeout = enriched := by
  intro answering enriched
  obtain given | ⟨ip, given⟩ := Option.eq_none_or_eq_some ctx.clientIp
  · have same : enriched = ctx := enrich_of_no_address given providers timeout
    rw [same]
    have unknown (ip : String) : ctx.clientIp ≠ some ip := by simp [given]
    exact ⟨fun _ => rfl, fun ip found => absurd found (unknown ip), rfl, fun _ _ => rfl, same⟩
  have unfolded : enriched = _ := enrich_of_address given providers timeout
  by_cases silent : answering = []
  · have same : enriched = ctx := unfolded.trans (if_pos (List.isEmpty_iff.mpr silent))
    rw [same]
    exact ⟨fun _ => rfl, fun _ _ heard => absurd silent heard, rfl, fun _ _ => rfl, same⟩
  have heard : ¬ answering.isEmpty := mt List.isEmpty_iff.mp silent
  have set : enriched = ctx.withConsensus (.ask providers timeout ip) :=
    unfolded.trans (if_neg heard)
  rw [set]
  refine ⟨fun unchanged => ?_, fun ip' found _ => ?_, rfl, fun name other => ?_, ?_⟩
  · exact absurd (unchanged.resolve_left (by simp [given])) silent
  · obtain rfl := Option.some.inj (given.symm.trans found)
    have merges := Consensus.merges_ask providers timeout ip
    exact ⟨merges, reports_withConsensus merges ctx⟩
  · exact Consensus.get?_putInto_of_other other _ _
  · -- the address is still there, so the same consensus is put in once more
    have still : (ctx.withConsensus (.ask providers timeout ip)).clientIp = some ip := given
    rw [enrich_of_address still, if_neg heard]
    exact congrArg (fun factors => { ctx with securityFactors := factors })
      (Consensus.putInto_putInto _ _)

/-- One of two providers is late; what the other says takes the place of an earlier score, and the
    country stays. -/
theorem enrich_sets_over_earlier :
    let table : KeyMap Reputation := .ofList [("203.0.113.9", ⟨85, true, ["scanner", "botnet"]⟩)]
    let providers : List Provider :=
      [{ name := "slow", latency := 51 }, { name := "feed", entries := table }]
    let ctx : Context :=
      { requestId := "q", clientIp := some "203.0.113.9", timestamp := default,
        securityFactors :=
          .ofList [("ip_reputation", .str "unknown"), ("country", .str "NL")] }
    let enriched := ctx.enrich providers 50
    enriched.resolve "security.ip_reputation" = some (.number 85) ∧
      enriched.resolve "security.malicious_ip" = some (.bool true) ∧
      enriched.resolve "security.threat_categories" = some (.list ["botnet", "scanner"]) ∧
      enriched.securityFactors.get? "country" = some (.str "NL") := by
  intro table providers ctx enriched
  have sets := enrich_sets ctx providers 50
  have heard : providers.filter (Provider.inTime 50) ≠ [] := by decide
  obtain ⟨-, reports⟩ := sets.2.1 "203.0.113.9" rfl heard
  have other : "country" ∉ Consensus.factorNames := by decide
  have score : (Consensus.ask providers 50 "203.0.113.9").score = 85 := by decide +kernel
  have malicious : (Consensus.ask providers 50 "203.0.113.9").malicious = true := by decide +kernel
  have categories :
      (Consensus.ask providers 50 "203.0.113.9").categories = ["botnet", "scanner"] := by
    decide +kernel
  refine ⟨?_, ?_, ?_, (sets.2.2.2.1 "country" other).trans rfl⟩
  · exact (reports.score "security" rfl).trans (score ▸ rfl)
  · exact (reports.malicious "security" rfl).trans (malicious ▸ rfl)
  · exact (reports.categories "security" rfl).trans (categories ▸ rfl)

end Context

end Verdict

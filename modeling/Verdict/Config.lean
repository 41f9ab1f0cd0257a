import Verdict.Decision
import Verdict.RuleFile

/-!
# Configuration

Every setting has a default.  A configuration is read from a file and then overridden by
environment variables whose names start with `DECISION_ENGINE_`.
-/

namespace Verdict

/-- The topics under which events are published. -/
structure Topics where
  blockRequests : String := "block-requests"
  securityAlerts : String := "security-alerts"
  auditLog : String := "audit-log"
  notifications : String := "notifications"
  quarantine : String := "quarantine"
  rateLimits : String := "rate-limits"
  redirects : String := "redirects"
  ruleUpdates : String := "rule-updates"
  policyDecisions : String := "policy-decisions"
  riskAssessments : String := "risk-assessments"
  deriving Repr, DecidableEq, Inhabited

namespace Topics

/-- The names of the fields. -/
def fieldNames : List FieldName :=
  ["block_requests", "security_alerts", "audit_log", "notifications", "quarantine",
    "rate_limits", "redirects", "rule_updates", "policy_decisions",
    "risk_assessments"].map fun name => ⟨name, []⟩

/-- Reads topics. -/
def ofDatum? (d : Datum) : Option Topics := do
  let fields ← d.fields? fieldNames
  let t : Topics := {}
  return {
    blockRequests := ← fields.orElse "block_requests" t.blockRequests Datum.text?
    securityAlerts := ← fields.orElse "security_alerts" t.securityAlerts Datum.text?
    auditLog := ← fields.orElse "audit_log" t.auditLog Datum.text?
    notifications := ← fields.orElse "notifications" t.notifications Datum.text?
    quarantine := ← fields.orElse "quarantine" t.quarantine Datum.text?
    rateLimits := ← fields.orElse "rate_limits" t.rateLimits Datum.text?
    redirects := ← fields.orElse "redirects" t.redirects Datum.text?
    ruleUpdates := ← fields.orElse "rule_updates" t.ruleUpdates Datum.text?
    policyDecisions := ← fields.orElse "policy_decisions" t.policyDecisions Datum.text?
    riskAssessments := ← fields.orElse "risk_assessments" t.riskAssessments Datum.text? }

/-- The JSON form of topics. -/
def toJson (t : Topics) : Json :=
  .obj [("block_requests", .str t.blockRequests), ("security_alerts", .str t.securityAlerts),
    ("audit_log", .str t.auditLog), ("notifications", .str t.notifications),
    ("quarantine", .str t.quarantine), ("rate_limits", .str t.rateLimits),
    ("redirects", .str t.redirects), ("rule_updates", .str t.ruleUpdates),
    ("policy_decisions", .str t.policyDecisions), ("risk_assessments", .str t.riskAssessments)]

end Topics

/-- The settings of an engine. -/
structure Config where
  /-- Seconds between two refreshes of the snapshots. -/
  refreshSecs : UInt64 := 30
  /-- How many milliseconds a provider may take. -/
  providerMillis : UInt64 := 2000
  /-- How many milliseconds a publication may take. -/
  publishMillis : UInt64 := 1000
  vocabulary : Vocabulary := .access
  topics : Topics := {}
  logLevel : String := "info"
  deriving Repr, DecidableEq, Inhabited

namespace Config

/-- What the names of all environment variables start with. -/
def variableLead : String := "DECISION_ENGINE_"

/-- Reads the level of the log from the telemetry settings. -/
def logLevelOf? (d : Datum) : Option String := do
  let fields ← d.fields? [⟨"log_level", []⟩]
  fields.orElse "log_level" "info" Datum.text?

/-- The names of the fields. -/
def fieldNames : List FieldName :=
  ["refresh_interval_secs", "provider_timeout_ms", "publish_timeout_ms", "vocabulary", "topics",
    "telemetry"].map fun name => ⟨name, []⟩

/-- Reads a configuration. -/
def ofDatum? (d : Datum) : Option Config := do
  let fields ← d.fields? fieldNames
  return {
    refreshSecs := ← fields.orElse "refresh_interval_secs" 30 Datum.version?
    providerMillis := ← fields.orElse "provider_timeout_ms" 2000 Datum.version?
    publishMillis := ← fields.orElse "publish_timeout_ms" 1000 Datum.version?
    vocabulary := ← fields.orElse "vocabulary" .access Named.ofDatum?
    topics := ← fields.orElse "topics" {} Topics.ofDatum?
    logLevel := ← fields.orElse "telemetry" "info" logLevelOf? }

/-- The JSON form of a configuration. -/
def toJson (c : Config) : Json :=
  .obj [("refresh_interval_secs", .ofVersion c.refreshSecs),
    ("provider_timeout_ms", .ofVersion c.providerMillis),
    ("publish_timeout_ms", .ofVersion c.publishMillis),
    ("vocabulary", Named.toJson c.vocabulary), ("topics", c.topics.toJson),
    ("telemetry", .obj [("log_level", .str c.logLevel)])]

/-- What is wrong with a configuration, the first fault only. -/
def fault? (c : Config) : Option ConfigFault :=
  if c.refreshSecs == 0 then some .zeroRefresh
  else if c.providerMillis == 0 || c.publishMillis == 0 then some .zeroTimeout
  else none

/-- Accepts a configuration if nothing is wrong with it. -/
def validate (c : Config) : Except Failure Unit :=
  match c.fault? with
  | none => .ok ()
  | some fault => .error (.config fault)

/-- Reads a configuration from a text in a format. -/
def read (format : Format) (content : String) : Except Failure Config := do
  let c ← Datum.readText ofDatum? format content
  c.validate
  return c

/-- Reads a natural number of 64 bits, blanks around it ignored. -/
def readWord (name text : String) : Except Failure UInt64 :=
  match (Number.readNat? (Text.trim text)).filter (· < UInt64.size) with
  | some n => .ok (UInt64.ofNat n)
  | none => .error (.config (.notNatural (variableLead ++ name)))

/-- Reads the word for a vocabulary. -/
def readVocabulary (name text : String) : Except Failure Vocabulary :=
  match Text.toAsciiLower (Text.trim text) with
  | "access" | "policy" => .ok .access
  | "compliance" => .ok .compliance
  | "classification" => .ok .classification
  | other => .error (.config (.unknownVocabulary (variableLead ++ name) other))

/-- A setting that an environment variable overrides. -/
structure Override where
  name : String
  apply : Config → String → Except Failure Config

/-- The overrides, in the order in which they are applied. -/
def overrides : List Override :=
  [⟨"REFRESH_INTERVAL_SECS", fun c s =>
      (readWord "REFRESH_INTERVAL_SECS" s).map fun n => { c with refreshSecs := n }⟩,
    ⟨"PROVIDER_TIMEOUT_MS", fun c s =>
      (readWord "PROVIDER_TIMEOUT_MS" s).map fun n => { c with providerMillis := n }⟩,
    ⟨"PUBLISH_TIMEOUT_MS", fun c s =>
      (readWord "PUBLISH_TIMEOUT_MS" s).map fun n => { c with publishMillis := n }⟩,
    ⟨"VOCABULARY", fun c s =>
      (readVocabulary "VOCABULARY" s).map fun v => { c with vocabulary := v }⟩,
    ⟨"LOG_LEVEL", fun c s => .ok { c with logLevel := s }⟩]

/-- The variable that names the file of the configuration. -/
def fileVariable : String := variableLead ++ "CONFIG"

/-- The names of all variables that a configuration is made from. -/
def variableNames : List String :=
  fileVariable :: overrides.map fun o => variableLead ++ o.name

/-- Applies overrides in turn up to the first that fails; those before it stay applied. -/
def applyAll (env : String → Option String) (c : Config) :
    List Override → Config × Except Failure Unit
  | [] => (c, .ok ())
  | o :: rest =>
      match env (variableLead ++ o.name) with
      | none => applyAll env c rest
      | some text =>
          match o.apply c text with
          | .ok c => applyAll env c rest
          | .error e => (c, .error e)

/-- Overrides settings by environment variables. -/
def overrideBy (env : String → Option String) (c : Config) : Config × Except Failure Unit :=
  applyAll env c overrides

end Config

end Verdict

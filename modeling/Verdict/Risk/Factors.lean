import Verdict.Context
import Verdict.Number.Scalar
import Verdict.Risk.Profile

/-!
# What the factors of a request amount to

Five tables give points for active factors.  Each sub-score is capped to the range from 0 to 100,
and the weighted score is their sum with fixed weights that add up to one.
-/

namespace Verdict

/-- The points of a factor: fixed ones when it is active, or some for each unit of its number.
    Points are given in tenths. -/
inductive Contribution where
  | flag (tenths : Nat)
  | perUnit (tenths : Nat)
  deriving Repr

/-- A table of points. -/
abbrev PointTable := List (String × Contribution)

namespace PointTable

/-- Factors that say how sensitive the data is. -/
def sensitivity : PointTable :=
  [("credentials", .flag 400), ("secrets", .flag 400), ("critical_data", .flag 400),
    ("pci_data", .flag 350), ("phi_data", .flag 350), ("pii_detected", .flag 250),
    ("financial_data", .flag 250), ("health_data", .flag 250), ("biometric_data", .flag 250),
    ("personal_data", .flag 150), ("internal_data", .flag 100), ("public_data", .flag 20)]

/-- Factors that say how exposed the request is. -/
def exposure : PointTable :=
  [("public_endpoint", .flag 300), ("anonymous_access", .flag 250),
    ("internet_facing", .flag 250), ("external_access", .flag 250),
    ("third_party_sharing", .flag 200), ("unencrypted_transport", .flag 200),
    ("cross_region", .flag 100)]

/-- Controls that are in place; their points are taken away from 100. -/
def controls : PointTable :=
  [("authenticated", .flag 300), ("mfa_enabled", .flag 200), ("rbac_enforced", .flag 150),
    ("encryption_at_rest", .flag 150), ("audit_logging", .flag 100), ("rate_limited", .flag 100)]

/-- Factors that say how vulnerable the target is. -/
def vulnerability : PointTable :=
  [("injection_detected", .flag 400), ("malicious_ip", .flag 350),
    ("suspicious_payload", .flag 250), ("outdated_dependencies", .flag 200),
    ("misconfiguration", .flag 200), ("known_vulnerabilities", .perUnit 150),
    ("ip_reputation", .perUnit 3)]

/-- Factors against compliance. -/
def compliance : PointTable :=
  [("compliance_violations", .perUnit 200), ("missing_consent", .flag 250),
    ("retention_exceeded", .flag 200), ("cross_border_transfer", .flag 150),
    ("unclassified_data", .flag 100)]

end PointTable

section

variable {ν : Type} [Scalar ν]

/-- The points of one factor of a request. -/
def Context.pointsOf (ctx : Context) (factor : String) : Contribution → ν
  | .flag tenths => if ctx.isActive factor then Scalar.ratio tenths 10 else Scalar.nat 0
  | .perUnit tenths =>
      let units := (ctx.factorNumber? factor).filter (Number.less 0)
      match units with
      | some n => Scalar.ofFloat n * Scalar.ratio tenths 10
      | none => if ctx.isActive factor then Scalar.ratio tenths 10 else Scalar.nat 0

/-- The points of all factors of a table. -/
def Context.points (ctx : Context) (table : PointTable) : ν :=
  Scalar.sum (table.map fun (factor, contribution) => ctx.pointsOf factor contribution)

/-- Brings a number into the range from 0 to 100. -/
def capScore (x : ν) : ν :=
  Scalar.between (Scalar.nat 0) (Scalar.nat 100) x

/-- The final form of a score: in the range from 0 to 100, and 0 if it is not a number. -/
def clampScore (x : ν) : ν :=
  if Scalar.isNaN x then Scalar.nat 0 else capScore x

/-- The five sub-scores. -/
structure SubScores (ν : Type) where
  sensitivity : ν
  exposure : ν
  controls : ν
  vulnerability : ν
  compliance : ν
  deriving Repr, BEq

/-- The sub-scores of a request. -/
def Context.subScores (ctx : Context) : SubScores ν where
  sensitivity := capScore (ctx.points .sensitivity)
  exposure := capScore (ctx.points .exposure)
  controls := capScore (Scalar.nat 100 - ctx.points .controls)
  vulnerability := capScore (ctx.points .vulnerability)
  compliance := capScore (ctx.points .compliance)

/-- The weighted sum of the sub-scores. -/
def SubScores.weighted (s : SubScores ν) : ν :=
  s.sensitivity * Scalar.ratio 30 100 + s.exposure * Scalar.ratio 20 100 +
    s.controls * Scalar.ratio 20 100 + s.vulnerability * Scalar.ratio 15 100 +
    s.compliance * Scalar.ratio 15 100

end

/-- The factors of each class of data, the most severe class first. -/
def dataClasses : List (RiskLevel × List String) :=
  [(.critical, ["credentials", "secrets", "pci_data", "phi_data", "critical_data"]),
    (.high, ["pii_detected", "financial_data", "health_data", "biometric_data"]),
    (.medium, ["personal_data", "internal_data"]), (.low, ["public_data"])]

/-- The most severe class of data with an active factor. -/
def Context.dataClass? (ctx : Context) : Option RiskLevel :=
  (dataClasses.find? fun (_, factors) => factors.any ctx.isActive).map Prod.fst

/-- The profile for a request: that of its class of data, else the default one, else one for
    medium risk, else the first. -/
def selectProfile? (ctx : Context) (profiles : List Profile) : Option Profile :=
  let ofClass (level : RiskLevel) := profiles.find? fun p => p.category == level
  (((ctx.dataClass?.bind ofClass).or (profiles.find? Profile.isDefault)).or
    (ofClass .medium)).or profiles.head?

end Verdict

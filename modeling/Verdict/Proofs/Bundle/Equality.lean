import Mathlib.Data.List.Forall2
import Verdict.Bundle

/-!
# Equal entities

Entities are equal when all their fields are.  Floats are compared as numbers, so that both zeros
are equal; everything that holds no float is equal only to itself.
-/

namespace Verdict

section

variable {α : Type} [BEq α]

/-- Lists are equal when they hold equal items in the same order. -/
theorem list_beq_iff {l l' : List α} :
    (l == l') = true ↔ List.Forall₂ (fun a a' => (a == a') = true) l l' := by
  induction l generalizing l' with
  | nil => cases l' <;> simp
  | cons a rest ih => cases l' <;> simp [ih]

theorem keyMap_beq_iff {m m' : KeyMap α} : (m == m') = true ↔
    List.Forall₂ (fun e e' => e.1 = e'.1 ∧ (e.2 == e'.2) = true) m.entries m'.entries := by
  have entries : (m == m') = (m.entries == m'.entries) := rfl
  have pairs : ∀ e e' : String × α, (e == e') = true ↔ e.1 = e'.1 ∧ (e.2 == e'.2) = true := by
    intro e e'
    have unfolded : (e == e') = (e.1 == e'.1 && e.2 == e'.2) := rfl
    rw [unfolded, Bool.and_eq_true, beq_iff_eq]
  rw [entries, list_beq_iff]
  simp only [pairs]

end

theorem Value.beq_number {x y : Float} : (Value.number x == Value.number y) = (x == y) := rfl

/-- Values other than numbers are equal to themselves. -/
theorem Value.beq_self {v : Value} (other : ∀ x, v ≠ .number x) : (v == v) = true := by
  cases v with
  | null => rfl
  | bool b => exact beq_self_eq_true b
  | number x => exact absurd rfl (other x)
  | text s => exact beq_self_eq_true s
  | list items => exact beq_self_eq_true items

theorem Condition.beq_iff {c c' : Condition} : (c == c') = true ↔
    c.field = c'.field ∧ c.operator = c'.operator ∧ (c.value == c'.value) = true ∧
      c.valueType = c'.valueType ∧ c.caseSensitive = c'.caseSensitive ∧ c.negate = c'.negate ∧
      (c.weight == c'.weight) = true ∧ c.connective = c'.connective := by
  have unfolded : (c == c') = (c.field == c'.field && (c.operator == c'.operator &&
      (c.value == c'.value && (c.valueType == c'.valueType && (c.caseSensitive == c'.caseSensitive &&
      (c.negate == c'.negate && (c.weight == c'.weight && c.connective == c'.connective))))))) := rfl
  simp only [unfolded, Bool.and_eq_true, beq_iff_eq]

theorem Action.beq_iff {a a' : Action} : (a == a') = true ↔
    a.actionType = a'.actionType ∧ (a.parameters == a'.parameters) = true ∧ a.enabled = a'.enabled := by
  have unfolded : (a == a') = (a.actionType == a'.actionType && (a.parameters == a'.parameters &&
      a.enabled == a'.enabled)) := rfl
  simp only [unfolded, Bool.and_eq_true, beq_iff_eq]

theorem TimeWindow.beq_self (w : TimeWindow) : (w == w) = true := by
  have unfolded : (w == w) = (w.startHour == w.startHour && (w.endHour == w.endHour &&
      w.days == w.days)) := rfl
  simp [unfolded]

theorem Scope.beq_self (s : Scope) : (s == s) = true := by
  have unfolded : (s == s) = (s.apis == s.apis && (s.endpoints == s.endpoints &&
      (s.users == s.users && (s.roles == s.roles && (s.ipRanges == s.ipRanges &&
      s.timeWindows == s.timeWindows))))) := rfl
  have windows : (s.timeWindows == s.timeWindows) = true :=
    list_beq_iff.mpr (List.forall₂_same.mpr fun w _ => w.beq_self)
  simp [unfolded, windows]

theorem Rule.beq_iff {r r' : Rule} : (r == r') = true ↔
    (r.id = r'.id ∧ r.name = r'.name ∧ r.description = r'.description ∧ r.priority = r'.priority ∧
      r.enabled = r'.enabled ∧ r.status = r'.status) ∧ (r.conditions == r'.conditions) = true ∧
      (r.actions == r'.actions) = true ∧ r.failFast = r'.failFast ∧ (r.scope == r'.scope) = true ∧
      r.version = r'.version ∧ r.createdAt = r'.createdAt ∧ r.updatedAt = r'.updatedAt := by
  have unfolded : (r == r') = (r.id == r'.id && (r.name == r'.name && (r.description == r'.description &&
      (r.priority == r'.priority && (r.enabled == r'.enabled && (r.status == r'.status &&
      (r.conditions == r'.conditions && (r.actions == r'.actions && (r.failFast == r'.failFast &&
      (r.scope == r'.scope && (r.version == r'.version && (r.createdAt == r'.createdAt &&
      r.updatedAt == r'.updatedAt)))))))))))) := rfl
  simp only [unfolded, Bool.and_eq_true, beq_iff_eq, and_assoc]

theorem Adjustment.beq_iff {a a' : Adjustment} : (a == a') = true ↔
    a.adjustmentType = a'.adjustmentType ∧ (a.value == a'.value) = true ∧ a.reason = a'.reason := by
  have unfolded : (a == a') = (a.adjustmentType == a'.adjustmentType && (a.value == a'.value &&
      a.reason == a'.reason)) := rfl
  simp only [unfolded, Bool.and_eq_true, beq_iff_eq]

theorem ScoringRule.beq_iff {r r' : ScoringRule} : (r == r') = true ↔
    r.id = r'.id ∧ r.name = r'.name ∧ r.priority = r'.priority ∧ r.enabled = r'.enabled ∧
      (r.conditions == r'.conditions) = true ∧ (r.adjustment == r'.adjustment) = true ∧
      r.version = r'.version ∧ r.updatedAt = r'.updatedAt := by
  have unfolded : (r == r') = (r.id == r'.id && (r.name == r'.name && (r.priority == r'.priority &&
      (r.enabled == r'.enabled && (r.conditions == r'.conditions && (r.adjustment == r'.adjustment &&
      (r.version == r'.version && r.updatedAt == r'.updatedAt))))))) := rfl
  simp only [unfolded, Bool.and_eq_true, beq_iff_eq]

theorem Thresholds.beq_iff {t t' : Thresholds} : (t == t') = true ↔
    (t.low == t'.low) = true ∧ (t.medium == t'.medium) = true ∧ (t.high == t'.high) = true ∧
      (t.critical == t'.critical) = true := by
  have unfolded : (t == t') = (t.low == t'.low && (t.medium == t'.medium && (t.high == t'.high &&
      t.critical == t'.critical))) := rfl
  simp only [unfolded, Bool.and_eq_true]

theorem Profile.beq_iff {p p' : Profile} : (p == p') = true ↔
    (p.id = p'.id ∧ p.name = p'.name ∧ p.description = p'.description ∧ p.category = p'.category) ∧
      (p.baseScore == p'.baseScore) = true ∧ (p.multipliers == p'.multipliers) = true ∧
      (p.thresholds == p'.thresholds) = true ∧ p.isDefault = p'.isDefault ∧ p.version = p'.version ∧
      p.updatedAt = p'.updatedAt := by
  have unfolded : (p == p') = (p.id == p'.id && (p.name == p'.name && (p.description == p'.description &&
      (p.category == p'.category && (p.baseScore == p'.baseScore && (p.multipliers == p'.multipliers &&
      (p.thresholds == p'.thresholds && (p.isDefault == p'.isDefault && (p.version == p'.version &&
      p.updatedAt == p'.updatedAt))))))))) := rfl
  simp only [unfolded, Bool.and_eq_true, beq_iff_eq, and_assoc]

theorem Holdings.beq_iff {h h' : Holdings} : (h == h') = true ↔
    (h.rules == h'.rules) = true ∧ (h.scoringRules == h'.scoringRules) = true ∧
      (h.profiles == h'.profiles) = true := by
  have unfolded : (h == h') = (h.rules == h'.rules && (h.scoringRules == h'.scoringRules &&
      h.profiles == h'.profiles)) := rfl
  simp only [unfolded, Bool.and_eq_true]

theorem Bundle.beq_iff {b b' : Bundle} : (b == b') = true ↔
    b.formatVersion = b'.formatVersion ∧ b.exportedAt = b'.exportedAt ∧ b.checksum = b'.checksum ∧
      (b.holdings == b'.holdings) = true := by
  have unfolded : (b == b') = (b.formatVersion == b'.formatVersion && (b.exportedAt == b'.exportedAt &&
      (b.checksum == b'.checksum && b.holdings == b'.holdings))) := rfl
  simp only [unfolded, Bool.and_eq_true, beq_iff_eq]

end Verdict

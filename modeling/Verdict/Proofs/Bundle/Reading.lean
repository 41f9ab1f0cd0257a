import Verdict.Proofs.Bundle.Numbers
import Verdict.Proofs.Datum
import Verdict.Proofs.Instant.Text
import Verdict.Proofs.Json.Reading
import Verdict.Proofs.Named
import Verdict.RuleFile

/-!
# Bundles are read back

The text of a bundle in JSON is read as a bundle that equals it in every field and has the same
checksum (`Bundle.read_jsonText`).  What is read differs in one thing only: a zero below zero among
the compared values is written as an integer and comes back as zero.
-/

namespace Verdict

/-! ## Values -/

/-- Whether a number is an integer of 32 bits, as priorities are. -/
def FitsInt32 (n : Int) : Prop :=
  -2147483648 ≤ n ∧ n ≤ 2147483647

instance (n : Int) : Decidable (FitsInt32 n) :=
  inferInstanceAs (Decidable (_ ∧ _))

namespace Datum

@[simp] theorem text?_str (s : String) : text? (.json (.str s)) = some s := rfl

@[simp] theorem bool?_bool (b : Bool) : bool? (.json (.bool b)) = some b := rfl

@[simp] theorem optional?_text (s : Option String) :
    optional? text? (.json (.ofOptional s)) = some s := by
  cases s <;> rfl

theorem float?_ofFloat {x : Float} (finite : Number.isFinite x = true) :
    float? (.json (.ofFloat x)) = some x := by
  rw [Json.ofFloat, if_pos finite]
  exact if_pos finite

theorem nat?_ofNat {n bound : Nat} (fits : n ≤ bound) : nat? bound (.json (.ofNat n)) = some n := by
  show Option.filter (fun m => decide (m ≤ bound)) (some n) = some n
  exact if_pos (decide_eq_true fits)

@[simp] theorem version?_ofVersion (v : UInt64) : version? (.json (.ofVersion v)) = some v := by
  have fits : v.toNat ≤ UInt64.size - 1 := Nat.le_pred_of_lt v.toNat_lt
  rw [version?, Json.ofVersion, nat?_ofNat fits, Option.map_some, UInt64.ofNat_toNat]

theorem priority?_ofInt {n : Int} (fits : FitsInt32 n) :
    priority? (.json (.ofInt n)) = some n := by
  show Option.filter (fun m => decide (-2147483648 ≤ m) && decide (m ≤ 2147483647)) (some n) = some n
  exact if_pos (by simpa [FitsInt32] using fits)

theorem instant?_toJson {t : Instant} (inCalendar : t.InCalendar) :
    instant? (.json t.toJson) = some t := by
  rw [instant?, Instant.toJson, text?_str, Option.bind_some, Instant.read?_text inCalendar]

/-- A list is read back where each item is. -/
theorem list?_map {α : Type} {read : Datum → Option α} {toJson : α → Json} {l : List α}
    (each : ∀ a ∈ l, read (.json (toJson a)) = some a) :
    list? read (.json (.arr (l.map toJson))) = some l := by
  show ((l.map toJson).map Datum.json).mapM read = some l
  induction l with
  | nil => rfl
  | cons a rest ih =>
    rw [List.map_cons, List.map_cons, List.mapM_cons, each a List.mem_cons_self,
      ih fun b member => each b (List.mem_cons_of_mem _ member)]
    rfl

@[simp] theorem texts?_ofStrings (ss : List String) : texts? (.json (.ofStrings ss)) = some ss :=
  list?_map fun _ _ => rfl

end Datum

theorem Value.isSound_toJson (v : Value) : v.toJson.isSound = true :=
  Json.isSound_iff.mpr (allNumbers_toJson Json.Number.common_finite v)

/-- A value with a finite number is restored. -/
theorem Value.restores {v : Value} (finite : v.isFinite = true) : Restores Datum.value? toJson v := by
  cases v with
  | null => exact ⟨.null, rfl, rfl, rfl⟩
  | bool b => exact ⟨.bool b, rfl, beq_self nofun, rfl⟩
  | text s => exact ⟨.text s, rfl, beq_self nofun, rfl⟩
  | list items =>
    refine ⟨.list items, ?_, beq_self nofun, rfl⟩
    have texts : itemTexts (Json.normalItems (items.map .str)) = items := by
      induction items with
      | nil => rfl
      | cons s rest ih => exact congrArg (s :: ·) (ih rfl)
    exact Datum.value?_eq_some.mpr ⟨isSound_toJson (.list items), congrArg Value.list texts⟩
  | number x =>
    cases whole : smallInt? x with
    | none =>
      have written : toJson (.number x) = .num (.float x) := by
        simp only [toJson, whole, Json.ofFloat, if_pos (show Number.isFinite x = true from finite)]
      have read : Datum.value? (.json (toJson (.number x))) = some (.number x) :=
        Datum.value?_eq_some.mpr ⟨isSound_toJson (.number x), by rw [written]; rfl⟩
      exact ⟨.number x, read, Number.beq_self finite, rfl⟩
    | some n =>
      obtain ⟨integer, small⟩ := smallInt?_eq_some.mp whole
      have same : Number.toInt? (Number.ofInt n) = some n :=
        Number.toInt?_ofInt (Nat.lt_trans small (by decide))
      have written : toJson (.number x) = .ofInt n := by simp only [toJson, whole]
      refine ⟨.number (Number.ofInt n), by rw [written]; rfl, ?_, ?_⟩
      · exact Number.beq_of_rank (Number.isFinite_of_toInt same) finite
          (Number.rank_eq_of_toInt same integer)
      · rw [written, toJson, smallInt?_eq_some.mpr ⟨same, small⟩]

/-! ## Conditions and actions -/

theorem Condition.restores {c : Condition} (finite : c.isFinite = true) :
    Restores ofDatum? toJson c := by
  obtain ⟨value, weight⟩ := Bool.and_eq_true_iff.mp finite
  obtain ⟨v, read, equal, written⟩ := Value.restores value
  obtain ⟨fields, found, lookup⟩ := Datum.fields?_obj fieldNames (j := c.toJson) rfl (by decide) rfl
  refine ⟨{ c with value := v }, ?_, ?_, ?_⟩
  · rw [ofDatum?, found, Option.bind_eq_bind, Option.bind_some]
    simp [toJson, Fields.required, Fields.orElse, lookup, Json.member?, Json.lookup, read,
      Named.ofDatum?_toJson, Datum.float?_ofFloat weight]
  · exact beq_iff.mpr ⟨rfl, rfl, equal, rfl, rfl, rfl, Number.beq_self weight, rfl⟩
  · simp only [toJson, written]

theorem Action.restores {a : Action} (finite : a.isFinite = true) : Restores ofDatum? toJson a := by
  obtain ⟨m, read, equal, written⟩ := Restores.map (m := a.parameters) fun e member =>
    Value.restores (List.all_eq_true.mp finite e member)
  obtain ⟨fields, found, lookup⟩ := Datum.fields?_obj fieldNames (j := a.toJson) rfl (by decide) rfl
  refine ⟨{ a with parameters := m }, ?_, ?_, ?_⟩
  · rw [ofDatum?, found, Option.bind_eq_bind, Option.bind_some]
    simp [toJson, Fields.required, Fields.orElse, lookup, Json.member?, Json.lookup, read,
      Named.ofDatum?_toJson]
  · exact beq_iff.mpr ⟨rfl, equal, rfl⟩
  · simp only [toJson, written]

/-! ## Scopes -/

theorem TimeWindow.ofDatum?_toJson {w : TimeWindow} (fits : ∀ n ∈ w.numbers, n ≤ maxNumber) :
    ofDatum? (.json w.toJson) = some w := by
  obtain ⟨start, fits⟩ := List.forall_mem_cons.mp fits
  obtain ⟨stop, days⟩ := List.forall_mem_cons.mp fits
  obtain ⟨fields, found, lookup⟩ := Datum.fields?_obj
    [⟨"start_hour", []⟩, ⟨"end_hour", []⟩, ⟨"days", []⟩] (j := w.toJson) rfl (by decide) rfl
  have read := Datum.list?_map (l := w.days) fun n member => Datum.nat?_ofNat (days n member)
  rw [ofDatum?, found, Option.bind_eq_bind, Option.bind_some]
  simp [toJson, Fields.required, Fields.orElse, lookup, Json.member?, Json.lookup,
    Datum.nat?_ofNat start, Datum.nat?_ofNat stop, read]

theorem Scope.ofDatum?_toJson {s : Scope}
    (fits : ∀ w ∈ s.timeWindows, ∀ n ∈ w.numbers, n ≤ TimeWindow.maxNumber) :
    ofDatum? (.json s.toJson) = some s := by
  obtain ⟨fields, found, lookup⟩ := Datum.fields?_obj
    [⟨"apis", []⟩, ⟨"endpoints", []⟩, ⟨"users", []⟩, ⟨"roles", []⟩, ⟨"ip_ranges", []⟩,
      ⟨"time_windows", []⟩] (j := s.toJson) rfl (by decide) rfl
  have windows := Datum.list?_map fun w member => TimeWindow.ofDatum?_toJson (fits w member)
  rw [ofDatum?, found, Option.bind_eq_bind, Option.bind_some]
  simp [toJson, Fields.orElse, lookup, Json.member?, Json.lookup, windows]

/-! ## Entities -/

/-- Whether the numbers and times of a rule are ordinary: finite floats, integers of their machine
    types and years of the calendar. -/
structure Rule.Ordinary (r : Rule) : Prop where
  finite : r.isFinite = true
  priority : FitsInt32 r.priority
  windows : ∀ w ∈ r.scope.timeWindows, ∀ n ∈ w.numbers, n ≤ TimeWindow.maxNumber
  created : r.createdAt.InCalendar
  updated : r.updatedAt.InCalendar

theorem Rule.restores {r : Rule} (now : Instant) (ordinary : r.Ordinary) :
    Restores (ofDatum? now) toJson r := by
  obtain ⟨conditions, actions⟩ := Bool.and_eq_true_iff.mp ordinary.finite
  obtain ⟨cs, conditions_read, conditions_equal, conditions_written⟩ := Restores.list fun c member =>
    Condition.restores (List.all_eq_true.mp conditions c member)
  obtain ⟨as, actions_read, actions_equal, actions_written⟩ := Restores.list fun a member =>
    Action.restores (List.all_eq_true.mp actions a member)
  obtain ⟨fields, found, lookup⟩ := Datum.fields?_obj fieldNames (j := r.toJson) rfl (by decide) rfl
  refine ⟨{ r with conditions := cs, actions := as }, ?_, ?_, ?_⟩
  · rw [ofDatum?, found, Option.bind_eq_bind, Option.bind_some]
    simp [toJson, Fields.required, Fields.orElse, Fields.optional, lookup, Json.member?, Json.lookup,
      Named.ofDatum?_toJson, Datum.priority?_ofInt ordinary.priority, conditions_read, actions_read,
      Scope.ofDatum?_toJson ordinary.windows, Datum.instant?_toJson ordinary.created,
      Datum.instant?_toJson ordinary.updated]
  · exact beq_iff.mpr ⟨⟨rfl, rfl, rfl, rfl, rfl, rfl⟩, conditions_equal, actions_equal, rfl,
      Scope.beq_self _, rfl, rfl, rfl⟩
  · simp only [toJson, conditions_written, actions_written]

/-- Whether the numbers and times of a scoring rule are ordinary. -/
structure ScoringRule.Ordinary (r : ScoringRule) : Prop where
  finite : r.isFinite = true
  priority : FitsInt32 r.priority
  updated : r.updatedAt.InCalendar

theorem Adjustment.ofDatum?_toJson {a : Adjustment} (finite : Number.isFinite a.value = true) :
    ofDatum? (.json a.toJson) = some a := by
  obtain ⟨fields, found, lookup⟩ := Datum.fields?_obj
    [⟨"type", []⟩, ⟨"value", []⟩, ⟨"reason", []⟩] (j := a.toJson) rfl (by decide) rfl
  rw [ofDatum?, found, Option.bind_eq_bind, Option.bind_some]
  simp [toJson, Fields.required, Fields.orElse, lookup, Json.member?, Json.lookup,
    Named.ofDatum?_toJson, Datum.float?_ofFloat finite]

theorem ScoringRule.restores {r : ScoringRule} (now : Instant) (ordinary : r.Ordinary) :
    Restores (ofDatum? now) toJson r := by
  obtain ⟨conditions, value⟩ := Bool.and_eq_true_iff.mp ordinary.finite
  obtain ⟨cs, conditions_read, conditions_equal, conditions_written⟩ := Restores.list fun c member =>
    Condition.restores (List.all_eq_true.mp conditions c member)
  obtain ⟨fields, found, lookup⟩ := Datum.fields?_obj fieldNames (j := r.toJson) rfl (by decide) rfl
  refine ⟨{ r with conditions := cs }, ?_, ?_, ?_⟩
  · rw [ofDatum?, found, Option.bind_eq_bind, Option.bind_some]
    simp [toJson, Fields.required, Fields.orElse, lookup, Json.member?, Json.lookup,
      Datum.priority?_ofInt ordinary.priority, conditions_read, Adjustment.ofDatum?_toJson value,
      Datum.instant?_toJson ordinary.updated]
  · exact beq_iff.mpr ⟨rfl, rfl, rfl, rfl, conditions_equal,
      Adjustment.beq_iff.mpr ⟨rfl, Number.beq_self value, rfl⟩, rfl, rfl⟩
  · simp only [toJson, conditions_written]

/-- Whether the numbers and times of a profile are ordinary. -/
structure Profile.Ordinary (p : Profile) : Prop where
  finite : p.isFinite = true
  updated : p.updatedAt.InCalendar

theorem Thresholds.ofDatum?_toJson {t : Thresholds} (finite : t.isFinite = true) :
    ofDatum? (.json t.toJson) = some t := by
  simp only [isFinite, Bool.and_eq_true] at finite
  obtain ⟨⟨⟨low, medium⟩, high⟩, critical⟩ := finite
  obtain ⟨fields, found, lookup⟩ := Datum.fields?_obj
    [⟨"low", []⟩, ⟨"medium", []⟩, ⟨"high", []⟩, ⟨"critical", []⟩] (j := t.toJson) rfl (by decide) rfl
  rw [ofDatum?, found, Option.bind_eq_bind, Option.bind_some]
  simp [toJson, Fields.required, lookup, Json.member?, Json.lookup, Datum.float?_ofFloat low,
    Datum.float?_ofFloat medium, Datum.float?_ofFloat high, Datum.float?_ofFloat critical]

theorem Thresholds.beq_self {t : Thresholds} (finite : t.isFinite = true) : (t == t) = true := by
  simp only [isFinite, Bool.and_eq_true] at finite
  obtain ⟨⟨⟨low, medium⟩, high⟩, critical⟩ := finite
  exact beq_iff.mpr ⟨Number.beq_self low, Number.beq_self medium, Number.beq_self high,
    Number.beq_self critical⟩

theorem Profile.restores {p : Profile} (now : Instant) (ordinary : p.Ordinary) :
    Restores (ofDatum? now) toJson p := by
  have finite := ordinary.finite
  simp only [isFinite, Bool.and_eq_true] at finite
  obtain ⟨⟨baseScore, multipliers⟩, thresholds⟩ := finite
  obtain ⟨m, multipliers_read, multipliers_equal, multipliers_written⟩ :=
    Restores.map (m := p.multipliers) fun e member =>
      ⟨e.2, Datum.float?_ofFloat (List.all_eq_true.mp multipliers e member),
        Number.beq_self (List.all_eq_true.mp multipliers e member), rfl⟩
  obtain ⟨fields, found, lookup⟩ := Datum.fields?_obj fieldNames (j := p.toJson) rfl (by decide) rfl
  refine ⟨{ p with multipliers := m }, ?_, ?_, ?_⟩
  · rw [ofDatum?, found, Option.bind_eq_bind, Option.bind_some]
    simp [toJson, Fields.required, Fields.orElse, Fields.optional, lookup, Json.member?, Json.lookup,
      Named.ofDatum?_toJson, Datum.float?_ofFloat baseScore, multipliers_read,
      Thresholds.ofDatum?_toJson thresholds, Datum.instant?_toJson ordinary.updated]
  · exact beq_iff.mpr ⟨⟨rfl, rfl, rfl, rfl⟩, Number.beq_self baseScore, multipliers_equal,
      Thresholds.beq_self thresholds, rfl, rfl, rfl⟩
  · simp only [toJson, multipliers_written]

/-! ## Bundles -/

/-- Whether the numbers and times of a bundle are ordinary. -/
structure Bundle.Ordinary (b : Bundle) : Prop where
  exported : b.exportedAt.InCalendar
  rules : ∀ r ∈ b.holdings.rules, r.Ordinary
  scoringRules : ∀ r ∈ b.holdings.scoringRules, r.Ordinary
  profiles : ∀ p ∈ b.holdings.profiles, p.Ordinary

/-- A bundle is restored from its JSON form, with the same checksum. -/
theorem Bundle.restores {b : Bundle} (now : Instant) (ordinary : b.Ordinary) :
    Restores (ofDatum? now) toJson b := by
  obtain ⟨rs, rules_read, rules_equal, rules_written⟩ := Restores.list fun r member =>
    Rule.restores now (ordinary.rules r member)
  obtain ⟨ss, scoringRules_read, scoringRules_equal, scoringRules_written⟩ :=
    Restores.list fun r member => ScoringRule.restores now (ordinary.scoringRules r member)
  obtain ⟨ps, profiles_read, profiles_equal, profiles_written⟩ := Restores.list fun p member =>
    Profile.restores now (ordinary.profiles p member)
  obtain ⟨fields, found, lookup⟩ := Datum.fields?_obj fieldNames (j := b.toJson) rfl (by decide) rfl
  refine ⟨{ b with holdings := ⟨rs, ss, ps⟩ }, ?_, ?_, ?_⟩
  · rw [ofDatum?, found, Option.bind_eq_bind, Option.bind_some]
    simp [toJson, Holdings.members, Holdings.ofFields?, Fields.required, Fields.orElse, lookup,
      Json.member?, Json.lookup, Datum.instant?_toJson ordinary.exported, rules_read,
      scoringRules_read, profiles_read]
  · exact beq_iff.mpr ⟨rfl, rfl, rfl,
      Holdings.beq_iff.mpr ⟨rules_equal, scoringRules_equal, profiles_equal⟩⟩
  · simp only [toJson, Holdings.members, rules_written, scoringRules_written, profiles_written]

/-! ## The depth of a bundle -/

section

open Json (depth_arr_le depth_obj_le)

@[simp] theorem Json.depth_named {α : Type} [Named α] (a : α) : (Named.toJson a).depth = 0 := rfl

@[simp] theorem Json.depth_instant (t : Instant) : t.toJson.depth = 0 := rfl

@[simp] theorem Json.depth_ofInt (n : Int) : (ofInt n).depth = 0 := rfl

@[simp] theorem Json.depth_ofNat (n : Nat) : (ofNat n).depth = 0 := rfl

@[simp] theorem Json.depth_ofVersion (v : UInt64) : (ofVersion v).depth = 0 := rfl

@[simp] theorem Json.depth_ofFloat (x : Float) : (ofFloat x).depth = 0 := by
  unfold ofFloat
  split <;> rfl

@[simp] theorem Json.depth_ofOptional (s : Option String) : (ofOptional s).depth = 0 := by
  cases s <;> rfl

theorem Json.depth_ofStrings (ss : List String) : (ofStrings ss).depth ≤ 1 := by
  simp [ofStrings, depth_arr_le]

theorem Value.depth_toJson (v : Value) : v.toJson.depth ≤ 1 := by
  cases v with
  | null | bool | text => exact Nat.zero_le _
  | list items => exact Json.depth_ofStrings items
  | number x =>
    simp only [toJson]
    cases smallInt? x with
    | none => simp
    | some n => simp

theorem Condition.depth_toJson (c : Condition) : c.toJson.depth ≤ 2 := by
  simp [toJson, depth_obj_le, Value.depth_toJson]

theorem Action.depth_toJson (a : Action) : a.toJson.depth ≤ 3 := by
  have parameters : (Json.obj (a.parameters.map Value.toJson).entries).depth ≤ 2 :=
    depth_obj_le.mpr (List.forall_mem_map.mpr fun e _ => Value.depth_toJson e.2)
  simp [toJson, depth_obj_le, parameters]

theorem Scope.depth_toJson (s : Scope) : s.toJson.depth ≤ 4 := by
  have window : ∀ w : TimeWindow, w.toJson.depth ≤ 2 := by
    intro w
    simp [TimeWindow.toJson, depth_obj_le, depth_arr_le]
  have texts : ∀ ss, (Json.ofStrings ss).depth ≤ 3 := fun ss =>
    (Json.depth_ofStrings ss).trans (by decide)
  simp [toJson, depth_obj_le, depth_arr_le, window, texts]

theorem Rule.depth_toJson (r : Rule) : r.toJson.depth ≤ 5 := by
  have conditions : ∀ c : Condition, c.toJson.depth ≤ 3 := fun c => c.depth_toJson.trans (by decide)
  simp [toJson, depth_obj_le, depth_arr_le, conditions, Action.depth_toJson, Scope.depth_toJson]

theorem ScoringRule.depth_toJson (r : ScoringRule) : r.toJson.depth ≤ 5 := by
  have conditions : ∀ c : Condition, c.toJson.depth ≤ 3 := fun c => c.depth_toJson.trans (by decide)
  simp [toJson, Adjustment.toJson, depth_obj_le, depth_arr_le, conditions]

theorem Profile.depth_toJson (p : Profile) : p.toJson.depth ≤ 5 := by
  have multipliers : (Json.obj (p.multipliers.map Json.ofFloat).entries).depth ≤ 4 :=
    depth_obj_le.mpr (List.forall_mem_map.mpr fun e _ => by simp)
  simp [toJson, Thresholds.toJson, depth_obj_le, multipliers]

theorem Bundle.depth_toJson (b : Bundle) : b.toJson.depth ≤ 7 := by
  simp [toJson, Holdings.members, depth_obj_le, depth_arr_le, Rule.depth_toJson,
    ScoringRule.depth_toJson, Profile.depth_toJson]

end

/-! ## Texts of bundles -/

theorem Json.Number.common_readable : Common Readable := by
  refine ⟨fun n small => ?_, fun v => ?_, fun _ finite => finite⟩
  · have bound : n.natAbs < 1000000000000000 := small
    exact ⟨by omega, by omega⟩
  · have bound := v.toNat_lt
    exact ⟨by omega, by omega⟩

/-- The numbers in the JSON form of a bundle are read back. -/
theorem Bundle.readable_toJson {b : Bundle} (ordinary : b.Ordinary) :
    b.toJson.AllNumbers Json.Number.Readable := by
  have natural : ∀ n : Nat, n ≤ TimeWindow.maxNumber → Json.Number.Readable (.int n) := by
    intro n fits
    have bound : n ≤ 4294967295 := fits
    exact ⟨by omega, by omega⟩
  have priority : ∀ n, FitsInt32 n → Json.Number.Readable (.int n) := by
    rintro n ⟨low, high⟩
    exact ⟨by omega, by omega⟩
  have integers : ∀ n ∈ b.holdings.integers, Json.Number.Readable (.int n) := by
    intro n member
    rcases List.mem_append.mp member with ofRule | ofScoringRule
    · obtain ⟨r, held, member⟩ := List.mem_flatMap.mp ofRule
      rcases List.mem_cons.mp member with rfl | ofWindow
      · exact priority _ (ordinary.rules r held).priority
      · obtain ⟨w, window, member⟩ := List.mem_flatMap.mp ofWindow
        obtain ⟨m, shown, rfl⟩ := List.mem_map.mp member
        exact natural m ((ordinary.rules r held).windows w window m shown)
    · obtain ⟨r, held, rfl⟩ := List.mem_map.mp ofScoringRule
      exact priority _ (ordinary.scoringRules r held).priority
  have members := Json.allNumbers_obj.mp
    (Holdings.allNumbers_members Json.Number.common_readable integers)
  refine Json.allNumbers_obj.mpr (List.forall_mem_append.mpr ⟨?_, members⟩)
  simp

/-- The text of a bundle is read as an equal bundle that verifies as the first one does. -/
theorem Bundle.read_jsonText (now : Instant) {b : Bundle} (ordinary : b.Ordinary) :
    ∃ b', Bundle.read now b.jsonText = .ok b' ∧ (b' == b) = true ∧ b'.verify = b.verify := by
  obtain ⟨b', found, equal, written⟩ := restores now ordinary
  obtain ⟨-, -, checksum, -⟩ := beq_iff.mp equal
  have text : Json.scan? b.jsonText = some b.toJson :=
    Json.scan?_pretty (b.depth_toJson.trans (by decide)) (readable_toJson ordinary)
  have format : Format.detect b.jsonText = .json := by
    rw [Format.detect, jsonText, Json.pretty, String.toList_ofList]
    rfl
  have members : b'.holdings.members = b.holdings.members := by
    simp only [toJson, List.cons_append, List.nil_append, Json.obj.injEq, List.cons.injEq] at written
    exact written.2.2.2
  have recomputed : b'.computed = b.computed := by
    rw [computed, computed, Holdings.checksum, Holdings.checksum, Holdings.canonical,
      Holdings.canonical, members]
  refine ⟨b', ?_, equal, ?_⟩
  · rw [Bundle.read, format]
    simp only [Datum.readText, Datum.readJson, Datum.ofJsonText?, text, Option.map_some,
      Option.bind_some, found]
  · rw [verify, verify, recomputed, checksum]

/-- A scoring rule is read back, a zero below zero in it as zero. -/
theorem Bundle.read_jsonText_negative_zero :
    ∃ b', Bundle.read .epoch (jsonText (.new .epoch
        ⟨[], [.new .epoch "\"night\"" [⟨"n", .equals, .number (-0.0), .auto, true, false, 0.1, .and⟩]
          .add 2.5], []⟩)) = .ok b' ∧
      (b' == .new .epoch
        ⟨[], [.new .epoch "\"night\"" [⟨"n", .equals, .number (-0.0), .auto, true, false, 0.1, .and⟩]
          .add 2.5], []⟩) = true ∧ b'.verify = .ok () := by
  have epoch : Instant.epoch.InCalendar := Instant.inCalendar_of_four_digits (by decide) (by decide)
  have ordinary : ScoringRule.Ordinary (.new .epoch "\"night\""
      [⟨"n", .equals, .number (-0.0), .auto, true, false, 0.1, .and⟩] .add 2.5) :=
    ⟨by decide +kernel, by decide, epoch⟩
  have writable : Bundle.Ordinary (.new .epoch ⟨[], [.new .epoch "\"night\""
      [⟨"n", .equals, .number (-0.0), .auto, true, false, 0.1, .and⟩] .add 2.5], []⟩) :=
    ⟨epoch, List.forall_mem_nil _, List.forall_mem_singleton.mpr ordinary, List.forall_mem_nil _⟩
  obtain ⟨b', found, equal, verified⟩ := read_jsonText .epoch writable
  exact ⟨b', found, equal, verified.trans (verify_new _ _)⟩

end Verdict

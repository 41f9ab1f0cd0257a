import Verdict.Proofs.Bundle.Equality
import Verdict.Proofs.Json.Normal
import Verdict.Proofs.Number.Plain

/-!
# The numbers of entities

Entities hold floats, priorities, hours, days and versions, and these are all the numbers in their
JSON forms.  What is true of each of them is so of each number that is written
(`Holdings.allNumbers_members`).
-/

namespace Verdict

/-! ## Entities with finite numbers -/

/-- Whether a value is a finite number or no number. -/
def Value.isFinite : Value → Bool
  | .number x => Number.isFinite x
  | _ => true

/-- Whether the floats of a condition are finite. -/
def Condition.isFinite (c : Condition) : Bool :=
  c.value.isFinite && Number.isFinite c.weight

/-- Whether the floats of an action are finite. -/
def Action.isFinite (a : Action) : Bool :=
  a.parameters.entries.all fun e => e.2.isFinite

/-- Whether the floats of a rule are finite. -/
def Rule.isFinite (r : Rule) : Bool :=
  r.conditions.all Condition.isFinite && r.actions.all Action.isFinite

/-- Whether the floats of a scoring rule are finite. -/
def ScoringRule.isFinite (r : ScoringRule) : Bool :=
  r.conditions.all Condition.isFinite && Number.isFinite r.adjustment.value

/-- Whether all thresholds are finite. -/
def Thresholds.isFinite (t : Thresholds) : Bool :=
  Number.isFinite t.low && Number.isFinite t.medium && Number.isFinite t.high &&
    Number.isFinite t.critical

/-- Whether the floats of a profile are finite. -/
def Profile.isFinite (p : Profile) : Bool :=
  Number.isFinite p.baseScore && p.multipliers.entries.all (fun e => Number.isFinite e.2) &&
    p.thresholds.isFinite

/-- Whether the floats of all entities are finite. -/
def Holdings.isFinite (h : Holdings) : Bool :=
  h.rules.all Rule.isFinite && h.scoringRules.all ScoringRule.isFinite &&
    h.profiles.all Profile.isFinite

/-! ## The numbers in a JSON value -/

namespace Json

/-- Whether a property holds of each number inside a value. -/
def AllNumbers (P : Number → Prop) (j : Json) : Prop :=
  ∀ n ∈ j.numbers, P n

section

variable {P : Number → Prop}

@[simp] theorem allNumbers_null : AllNumbers P .null := nofun

@[simp] theorem allNumbers_bool (b : Bool) : AllNumbers P (.bool b) := nofun

@[simp] theorem allNumbers_str (s : String) : AllNumbers P (.str s) := nofun

@[simp] theorem allNumbers_num {n : Number} : AllNumbers P (.num n) ↔ P n :=
  List.forall_mem_singleton

@[simp] theorem allNumbers_arr {js : List Json} :
    AllNumbers P (.arr js) ↔ ∀ j ∈ js, AllNumbers P j := by
  show (∀ n ∈ itemNumbers js, P n) ↔ _
  induction js with
  | nil => simp [itemNumbers]
  | cons j rest ih => rw [itemNumbers, List.forall_mem_append, ih, List.forall_mem_cons, AllNumbers]

@[simp] theorem allNumbers_obj {ms : List (String × Json)} :
    AllNumbers P (.obj ms) ↔ ∀ m ∈ ms, AllNumbers P m.2 := by
  show (∀ n ∈ memberNumbers ms, P n) ↔ _
  induction ms with
  | nil => simp [memberNumbers]
  | cons m rest ih =>
    rw [memberNumbers, List.forall_mem_append, ih, List.forall_mem_cons, AllNumbers]

@[simp] theorem allNumbers_named {α : Type} [Named α] (a : α) : AllNumbers P (Named.toJson a) :=
  allNumbers_str _

@[simp] theorem allNumbers_ofOptional (s : Option String) : AllNumbers P (ofOptional s) := by
  cases s <;> simp [ofOptional]

@[simp] theorem allNumbers_ofStrings (ss : List String) : AllNumbers P (ofStrings ss) := by
  simp [ofStrings]

theorem allNumbers_map {α : Type} {f : α → Json} (each : ∀ a, AllNumbers P (f a)) (m : KeyMap α) :
    AllNumbers P (.obj (m.map f).entries) :=
  allNumbers_obj.mpr (List.forall_mem_map.mpr fun e _ => each e.2)

@[simp] theorem allNumbers_instant (t : Instant) : AllNumbers P t.toJson :=
  allNumbers_str _

end

theorem isSound_arr {js : List Json} : (arr js).isSound = true ↔ ∀ j ∈ js, j.isSound = true := by
  simp only [isSound_iff]
  exact allNumbers_arr

theorem isSound_obj {ms : List (String × Json)} :
    (obj ms).isSound = true ↔ ∀ m ∈ ms, m.2.isSound = true := by
  simp only [isSound_iff]
  exact allNumbers_obj

end Json

/-! ## The numbers of an entity -/

/-- The hours and days of a window. -/
def TimeWindow.numbers (w : TimeWindow) : List Nat :=
  w.startHour :: w.endHour :: w.days

/-- The integers of a rule, its version apart. -/
def Rule.integers (r : Rule) : List Int :=
  r.priority :: r.scope.timeWindows.flatMap fun w => w.numbers.map Int.ofNat

/-- The integers of all entities, their versions apart. -/
def Holdings.integers (h : Holdings) : List Int :=
  h.rules.flatMap Rule.integers ++ h.scoringRules.map ScoringRule.priority

/-- A property of the numbers that all entities may be written with: small integers, versions and
    finite floats. -/
structure Json.Number.Common (P : Json.Number → Prop) : Prop where
  small : ∀ n : Int, n.natAbs < Value.integerBound → P (.int n)
  version : ∀ v : UInt64, P (.int v.toNat)
  float : ∀ x : Float, Number.isFinite x = true → P (.float x)

theorem Json.Number.common_finite : Common Finite :=
  ⟨fun _ _ => trivial, fun _ => trivial, fun _ finite => finite⟩

section

variable {P : Json.Number → Prop} (common : Json.Number.Common P)
include common

theorem Json.allNumbers_ofFloat (x : Float) : AllNumbers P (.ofFloat x) := by
  unfold ofFloat
  split
  next finite => exact allNumbers_num.mpr (common.float x finite)
  next => exact allNumbers_null

theorem Json.allNumbers_ofVersion (v : UInt64) : AllNumbers P (.ofVersion v) :=
  allNumbers_num.mpr (common.version v)

theorem Value.allNumbers_toJson (v : Value) : v.toJson.AllNumbers P := by
  cases v with
  | null => exact Json.allNumbers_null
  | bool b => exact Json.allNumbers_bool b
  | number x =>
    simp only [toJson]
    cases whole : smallInt? x with
    | none => exact Json.allNumbers_ofFloat common x
    | some n =>
      exact Json.allNumbers_num.mpr (common.small n (smallInt?_eq_some.mp whole).2)
  | text s => exact Json.allNumbers_str s
  | list items => exact Json.allNumbers_ofStrings items

theorem Condition.allNumbers_toJson (c : Condition) : c.toJson.AllNumbers P := by
  simp [toJson, Value.allNumbers_toJson common, Json.allNumbers_ofFloat common]

theorem Action.allNumbers_toJson (a : Action) : a.toJson.AllNumbers P := by
  have parameters := Json.allNumbers_map (Value.allNumbers_toJson common) a.parameters
  simpa [toJson] using parameters

theorem Rule.allNumbers_toJson {r : Rule} (integers : ∀ n ∈ r.integers, P (.int n)) :
    r.toJson.AllNumbers P := by
  have priority : P (.int r.priority) := integers _ List.mem_cons_self
  have windows : ∀ w ∈ r.scope.timeWindows, ∀ n ∈ w.numbers, P (.int n) := fun w member n shown =>
    integers n (List.mem_cons_of_mem _ (List.mem_flatMap.mpr ⟨w, member, List.mem_map_of_mem shown⟩))
  have scope : r.scope.toJson.AllNumbers P := by
    simpa [Scope.toJson, TimeWindow.toJson, TimeWindow.numbers, Json.ofNat] using windows
  simp [toJson, Condition.allNumbers_toJson common, Action.allNumbers_toJson common,
    Json.allNumbers_ofVersion common, Json.ofInt, priority, scope]

theorem ScoringRule.allNumbers_toJson {r : ScoringRule} (priority : P (.int r.priority)) :
    r.toJson.AllNumbers P := by
  simp [toJson, Adjustment.toJson, Condition.allNumbers_toJson common,
    Json.allNumbers_ofFloat common, Json.allNumbers_ofVersion common, Json.ofInt, priority]

theorem Profile.allNumbers_toJson (p : Profile) : p.toJson.AllNumbers P := by
  have multipliers := Json.allNumbers_map (Json.allNumbers_ofFloat common) p.multipliers
  simpa [toJson, Thresholds.toJson, Json.allNumbers_ofFloat common,
    Json.allNumbers_ofVersion common] using multipliers

/-- What is true of the numbers of all entities is so of the numbers in their JSON form. -/
theorem Holdings.allNumbers_members {h : Holdings} (integers : ∀ n ∈ h.integers, P (.int n)) :
    (Json.obj h.members).AllNumbers P := by
  have rules : ∀ r ∈ h.rules, r.toJson.AllNumbers P := fun r member =>
    Rule.allNumbers_toJson common fun n shown =>
      integers n (List.mem_append_left _ (List.mem_flatMap.mpr ⟨r, member, shown⟩))
  have scoringRules : ∀ r ∈ h.scoringRules, r.toJson.AllNumbers P := fun r member =>
    ScoringRule.allNumbers_toJson common
      (integers r.priority (List.mem_append_right _ (List.mem_map_of_mem member)))
  simpa [members, Profile.allNumbers_toJson common] using ⟨rules, scoringRules⟩

end

end Verdict

import Verdict.Proofs.Bundle.Numbers
import Verdict.Proofs.Instant.Text
import Verdict.Proofs.Named
import Verdict.Proofs.Number.Binary

/-!
# What the checksum of a bundle binds

Entities with finite numbers that have the same JSON form, read as nested maps, are equal in every
field.  So the canonical texts of different entities differ, and a bundle whose entities were
changed is found out by its checksum unless two texts have the same digest
(`Bundle.verify_of_changed`).
-/

namespace Verdict

/-! ## Parts of records -/

namespace Json

/-- Lists are the same when they are written alike and so only from the same items. -/
theorem list_eq_of_normal {α : Type} {f : α → Json}
    (each : ∀ {a a'}, (f a).normal = (f a').normal → a = a') {l l' : List α}
    (same : (Json.arr (l.map f)).normal = (Json.arr (l'.map f)).normal) : l = l' := by
  have items := items_of_normal_eq same
  rw [List.map_map, List.map_map] at items
  exact List.map_injective_iff.mpr (fun _ _ equal => each equal) items

theorem ofStrings_injective {ss ss' : List String}
    (same : (ofStrings ss).normal = (ofStrings ss').normal) : ss = ss' :=
  list_eq_of_normal (f := Json.str) Json.str.inj same

theorem ofNat_injective {n n' : Nat} (same : (ofNat n).normal = (ofNat n').normal) : n = n' := by
  injection same with number
  injection number with equal
  exact Int.ofNat.inj equal

theorem ofOptional_injective {s s' : Option String}
    (same : (ofOptional s).normal = (ofOptional s').normal) : s = s' := by
  cases s <;> cases s' <;> simp_all [ofOptional, normal]

theorem beq_of_ofFloat {x y : Float} (finite : Number.isFinite x = true)
    (finite' : Number.isFinite y = true) (same : (ofFloat x).normal = (ofFloat y).normal) :
    (x == y) = true := by
  rw [ofFloat, if_pos finite, ofFloat, if_pos finite'] at same
  injection same with number
  injection number with equal
  exact Number.beq_of_rank finite finite' (congrArg _ equal)

end Json

theorem Named.eq_of_normal {α : Type} [Named α] [LawfulNamed α] {a a' : α}
    (same : (toJson a).normal = (toJson a').normal) : a = a' :=
  name_injective (Json.str.inj same)

theorem Instant.eq_of_normal {t t' : Instant} (same : t.toJson.normal = t'.toJson.normal) : t = t' :=
  text_injective (Json.str.inj same)

/-- Lists with the same images are related item by item. -/
theorem forall₂_of_map_eq {α β : Type} {g : α → β} {R : α → α → Prop} {l l' : List α}
    (each : ∀ a ∈ l, ∀ a' ∈ l', g a = g a' → R a a') (same : l.map g = l'.map g) :
    List.Forall₂ R l l' := by
  induction l generalizing l' with
  | nil =>
    cases l' with
    | nil => exact .nil
    | cons => cases same
  | cons a rest ih =>
    cases l' with
    | nil => cases same
    | cons a' rest' =>
      obtain ⟨head, tail⟩ := List.cons.inj same
      refine .cons (each a List.mem_cons_self a' List.mem_cons_self head) (ih ?_ tail)
      exact fun b member b' member' =>
        each b (List.mem_cons_of_mem _ member) b' (List.mem_cons_of_mem _ member')

section

variable {α : Type} [BEq α] {f : α → Json} {isFinite : α → Bool}
  (each : ∀ {a a'}, isFinite a = true → isFinite a' = true → (f a).normal = (f a').normal →
    (a == a') = true)
include each

/-- Lists are equal when their items are. -/
theorem list_beq_of_normal {l l' : List α} (finite : l.all isFinite = true)
    (finite' : l'.all isFinite = true)
    (same : (Json.arr (l.map f)).normal = (Json.arr (l'.map f)).normal) : (l == l') = true := by
  have items := Json.items_of_normal_eq same
  rw [List.map_map, List.map_map] at items
  rw [List.all_eq_true] at finite finite'
  exact list_beq_iff.mpr (forall₂_of_map_eq (fun a member a' member' =>
    each (finite a member) (finite' a' member')) items)

/-- Maps are equal when they have the same names with equal values. -/
theorem keyMap_beq_of_normal {m m' : KeyMap α} (finite : m.entries.all (fun e => isFinite e.2) = true)
    (finite' : m'.entries.all (fun e => isFinite e.2) = true)
    (same : (Json.obj (m.map f).entries).normal = (Json.obj (m'.map f).entries).normal) :
    (m == m') = true := by
  have members := Json.members_of_normal_eq (m.map f).ordered (m'.map f).ordered same
  simp only [KeyMap.map, List.map_map] at members
  rw [List.all_eq_true] at finite finite'
  refine keyMap_beq_iff.mpr (forall₂_of_map_eq (fun e member e' member' equal => ?_) members)
  obtain ⟨name, value⟩ := Prod.mk.inj equal
  exact ⟨name, each (finite e member) (finite' e' member') value⟩

end

/-! ## Conditions and actions -/

namespace Value

/-- A number is written as the small integer that it is or as a float. -/
theorem toJson_number {x : Float} (finite : Number.isFinite x = true) :
    (∃ n, Number.toInt? x = some n ∧ (number x).toJson = .num (.int n)) ∨
      (number x).toJson = .num (.float x) := by
  simp only [toJson]
  cases whole : smallInt? x with
  | none => exact .inr (if_pos finite)
  | some n => exact .inl ⟨n, (smallInt?_eq_some.mp whole).1, rfl⟩

/-- Only numbers are written as numbers. -/
theorem not_number_of_normal {v : Value} {x : Float} (finite : Number.isFinite x = true)
    (other : ∀ y, v ≠ .number y) : (number x).toJson.normal ≠ v.toJson.normal := by
  have number : ∃ n, (Value.number x).toJson.normal = .num n := by
    rcases toJson_number finite with ⟨n, _, written⟩ | written <;> exact ⟨_, by rw [written]; rfl⟩
  obtain ⟨n, written⟩ := number
  rw [written]
  cases v with
  | number y => exact absurd rfl (other y)
  | _ => exact nofun

theorem eq_of_normal {v v' : Value} (other : ∀ x, v ≠ .number x) (other' : ∀ x, v' ≠ .number x)
    (same : v.toJson.normal = v'.toJson.normal) : v = v' := by
  cases v with
  | number x => exact absurd rfl (other x)
  | null => cases v' <;> first | rfl | exact absurd rfl (other' _) | cases same
  | bool b => cases v' <;> first | exact absurd rfl (other' _) | cases same; try rfl
  | text s => cases v' <;> first | exact absurd rfl (other' _) | cases same; try rfl
  | list items =>
    cases v' with
    | number x => exact absurd rfl (other' x)
    | list items' => rw [Json.ofStrings_injective same]
    | _ => cases same

/-- Finite values with the same JSON form are equal. -/
theorem beq_of_normal {v v' : Value} (finite : v.isFinite = true) (finite' : v'.isFinite = true)
    (same : v.toJson.normal = v'.toJson.normal) : (v == v') = true := by
  by_cases number : ∃ x, v = .number x
  · obtain ⟨x, rfl⟩ := number
    by_cases number' : ∃ y, v' = .number y
    · obtain ⟨y, rfl⟩ := number'
      rw [beq_number]
      rcases toJson_number finite with ⟨n, whole, written⟩ | written <;>
        rcases toJson_number finite' with ⟨n', whole', written'⟩ | written' <;>
        rw [written, written'] at same <;> cases same
      · exact Number.beq_of_rank finite finite' (Number.rank_eq_of_toInt whole whole')
      · exact Number.beq_of_rank finite finite' rfl
    · exact absurd same (not_number_of_normal finite (not_exists.mp number'))
  · by_cases number' : ∃ y, v' = .number y
    · obtain ⟨y, rfl⟩ := number'
      exact absurd same.symm (not_number_of_normal finite' (not_exists.mp number))
    · rw [eq_of_normal (not_exists.mp number) (not_exists.mp number') same]
      exact beq_self (not_exists.mp number')

end Value

theorem Condition.beq_of_normal {c c' : Condition} (finite : c.isFinite = true)
    (finite' : c'.isFinite = true) (same : c.toJson.normal = c'.toJson.normal) :
    (c == c') = true := by
  have field := Json.lookup_of_normal_eq same
  obtain ⟨value, weight⟩ := Bool.and_eq_true_iff.mp finite
  obtain ⟨value', weight'⟩ := Bool.and_eq_true_iff.mp finite'
  refine beq_iff.mpr ⟨?_, ?_, ?_, ?_, ?_, ?_, ?_, ?_⟩
  · simpa [Json.lookup, Json.normal] using field "field"
  · exact Named.eq_of_normal (by simpa [Json.lookup] using field "operator")
  · exact Value.beq_of_normal value value' (by simpa [Json.lookup] using field "value")
  · exact Named.eq_of_normal (by simpa [Json.lookup] using field "value_type")
  · simpa [Json.lookup, Json.normal] using field "case_sensitive"
  · simpa [Json.lookup, Json.normal] using field "negate"
  · exact Json.beq_of_ofFloat weight weight' (by simpa [Json.lookup] using field "weight")
  · exact Named.eq_of_normal (by simpa [Json.lookup] using field "logic_op")

theorem Action.beq_of_normal {a a' : Action} (finite : a.isFinite = true)
    (finite' : a'.isFinite = true) (same : a.toJson.normal = a'.toJson.normal) :
    (a == a') = true := by
  have field := Json.lookup_of_normal_eq same
  refine beq_iff.mpr ⟨?_, ?_, ?_⟩
  · exact Named.eq_of_normal (by simpa [Json.lookup] using field "type")
  · exact keyMap_beq_of_normal Value.beq_of_normal finite finite'
      (by simpa [Json.lookup] using field "parameters")
  · simpa [Json.lookup, Json.normal] using field "enabled"

/-! ## Scopes -/

theorem TimeWindow.eq_of_normal {w w' : TimeWindow} (same : w.toJson.normal = w'.toJson.normal) :
    w = w' := by
  have field := Json.lookup_of_normal_eq same
  have start : w.startHour = w'.startHour :=
    Json.ofNat_injective (by simpa [Json.lookup] using field "start_hour")
  have stop : w.endHour = w'.endHour :=
    Json.ofNat_injective (by simpa [Json.lookup] using field "end_hour")
  have days : w.days = w'.days :=
    Json.list_eq_of_normal Json.ofNat_injective (by simpa [Json.lookup] using field "days")
  cases w
  cases w'
  simp_all

theorem Scope.eq_of_normal {s s' : Scope} (same : s.toJson.normal = s'.toJson.normal) : s = s' := by
  have field := Json.lookup_of_normal_eq same
  have apis : s.apis = s'.apis := Json.ofStrings_injective (by simpa [Json.lookup] using field "apis")
  have endpoints : s.endpoints = s'.endpoints :=
    Json.ofStrings_injective (by simpa [Json.lookup] using field "endpoints")
  have users : s.users = s'.users :=
    Json.ofStrings_injective (by simpa [Json.lookup] using field "users")
  have roles : s.roles = s'.roles :=
    Json.ofStrings_injective (by simpa [Json.lookup] using field "roles")
  have ranges : s.ipRanges = s'.ipRanges :=
    Json.ofStrings_injective (by simpa [Json.lookup] using field "ip_ranges")
  have windows : s.timeWindows = s'.timeWindows :=
    Json.list_eq_of_normal TimeWindow.eq_of_normal (by simpa [Json.lookup] using field "time_windows")
  cases s
  cases s'
  simp_all

/-! ## Entities -/

theorem Json.ofVersion_injective {v v' : UInt64}
    (same : (ofVersion v).normal = (ofVersion v').normal) : v = v' :=
  UInt64.toNat_inj.mp (ofNat_injective same)

theorem Rule.beq_of_normal {r r' : Rule} (finite : r.isFinite = true) (finite' : r'.isFinite = true)
    (same : r.toJson.normal = r'.toJson.normal) : (r == r') = true := by
  have field := Json.lookup_of_normal_eq same
  obtain ⟨conditions, actions⟩ := Bool.and_eq_true_iff.mp finite
  obtain ⟨conditions', actions'⟩ := Bool.and_eq_true_iff.mp finite'
  refine beq_iff.mpr ⟨⟨?_, ?_, ?_, ?_, ?_, ?_⟩, ?_, ?_, ?_, ?_, ?_, ?_, ?_⟩
  · simpa [Json.lookup, Json.normal] using field "id"
  · simpa [Json.lookup, Json.normal] using field "name"
  · exact Json.ofOptional_injective (by simpa [Json.lookup] using field "description")
  · simpa [Json.lookup, Json.normal, Json.ofInt] using field "priority"
  · simpa [Json.lookup, Json.normal] using field "enabled"
  · exact Named.eq_of_normal (by simpa [Json.lookup] using field "status")
  · exact list_beq_of_normal Condition.beq_of_normal conditions conditions'
      (by simpa [Json.lookup] using field "conditions")
  · exact list_beq_of_normal Action.beq_of_normal actions actions'
      (by simpa [Json.lookup] using field "actions")
  · simpa [Json.lookup, Json.normal] using field "fail_fast"
  · have scope : r.scope = r'.scope := Scope.eq_of_normal (by simpa [Json.lookup] using field "scope")
    rw [scope]
    exact Scope.beq_self _
  · exact Json.ofVersion_injective (by simpa [Json.lookup] using field "version")
  · exact Instant.eq_of_normal (by simpa [Json.lookup] using field "created_at")
  · exact Instant.eq_of_normal (by simpa [Json.lookup] using field "updated_at")

theorem Adjustment.beq_of_normal {a a' : Adjustment} (finite : Number.isFinite a.value = true)
    (finite' : Number.isFinite a'.value = true) (same : a.toJson.normal = a'.toJson.normal) :
    (a == a') = true := by
  have field := Json.lookup_of_normal_eq same
  refine beq_iff.mpr ⟨?_, ?_, ?_⟩
  · exact Named.eq_of_normal (by simpa [Json.lookup] using field "type")
  · exact Json.beq_of_ofFloat finite finite' (by simpa [Json.lookup] using field "value")
  · simpa [Json.lookup, Json.normal] using field "reason"

theorem ScoringRule.beq_of_normal {r r' : ScoringRule} (finite : r.isFinite = true)
    (finite' : r'.isFinite = true) (same : r.toJson.normal = r'.toJson.normal) :
    (r == r') = true := by
  have field := Json.lookup_of_normal_eq same
  obtain ⟨conditions, value⟩ := Bool.and_eq_true_iff.mp finite
  obtain ⟨conditions', value'⟩ := Bool.and_eq_true_iff.mp finite'
  refine beq_iff.mpr ⟨?_, ?_, ?_, ?_, ?_, ?_, ?_, ?_⟩
  · simpa [Json.lookup, Json.normal] using field "id"
  · simpa [Json.lookup, Json.normal] using field "name"
  · simpa [Json.lookup, Json.normal, Json.ofInt] using field "priority"
  · simpa [Json.lookup, Json.normal] using field "enabled"
  · exact list_beq_of_normal Condition.beq_of_normal conditions conditions'
      (by simpa [Json.lookup] using field "conditions")
  · exact Adjustment.beq_of_normal value value' (by simpa [Json.lookup] using field "adjustment")
  · exact Json.ofVersion_injective (by simpa [Json.lookup] using field "version")
  · exact Instant.eq_of_normal (by simpa [Json.lookup] using field "updated_at")

theorem Thresholds.beq_of_normal {t t' : Thresholds} (finite : t.isFinite = true)
    (finite' : t'.isFinite = true) (same : t.toJson.normal = t'.toJson.normal) :
    (t == t') = true := by
  have field := Json.lookup_of_normal_eq same
  simp only [isFinite, Bool.and_eq_true] at finite finite'
  obtain ⟨⟨⟨low, medium⟩, high⟩, critical⟩ := finite
  obtain ⟨⟨⟨low', medium'⟩, high'⟩, critical'⟩ := finite'
  refine beq_iff.mpr ⟨?_, ?_, ?_, ?_⟩
  · exact Json.beq_of_ofFloat low low' (by simpa [Json.lookup] using field "low")
  · exact Json.beq_of_ofFloat medium medium' (by simpa [Json.lookup] using field "medium")
  · exact Json.beq_of_ofFloat high high' (by simpa [Json.lookup] using field "high")
  · exact Json.beq_of_ofFloat critical critical' (by simpa [Json.lookup] using field "critical")

theorem Profile.beq_of_normal {p p' : Profile} (finite : p.isFinite = true)
    (finite' : p'.isFinite = true) (same : p.toJson.normal = p'.toJson.normal) :
    (p == p') = true := by
  have field := Json.lookup_of_normal_eq same
  simp only [isFinite, Bool.and_eq_true] at finite finite'
  obtain ⟨⟨baseScore, multipliers⟩, thresholds⟩ := finite
  obtain ⟨⟨baseScore', multipliers'⟩, thresholds'⟩ := finite'
  refine beq_iff.mpr ⟨⟨?_, ?_, ?_, ?_⟩, ?_, ?_, ?_, ?_, ?_, ?_⟩
  · simpa [Json.lookup, Json.normal] using field "id"
  · simpa [Json.lookup, Json.normal] using field "name"
  · exact Json.ofOptional_injective (by simpa [Json.lookup] using field "description")
  · exact Named.eq_of_normal (by simpa [Json.lookup] using field "category")
  · exact Json.beq_of_ofFloat baseScore baseScore' (by simpa [Json.lookup] using field "base_score")
  · exact keyMap_beq_of_normal Json.beq_of_ofFloat multipliers multipliers'
      (by simpa [Json.lookup] using field "multipliers")
  · exact Thresholds.beq_of_normal thresholds thresholds'
      (by simpa [Json.lookup] using field "thresholds")
  · simpa [Json.lookup, Json.normal] using field "is_default"
  · exact Json.ofVersion_injective (by simpa [Json.lookup] using field "version")
  · exact Instant.eq_of_normal (by simpa [Json.lookup] using field "updated_at")

/-- Finite entities with the same JSON form are equal, in the same order. -/
theorem Holdings.beq_of_normal {h h' : Holdings} (finite : h.isFinite = true)
    (finite' : h'.isFinite = true) (same : (Json.obj h.members).normal = (Json.obj h'.members).normal) :
    (h == h') = true := by
  have field := Json.lookup_of_normal_eq same
  simp only [isFinite, Bool.and_eq_true] at finite finite'
  obtain ⟨⟨rules, scoringRules⟩, profiles⟩ := finite
  obtain ⟨⟨rules', scoringRules'⟩, profiles'⟩ := finite'
  refine beq_iff.mpr ⟨?_, ?_, ?_⟩
  · exact list_beq_of_normal Rule.beq_of_normal rules rules'
      (by simpa [members, Json.lookup] using field "rules")
  · exact list_beq_of_normal ScoringRule.beq_of_normal scoringRules scoringRules'
      (by simpa [members, Json.lookup] using field "scoring_rules")
  · exact list_beq_of_normal Profile.beq_of_normal profiles profiles'
      (by simpa [members, Json.lookup] using field "profiles")

/-! ## Checksums -/

/-- The numbers in the JSON form of entities are finite. -/
theorem Holdings.finite_members (h : Holdings) :
    (Json.obj h.members).AllNumbers Json.Number.Finite :=
  allNumbers_members Json.Number.common_finite fun _ _ => trivial

/-- Different entities have different canonical texts. -/
theorem Holdings.canonical_ne {h h' : Holdings} (finite : h.isFinite = true)
    (finite' : h'.isFinite = true) (different : (h == h') = false) :
    h.canonical ≠ h'.canonical := by
  intro same
  have equal := beq_of_normal finite finite'
    (Json.normal_eq_of_canonical_eq h.finite_members h'.finite_members same)
  rw [different] at equal
  cases equal

/-- Two lists of bytes that have the same digest. -/
def Digest.Collision (bytes bytes' : List UInt8) : Prop :=
  bytes ≠ bytes' ∧ ofBytes bytes = ofBytes bytes'

/-- Different texts of the same digest are a collision. -/
theorem Digest.collision_of_ofText {s s' : String} (different : s ≠ s') (same : ofText s = ofText s') :
    Collision s.toUTF8.data.toList s'.toUTF8.data.toList := by
  refine ⟨fun bytes => different ?_, same⟩
  exact String.toByteArray_inj.mp (ByteArray.ext (Array.toList_inj.mp bytes))

/-- Bundles of different entities have different canonical texts.  So where one of them verifies,
    the other is found out under the same checksum unless the two texts have the same digest. -/
theorem Bundle.verify_of_changed {b c : Bundle} (finite : b.holdings.isFinite = true)
    (finite' : c.holdings.isFinite = true)
    (changed : (b.holdings == c.holdings) = false) :
    b.holdings.canonical ≠ c.holdings.canonical ∧
      (b.verify = .ok () → c.checksum = b.checksum →
        c.verify = .error (.integrity b.checksum c.computed) ∨
          Digest.Collision b.holdings.canonical.toUTF8.data.toList
            c.holdings.canonical.toUTF8.data.toList) := by
  have different := Holdings.canonical_ne finite finite' changed
  refine ⟨different, fun verified kept => ?_⟩
  have checked : b.computed = b.checksum := by
    unfold verify at verified
    split at verified
    next equal => exact beq_iff_eq.mp equal
    next => cases verified
  by_cases collides : c.computed = b.computed
  · exact .inr (Digest.collision_of_ofText different collides.symm)
  · refine .inl ?_
    have rejected : ¬ (c.computed == c.checksum) = true := by
      rw [beq_iff_eq, kept, ← checked]
      exact collides
    rw [verify, if_neg rejected, kept]

/-- A scoring rule that adds points is found out where it is turned to take them away. -/
theorem Bundle.verify_of_changed_adjustment :
    Holdings.canonical ⟨[], [.new .epoch "night" [] .add 2.5], []⟩ ≠
        Holdings.canonical ⟨[], [.new .epoch "night" [] .subtract 2.5], []⟩ ∧
      (verify { new .epoch ⟨[], [.new .epoch "night" [] .add 2.5], []⟩ with
          holdings := ⟨[], [.new .epoch "night" [] .subtract 2.5], []⟩ } =
          .error (.integrity (Holdings.checksum ⟨[], [.new .epoch "night" [] .add 2.5], []⟩)
            (Holdings.checksum ⟨[], [.new .epoch "night" [] .subtract 2.5], []⟩)) ∨
        Digest.Collision
          (Holdings.canonical ⟨[], [.new .epoch "night" [] .add 2.5], []⟩).toUTF8.data.toList
          (Holdings.canonical ⟨[], [.new .epoch "night" [] .subtract 2.5], []⟩).toUTF8.data.toList) := by
  have changed := verify_of_changed
    (b := new .epoch ⟨[], [.new .epoch "night" [] .add 2.5], []⟩)
    (c := { new .epoch ⟨[], [.new .epoch "night" [] .add 2.5], []⟩ with
      holdings := ⟨[], [.new .epoch "night" [] .subtract 2.5], []⟩ })
    (by decide +kernel) (by decide +kernel) (by decide +kernel)
  have found := changed.2 (verify_new _ _) (by simp only)
  exact ⟨changed.1, by simpa only [new, computed] using found⟩

end Verdict

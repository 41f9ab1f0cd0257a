import Verdict.Proofs.Condition.Typed
import Verdict.Proofs.Dispatch.Execution
import Verdict.Proofs.Number.Rank

/-!
# Which payloads can be acted on

The parameters of an action are read as numbers, checked, and then brought to whole seconds and
status codes.  A payload that passes is sound (`Payload.Sound`): its limit is positive, its status
one of a redirect, and its channel or address more than blanks.  Its span of time is none exactly if
the action gives one that is shorter than a second (`payload_usable_iff`), because the check comes
before the rounding.  What does not make sense is refused, and nothing is published of it.
-/

namespace Verdict

open Number (less atMost)

/-- Whether a text holds more than blanks. -/
def Text.HasWord (s : String) : Prop :=
  ∃ c ∈ s.toList, isBlank c = false

theorem Text.isAllBlank_eq_false_iff {s : String} : isAllBlank s = false ↔ HasWord s := by
  simp [isAllBlank, HasWord]

/-! ## Payloads -/

namespace Payload

/-- The rate that a payload limits to. -/
def limit? : Payload → Option Float
  | .rateLimit limit _ | .throttle limit _ => some limit
  | _ => none

/-- The seconds for which a payload is to hold. -/
def span? : Payload → Option Nat
  | .rateLimit _ window | .throttle _ window => some window
  | .quarantine _ duration => duration
  | _ => none

/-- Whom or what a payload is directed to. -/
def target? : Payload → Option String
  | .notify channel _ => some channel
  | .redirect url _ => some url
  | _ => none

/-- The status that a payload answers with. -/
def code? : Payload → Option Nat
  | .redirect _ status => some status
  | _ => none

/-- Whether a payload makes sense, its span of time apart. -/
structure Sound (p : Payload) : Prop where
  limit : ∀ x, p.limit? = some x → Number.isFinite x = true ∧ less 0 x = true
  target : ∀ s, p.target? = some s → Text.HasWord s
  code : ∀ n, p.code? = some n → 300 ≤ n ∧ n ≤ 399

/-- Whether a payload that holds for a span of time holds for at least a second. -/
def Lasts (p : Payload) : Prop :=
  ∀ n, p.span? = some n → 0 < n

/-- Whether a payload can be acted on. -/
def Usable (p : Payload) : Prop :=
  p.Sound ∧ p.Lasts

end Payload

/-! ## Parameters -/

/-- The parameter that gives the span of time of an action. -/
def ActionType.spanName? : ActionType → Option String
  | .rateLimit | .throttle => some "window_secs"
  | .quarantine => some "duration_secs"
  | _ => none

namespace Action

/-- Whether a parameter of an action is a number. -/
def Reads (a : Action) (name : String) (x : Float) : Prop :=
  ∃ v, a.parameters.get? name = some v ∧ v.number? = some x

/-- Whether a parameter of an action is a text that holds more than blanks. -/
def Names (a : Action) (name : String) : Prop :=
  ∃ s, a.textOf? name = some s ∧ Text.HasWord s

/-- Whether a parameter of an action is a number above zero, but below one. -/
def ReadsFraction (a : Action) (name : String) : Prop :=
  ∃ x, a.Reads name x ∧ less 0 x = true ∧ less x 1 = true

/-- Whether an action gives a span of time that is shorter than a second. -/
def Subsecond (a : Action) : Prop :=
  ∃ name, a.actionType.spanName? = some name ∧ a.ReadsFraction name

/-- Whether an action gives a limit above zero and, if it gives a window at all, one above zero. -/
def Limits (a : Action) : Prop :=
  (∃ x, a.Reads "limit" x ∧ less 0 x = true) ∧
    ∀ v, a.parameters.get? "window_secs" = some v → ∃ x, v.number? = some x ∧ less 0 x = true

/-- Whether the status of an action, if it is a number, is that of a redirect. -/
def Redirects (a : Action) : Prop :=
  ∀ x, a.Reads "status" x → atMost 300 x = true ∧ less x 400 = true

/-- Whether the parameters of an action make sense for its type. -/
def Sensible (a : Action) : Prop :=
  match a.actionType with
  | .notify => a.Names "channel"
  | .rateLimit | .throttle => a.Limits
  | .redirect => a.Names "url" ∧ a.Redirects
  | _ => True

section

variable {a : Action} {name : String} {x : Float}

theorem Reads.unique {y : Float} (reads : a.Reads name x) (reads' : a.Reads name y) : x = y := by
  obtain ⟨v, given, number⟩ := reads
  obtain ⟨w, given', number'⟩ := reads'
  rw [given] at given'
  cases given'
  exact Option.some.inj (number.symm.trans number')

theorem Reads.isFinite (reads : a.Reads name x) : Number.isFinite x = true := by
  obtain ⟨v, -, number⟩ := reads
  exact Value.isFinite_of_number? number

theorem reads_iff : a.Reads name x ↔ (a.parameters.get? name).bind Value.number? = some x := by
  rw [Option.bind_eq_some_iff]
  rfl

theorem positiveOf?_eq_some_iff :
    a.positiveOf? name = some x ↔ a.Reads name x ∧ less 0 x = true := by
  rw [positiveOf?, Option.filter_eq_some_iff, reads_iff]

theorem wordOf?_eq_some_iff {s : String} :
    a.wordOf? name = some s ↔ a.textOf? name = some s ∧ Text.HasWord s := by
  rw [wordOf?, Option.filter_eq_some_iff, Bool.not_eq_true', Text.isAllBlank_eq_false_iff]

end

end Action

/-! ## Rounding -/

section

variable {x : Float}

/-- The whole seconds of a positive number are none exactly if it lies below one. -/
theorem seconds_pos_iff (finite : Number.isFinite x = true) (positive : less 0 x = true) :
    0 < Payload.seconds x ↔ ¬ less x 1 = true :=
  (Number.le_whole_iff finite (Number.atMost_of_less positive) (by decide +kernel)
    (by decide)).trans (Number.atMost_iff_not_less (by decide +kernel) finite)

/-- The whole part of a number from 300 to below 400 is a status of a redirect. -/
theorem whole_of_redirects (finite : Number.isFinite x = true) (least : atMost 300 x = true)
    (below : less x 400 = true) :
    300 ≤ Number.whole 65535 x ∧ Number.whole 65535 x ≤ 399 := by
  have nonneg : atMost 0 x = true := Number.atMost_trans (by decide +kernel) least
  refine ⟨(Number.le_whole_iff finite nonneg (by decide +kernel) (by decide)).mpr least, ?_⟩
  have not_reached : ¬ 400 ≤ Number.whole 65535 x := by
    rw [Number.le_whole_iff (y := 400) finite nonneg (by decide +kernel) (by decide),
      Number.atMost_iff_not_less (by decide +kernel) finite]
    exact not_not_intro below
  omega

end

namespace Payload

section

variable {a : Action} {name : String} {x : Float}

/-- Seconds that an action gives are none exactly if the action gives less than one. -/
theorem seconds_pos_iff_of_positiveOf? (given : a.positiveOf? name = some x) :
    0 < seconds x ↔ ¬ a.ReadsFraction name := by
  obtain ⟨reads, positive⟩ := Action.positiveOf?_eq_some_iff.mp given
  rw [seconds_pos_iff reads.isFinite positive, not_iff_not]
  constructor
  · intro fraction
    exact ⟨x, reads, positive, fraction⟩
  · rintro ⟨y, reads', -, fraction⟩
    rwa [reads.unique reads']

/-- What gives a fraction gives a positive number. -/
theorem not_readsFraction_of_positiveOf? (missing : a.positiveOf? name = none) :
    ¬ a.ReadsFraction name := by
  rintro ⟨x, reads, positive, -⟩
  rw [Action.positiveOf?_eq_some_iff.mpr ⟨reads, positive⟩] at missing
  cases missing

theorem not_subsecond (spanless : a.actionType.spanName? = none) : ¬ a.Subsecond := by
  rintro ⟨name, named, -⟩
  rw [spanless] at named
  cases named

theorem subsecond_iff (named : a.actionType.spanName? = some name) :
    a.Subsecond ↔ a.ReadsFraction name := by
  constructor
  · rintro ⟨name', named', fraction⟩
    rwa [Option.some.inj (named.symm.trans named')]
  · intro fraction
    exact ⟨name, named, fraction⟩

end

/-! ## Limits and statuses -/

section

variable {a : Action}

theorem limits?_of_window {limit x : Float} (given : a.positiveOf? "limit" = some limit)
    (given' : a.positiveOf? "window_secs" = some x) : limits? a = .ok (limit, seconds x) := by
  obtain ⟨⟨v, window, -⟩, -⟩ := Action.positiveOf?_eq_some_iff.mp given'
  simp only [limits?, given, window, given']

/-- Limits that make sense are read: the limit as it is, the window in whole seconds. -/
theorem limits?_of_limits (sensible : a.Limits) :
    ∃ limit window, limits? a = .ok (limit, window) ∧ Number.isFinite limit = true ∧
      less 0 limit = true ∧ (0 < window ↔ ¬ a.ReadsFraction "window_secs") := by
  obtain ⟨⟨limit, reads, positive⟩, wanted⟩ := sensible
  have given := Action.positiveOf?_eq_some_iff.mpr ⟨reads, positive⟩
  cases window : a.parameters.get? "window_secs" with
  | none =>
    have missing : a.positiveOf? "window_secs" = none := by rw [Action.positiveOf?, window]; rfl
    refine ⟨limit, defaultWindow, by simp [limits?, given, window], reads.isFinite, positive, ?_⟩
    exact iff_of_true (by decide) (not_readsFraction_of_positiveOf? missing)
  | some v =>
    obtain ⟨x, number, above⟩ := wanted v window
    have given' := Action.positiveOf?_eq_some_iff.mpr ⟨⟨v, window, number⟩, above⟩
    exact ⟨limit, seconds x, limits?_of_window given given', reads.isFinite, positive,
      seconds_pos_iff_of_positiveOf? given'⟩

/-- Limits that make no sense are refused. -/
theorem limits?_of_not_limits (senseless : ¬ a.Limits) : ∃ fault, limits? a = .error fault := by
  unfold limits?
  cases given : a.positiveOf? "limit" with
  | none => exact ⟨.noLimit, rfl⟩
  | some limit =>
    cases window : a.parameters.get? "window_secs" with
    | none =>
      refine absurd ⟨⟨limit, Action.positiveOf?_eq_some_iff.mp given⟩, ?_⟩ senseless
      simp [window]
    | some v =>
      cases given' : a.positiveOf? "window_secs" with
      | none => exact ⟨.badWindow, rfl⟩
      | some x =>
        refine absurd ⟨⟨limit, Action.positiveOf?_eq_some_iff.mp given⟩, ?_⟩ senseless
        intro w again
        obtain ⟨reads, positive⟩ := Action.positiveOf?_eq_some_iff.mp given'
        exact ⟨x, by simpa [Action.reads_iff, again] using reads, positive⟩

/-- A status that makes sense is read, in whole numbers. -/
theorem status?_of_redirects (sensible : a.Redirects) :
    ∃ n, status? a = .ok n ∧ 300 ≤ n ∧ n ≤ 399 := by
  unfold status?
  split
  next => exact ⟨defaultStatus, rfl, by decide, by decide⟩
  next x number =>
    have reads := Action.reads_iff.mpr number
    obtain ⟨least, below⟩ := sensible x reads
    rw [least, below]
    exact ⟨_, rfl, whole_of_redirects reads.isFinite least below⟩

/-- A status that makes no sense is refused. -/
theorem status?_of_not_redirects (senseless : ¬ a.Redirects) :
    ∃ fault, status? a = .error fault := by
  simp only [Action.Redirects, not_forall] at senseless
  obtain ⟨x, reads, outside⟩ := senseless
  rw [Action.reads_iff] at reads
  refine ⟨.badStatus x, ?_⟩
  unfold status?
  rw [reads]
  exact if_neg (by simpa using outside)

end

/-! ## Payloads of actions -/

section

variable (ruleName : String) {a : Action}

theorem lasts_of_span (p : Payload) {n : Nat} (span : p.span? = some n) : p.Lasts ↔ 0 < n := by
  simp [Lasts, span]

theorem lasts_of_no_span (p : Payload) (spanless : p.span? = none) : p.Lasts := by
  simp [Lasts, spanless]

theorem lasts_iff_of_spanless {p : Payload} (spanless : p.span? = none)
    (unnamed : a.actionType.spanName? = none) : p.Lasts ↔ ¬ a.Subsecond :=
  iff_of_true (lasts_of_no_span p spanless) (not_subsecond unnamed)

/-- An action that makes sense has a payload that makes sense, unless it allows a request. -/
theorem ofAction?_of_sensible (sensible : a.Sensible) (speaks : a.actionType ≠ .allow) :
    ∃ p, ofAction? ruleName a = .ok (some p) ∧ p.Sound ∧ (p.Lasts ↔ ¬ a.Subsecond) := by
  unfold Action.Sensible at sensible
  unfold ofAction?
  cases type : a.actionType <;> simp only [type] at sensible ⊢
  case allow => exact absurd type speaks
  case notify =>
    obtain ⟨channel, given, word⟩ := sensible
    rw [Action.wordOf?_eq_some_iff.mpr ⟨given, word⟩]
    refine ⟨_, rfl, ⟨nofun, ?_, nofun⟩, lasts_iff_of_spanless rfl (by rw [type]; rfl)⟩
    rintro s ⟨⟩
    exact word
  case quarantine =>
    have named : a.actionType.spanName? = some "duration_secs" := by rw [type]; rfl
    refine ⟨_, rfl, ⟨nofun, nofun, nofun⟩, ?_⟩
    rw [subsecond_iff named]
    cases given : a.positiveOf? "duration_secs" with
    | none => exact iff_of_true (lasts_of_no_span _ rfl) (not_readsFraction_of_positiveOf? given)
    | some x => exact (lasts_of_span _ rfl).trans (seconds_pos_iff_of_positiveOf? given)
  case rateLimit | throttle =>
    obtain ⟨limit, window, read, finite, positive, lasts⟩ := limits?_of_limits sensible
    have named : a.actionType.spanName? = some "window_secs" := by rw [type]; rfl
    rw [read, subsecond_iff named]
    refine ⟨_, rfl, ⟨?_, nofun, nofun⟩, (lasts_of_span _ rfl).trans lasts⟩
    rintro x ⟨⟩
    exact ⟨finite, positive⟩
  case redirect =>
    obtain ⟨⟨url, given, word⟩, redirects⟩ := sensible
    obtain ⟨n, read, bounds⟩ := status?_of_redirects redirects
    rw [Action.wordOf?_eq_some_iff.mpr ⟨given, word⟩, read]
    refine ⟨_, rfl, ⟨nofun, ?_, ?_⟩, lasts_iff_of_spanless rfl (by rw [type]; rfl)⟩
    · rintro s ⟨⟩
      exact word
    · rintro m ⟨⟩
      exact bounds
  all_goals
    exact ⟨_, rfl, ⟨nofun, nofun, nofun⟩, lasts_iff_of_spanless rfl (by rw [type]; rfl)⟩

/-- An action that makes no sense is refused. -/
theorem ofAction?_of_not_sensible (senseless : ¬ a.Sensible) :
    ∃ fault, ofAction? ruleName a = .error fault := by
  unfold Action.Sensible at senseless
  unfold ofAction?
  cases type : a.actionType <;> simp only [type, not_true_eq_false] at senseless ⊢
  case notify =>
    cases given : a.wordOf? "channel" with
    | none => exact ⟨.noChannel, rfl⟩
    | some channel =>
      exact absurd ⟨channel, Action.wordOf?_eq_some_iff.mp given⟩ senseless
  case rateLimit | throttle =>
    obtain ⟨fault, refused⟩ := limits?_of_not_limits senseless
    exact ⟨fault, by rw [refused]; rfl⟩
  case redirect =>
    cases given : a.wordOf? "url" with
    | none => exact ⟨.noUrl, rfl⟩
    | some url =>
      have names : a.Names "url" := ⟨url, Action.wordOf?_eq_some_iff.mp given⟩
      obtain ⟨fault, refused⟩ := status?_of_not_redirects (not_and.mp senseless names)
      exact ⟨fault, by simp only [refused]; rfl⟩

/-- What is refused is left out and counted so; the publisher is not asked. -/
theorem publishAll_of_refused {ruleName : String} {fault : ParameterFault}
    (refused : ofAction? ruleName a = .error fault) {rule : MatchedRule}
    (same : rule.ruleName = ruleName) (topics : Topics) (d : Decision) (ctx : Context) (id : String)
    {m : Type → Type} [Monad m] (publish : Delivery → m Bool) (r : Report)
    (rest : List (Except Omission Delivery)) :
    publishAll publish r (a.delivery topics d ctx id rule :: rest) =
      publishAll publish r.skip rest := by
  have omitted : d.omits rule a = true := by
    simp [Decision.omits, same, refused, Except.isOk, Except.toBool]
  obtain ⟨why, left⟩ := a.delivery_of_omits topics d ctx id rule omitted
  rw [left, publishAll]

end

/-- Every payload makes sense, and it can be acted on exactly if its action does not give a span of
    time that is shorter than a second.  An action is refused exactly if its parameters make no
    sense, and nothing is published of it. -/
theorem usable_iff_not_subsecond (ruleName : String) (a : Action) :
    (∀ p, ofAction? ruleName a = .ok (some p) → p.Sound ∧ (p.Usable ↔ ¬ a.Subsecond)) ∧
      ((∃ fault, ofAction? ruleName a = .error fault) ↔ ¬ a.Sensible) ∧
      ∀ fault, ofAction? ruleName a = .error fault →
        ∀ (topics : Topics) (d : Decision) (ctx : Context) (id : String) (rule : MatchedRule),
          rule.ruleName = ruleName →
          ∀ (m : Type → Type) [Monad m] (publish : Delivery → m Bool) (r : Report)
            (rest : List (Except Omission Delivery)),
            publishAll publish r (a.delivery topics d ctx id rule :: rest) =
              publishAll publish r.skip rest := by
  refine ⟨?_, ⟨?_, ofAction?_of_not_sensible ruleName⟩, ?_⟩
  · intro p made
    have sensible : a.Sensible := by
      by_contra senseless
      obtain ⟨fault, refused⟩ := ofAction?_of_not_sensible ruleName senseless
      rw [refused] at made
      cases made
    have speaks : a.actionType ≠ .allow := by
      intro allows
      rw [ofAction?_eq_none.mpr allows] at made
      cases made
    obtain ⟨p', made', sound, lasts⟩ := ofAction?_of_sensible ruleName sensible speaks
    rw [made] at made'
    cases made'
    exact ⟨sound, (and_iff_right sound).trans lasts⟩
  · rintro ⟨fault, refused⟩ sensible
    by_cases speaks : a.actionType = .allow
    · rw [ofAction?_eq_none.mpr speaks] at refused
      cases refused
    · obtain ⟨p, made, -⟩ := ofAction?_of_sensible ruleName sensible speaks
      rw [made] at refused
      cases refused
  · intro fault refused topics d ctx id rule same m _ publish r rest
    exact publishAll_of_refused refused same topics d ctx id publish r rest

/-- An action that throttles for half a second. -/
def halfSecond : Action where
  actionType := .throttle
  parameters := .ofList [("limit", .number 10), ("window_secs", .number 0.5)]

/-- Half a second passes for a positive span of time and is rounded to none. -/
theorem halfSecond_lasts_no_time :
    ofAction? "r" halfSecond = .ok (some (.throttle 10 0)) ∧ ¬ (throttle 10 0).Usable := by
  have reads : ∀ {name x}, halfSecond.parameters.get? name = some (.number x) →
      Number.isFinite x = true → halfSecond.Reads name x := fun given finite =>
    ⟨_, given, Value.number?_number finite⟩
  have limit : halfSecond.positiveOf? "limit" = some 10 :=
    Action.positiveOf?_eq_some_iff.mpr ⟨reads rfl (by decide +kernel), by decide +kernel⟩
  have window : halfSecond.positiveOf? "window_secs" = some 0.5 :=
    Action.positiveOf?_eq_some_iff.mpr ⟨reads rfl (by decide +kernel), by decide +kernel⟩
  have rounded : seconds 0.5 = 0 := by decide +kernel
  have read : limits? halfSecond = .ok (10, 0) := rounded ▸ limits?_of_window limit window
  refine ⟨?_, fun usable => Nat.lt_irrefl 0 (usable.2 0 rfl)⟩
  have made : ofAction? "r" halfSecond =
      (limits? halfSecond).map fun x => some (.throttle x.1 x.2) := rfl
  rw [made, read]
  rfl

end Payload

end Verdict

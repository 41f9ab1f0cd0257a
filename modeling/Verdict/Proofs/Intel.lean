import Mathlib.Data.List.Sort
import Verdict.Intel
import Verdict.Proofs.Number.Rank

/-!
# The consensus of providers

`Consensus.Merges` says what a consensus is made of: the providers that answer in time, and what
each of them says.  It leaves nothing open but the order of their names, so two consensuses of the
same providers agree in all else (`Merges.score_unique`, `Merges.categories_unique`), and it does
not matter in which order providers are registered.  A score is compared by its rank; only a score
above zero is known from its rank, which is why `Merges.attained` tells the two cases apart.
-/

namespace Verdict

/-! ## Names of a map -/

namespace KeyMap

variable {α : Type}

theorem mem_names_insertEntry {name key : String} {value : α} {entries : List (String × α)} :
    key ∈ (insertEntry name value entries).map Prod.fst ↔
      key = name ∨ key ∈ entries.map Prod.fst := by
  fun_induction insertEntry name value entries with
  | case1 => simp
  | case2 => simp
  | case3 => simp
  | case4 other old rest _ _ ih =>
    rw [List.map_cons, List.mem_cons, ih, List.map_cons, List.mem_cons]
    exact or_left_comm

theorem mem_names_foldl {pairs : List (String × α)} {m : KeyMap α} {key : String} :
    key ∈ (pairs.foldl (fun m (name, value) => m.insert name value) m).entries.map Prod.fst ↔
      key ∈ m.entries.map Prod.fst ∨ key ∈ pairs.map Prod.fst := by
  induction pairs generalizing m with
  | nil => simp
  | cons pair rest ih =>
    obtain ⟨name, value⟩ := pair
    have inserted : key ∈ (m.insert name value).entries.map Prod.fst ↔
        key = name ∨ key ∈ m.entries.map Prod.fst := mem_names_insertEntry
    rw [List.foldl_cons, ih, inserted, List.map_cons, List.mem_cons]
    tauto

end KeyMap

namespace Consensus

theorem mem_ascending {words : List String} {word : String} :
    word ∈ ascending words ↔ word ∈ words := by
  rw [ascending, KeyMap.ofList, KeyMap.mem_names_foldl]
  simp [KeyMap.empty, Function.comp_def]

theorem pairwise_ascending (words : List String) : (ascending words).Pairwise (· < ·) :=
  List.pairwise_map.mpr (KeyMap.ofList _).ordered

end Consensus

/-! ## The highest score -/

namespace Consensus
open Number

/-- `b` is the rank of the highest of some scores and a start of rank `a`, whose place only a
    higher one takes. -/
structure IsHighest (start : Float) (a : Int) (scores : List Float) (m : Float) (b : Int) :
    Prop where
  ranked : rank? m = some b
  le : a ≤ b
  attained : m = start ∨ a < b ∧ m ∈ scores
  highest : ∀ x ∈ scores, ∀ c, rank? x = some c → c ≤ b

theorem isHighest_larger {start : Float} {a : Int} (ranked : rank? start = some a) (x : Float) :
    ∃ b, IsHighest start a [x] (larger start x) b := by
  unfold larger
  cases ranked' : rank? x with
  | none =>
    have kept : less start x = false := by simp [less, compareRanks, ranked, ranked']
    rw [kept]
    exact ⟨a, ranked, Int.le_refl a, .inl rfl, by simp [ranked']⟩
  | some c =>
    by_cases higher : a < c
    · rw [if_pos ((less_iff ranked ranked').mpr higher)]
      exact ⟨c, ranked', Int.le_of_lt higher, .inr ⟨higher, List.mem_singleton_self x⟩,
        by simp [ranked']⟩
    · rw [if_neg (mt (less_iff ranked ranked').mp higher)]
      exact ⟨a, ranked, Int.le_refl a, .inl rfl, by simpa [ranked'] using higher⟩

/-- The highest of one score, and then of more. -/
theorem IsHighest.cons {start m m' : Float} {a b c : Int} {x : Float} {scores : List Float}
    (first : IsHighest start a [x] m b) (later : IsHighest m b scores m' c) :
    IsHighest start a (x :: scores) m' c where
  ranked := later.ranked
  le := Int.le_trans first.le later.le
  attained := by
    rcases later.attained with rfl | ⟨higher, member⟩
    · have same : b = c := Option.some.inj (first.ranked.symm.trans later.ranked)
      subst same
      exact first.attained.imp_right fun ⟨higher, member⟩ =>
        ⟨higher, List.mem_cons.mpr (.inl (List.mem_singleton.mp member))⟩
    · exact .inr ⟨Int.lt_of_le_of_lt first.le higher, List.mem_cons_of_mem x member⟩
  highest := by
    intro y member d ranked
    rcases List.mem_cons.mp member with rfl | member
    · exact Int.le_trans (first.highest y (List.mem_singleton_self y) d ranked) later.le
    · exact later.highest y member d ranked

theorem isHighest_foldl {start : Float} {a : Int} (ranked : rank? start = some a)
    (scores : List Float) : ∃ b, IsHighest start a scores (scores.foldl larger start) b := by
  induction scores generalizing start a with
  | nil => exact ⟨a, ranked, Int.le_refl a, .inl rfl, nofun⟩
  | cons x scores ih =>
    obtain ⟨b, first⟩ := isHighest_larger ranked x
    obtain ⟨c, later⟩ := ih first.ranked
    exact ⟨c, first.cons later⟩

end Consensus

/-! ## What providers say -/

/-- What a provider says of an indicator, if it answers. -/
def Provider.opinion (p : Provider) (indicator : String) : Reputation :=
  (p.entries.get? indicator).getD .clean

/-- Whether a provider neither fails nor answers late. -/
def Provider.inTime (timeout : Nat) (p : Provider) : Bool :=
  decide (p.latency ≤ timeout) && !p.failing

theorem Provider.answer?_eq (p : Provider) (timeout : Nat) (indicator : String) :
    p.answer? timeout indicator =
      if p.inTime timeout then some (p.opinion indicator) else none := by
  unfold answer? inTime opinion
  by_cases late : timeout < p.latency <;> cases p.failing <;> simp [late, Nat.not_lt.mp]

namespace Consensus
open Number

/-- What a consensus of some providers on an indicator is made of. -/
structure Merges (c : Consensus) (about : String) (answering : List Provider) : Prop where
  indicator : c.indicator = about
  inRange : atMost 0 c.score = true ∧ atMost c.score 100 = true
  /-- The score is zero, or it lies above zero and some provider gives it. -/
  attained : c.score = 0 ∨ less 0 c.score = true ∧
    ∃ p ∈ answering, c.score = Scalar.between 0 100 (p.opinion about).score
  /-- No provider gives a higher number. -/
  highest : ∀ p ∈ answering, isNaN (p.opinion about).score = false →
    atMost (Scalar.between 0 100 (p.opinion about).score) c.score = true
  malicious : c.malicious = true ↔ ∃ p ∈ answering, (p.opinion about).malicious = true
  ascending : c.categories.Pairwise (· < ·)
  categories : ∀ word, word ∈ c.categories ↔
    ∃ p ∈ answering, word ∈ (p.opinion about).categories
  providers : c.providers = answering.map Provider.name

/-- The consensus is made of the answers that come in time. -/
theorem ask_eq (providers : List Provider) (timeout : Nat) (indicator : String) :
    ask providers timeout indicator =
      ofAnswers indicator ((providers.filter (Provider.inTime timeout)).map
        fun p => (p.name, p.opinion indicator)) := by
  rw [ask, ← List.filterMap_eq_map, List.filterMap_filter]
  congr 2
  funext p
  rw [Provider.answer?_eq]
  cases p.inTime timeout <;> rfl

theorem merges_ofAnswers (indicator : String) (answering : List Provider) :
    (ofAnswers indicator (answering.map fun p => (p.name, p.opinion indicator))).Merges indicator
      answering := by
  let given (p : Provider) : Float := Scalar.between 0 100 (p.opinion indicator).score
  have score : (ofAnswers indicator (answering.map fun p => (p.name, p.opinion indicator))).score =
      (answering.map given).foldl larger 0 := by
    simp only [ofAnswers, List.map_map]
    rfl
  obtain ⟨h, hundred, positive, -⟩ := rank_hundred
  obtain ⟨b, found⟩ := isHighest_foldl rank_zero (answering.map given)
  rw [← score] at found
  constructor
  case indicator => rfl
  case inRange =>
    refine ⟨(atMost_iff rank_zero found.ranked).mpr found.le, ?_⟩
    refine (atMost_iff found.ranked hundred).mpr ?_
    rcases found.attained with zero | ⟨-, member⟩
    · have none : b = 0 := Option.some.inj ((zero ▸ found.ranked).symm.trans rank_zero)
      exact none ▸ positive
    · obtain ⟨p, -, same⟩ := List.mem_map.mp member
      exact le_of_rank_between hundred positive (same ▸ found.ranked)
  case attained =>
    refine found.attained.imp_right fun ⟨higher, member⟩ => ?_
    obtain ⟨p, there, same⟩ := List.mem_map.mp member
    exact ⟨(less_iff rank_zero found.ranked).mpr higher, p, there, same.symm⟩
  case highest =>
    intro p member isNumber
    obtain ⟨a, ranked⟩ := Option.isSome_iff_exists.mp (Option.isNone_eq_false_iff.mp isNumber)
    obtain ⟨c, ranked', -⟩ := rank_between hundred positive ranked
    exact (atMost_iff ranked' found.ranked).mpr
      (found.highest _ (List.mem_map_of_mem member) c ranked')
  case malicious => simp [ofAnswers]
  case ascending => exact pairwise_ascending _
  case categories => simp [ofAnswers, mem_ascending]
  case providers => simp [ofAnswers]

/-- What is asked of all providers is made of the answers of those that are in time. -/
theorem merges_ask (providers : List Provider) (timeout : Nat) (indicator : String) :
    (ask providers timeout indicator).Merges indicator
      (providers.filter (Provider.inTime timeout)) := by
  rw [ask_eq]
  exact merges_ofAnswers indicator _

/-! ## One consensus only -/

variable {c c' : Consensus} {about : String} {answering answering' : List Provider}

/-- The score of a consensus has a rank, and only zero itself has that of zero. -/
theorem Merges.ranked (merges : c.Merges about answering) :
    ∃ a : Int, rank? c.score = some a ∧ 0 ≤ a ∧ a < Nat.pow 2 2100 ∧ (a = 0 → c.score = 0) := by
  obtain ⟨h, hundred, -, below⟩ := rank_hundred
  obtain ⟨a, b, ranked, bound, le⟩ := ranked_of_atMost merges.inRange.2
  have same : h = b := Option.some.inj (hundred.symm.trans bound)
  refine ⟨a, ranked, (atMost_iff rank_zero ranked).mp merges.inRange.1, by omega, fun none => ?_⟩
  refine merges.attained.resolve_right fun ⟨above, _⟩ => ?_
  exact Int.ne_of_gt ((less_iff rank_zero ranked).mp above) none

/-- A score above zero is no higher than that of another consensus of the same providers. -/
theorem Merges.rank_le (merges : c.Merges about answering) (merges' : c'.Merges about answering')
    (same : ∀ p, p ∈ answering ↔ p ∈ answering') {a b : Int} (ranked : rank? c.score = some a)
    (ranked' : rank? c'.score = some b) (above : 0 < a) : a ≤ b := by
  rcases merges.attained with zero | ⟨-, p, member, given⟩
  · have none : a = 0 := Option.some.inj ((zero ▸ ranked).symm.trans rank_zero)
    omega
  · have isNumber : isNaN (p.opinion about).score = false := by
      rw [given] at ranked
      unfold isNaN
      cases scored : rank? (p.opinion about).score with
      | none => simp [between_of_unranked scored, scored] at ranked
      | some => rfl
    have highest := merges'.highest p ((same p).mp member) isNumber
    exact (atMost_iff ranked ranked').mp (given ▸ highest)

theorem Merges.score_unique (merges : c.Merges about answering)
    (merges' : c'.Merges about answering') (same : ∀ p, p ∈ answering ↔ p ∈ answering') :
    c.score = c'.score := by
  obtain ⟨a, ranked, least, below, zero⟩ := merges.ranked
  obtain ⟨b, ranked', least', -, zero'⟩ := merges'.ranked
  have le := merges.rank_le merges' same ranked ranked'
  have ge := merges'.rank_le merges (fun p => (same p).symm) ranked' ranked
  rcases Int.lt_or_eq_of_le least with above | none
  · have equal : a = b := by omega
    subst equal
    exact eq_of_rank_pos ranked ranked' above below
  · have none' : b = 0 := by omega
    rw [zero none.symm, zero' none']

theorem Merges.categories_unique (merges : c.Merges about answering)
    (merges' : c'.Merges about answering') (same : ∀ p, p ∈ answering ↔ p ∈ answering') :
    c.categories = c'.categories := by
  refine merges.ascending.eq_of_mem_iff merges'.ascending fun word => ?_
  rw [merges.categories, merges'.categories]
  simp only [same]

theorem Merges.malicious_unique (merges : c.Merges about answering)
    (merges' : c'.Merges about answering') (same : ∀ p, p ∈ answering ↔ p ∈ answering') :
    c.malicious = c'.malicious := by
  rw [Bool.eq_iff_iff, merges.malicious, merges'.malicious]
  simp only [same]

/-- Providers in another order have the same consensus, but for the order of their names. -/
theorem Merges.unique (merges : c.Merges about answering)
    (merges' : c'.Merges about answering') (same : ∀ p, p ∈ answering ↔ p ∈ answering') :
    c' = { c with providers := c'.providers } := by
  have indicators := merges.indicator.trans merges'.indicator.symm
  have scores := merges.score_unique merges' same
  have verdicts := merges.malicious_unique merges' same
  have words := merges.categories_unique merges' same
  cases c
  cases c'
  cases indicators
  cases scores
  cases verdicts
  cases words
  rfl

/-- Asking all providers comes to asking those that answer in time.  The score is the highest of
    zero and theirs, brought between 0 and 100, the indicator is malicious if one of them says so,
    the categories are all of theirs in ascending order, and their names stand in the order of the
    providers.  The order of the providers shows nowhere else. -/
theorem ask_merges (providers : List Provider) (timeout : Nat) (indicator : String) :
    let answering := providers.filter (Provider.inTime timeout)
    let c := ask providers timeout indicator
    c = ask answering timeout indicator ∧ c.Merges indicator answering ∧
      ∀ others : List Provider, providers.Perm others →
        let c' := ask others timeout indicator
        c' = { c with providers := c'.providers } ∧ c.providers.Perm c'.providers := by
  intro answering c
  have merges (providers : List Provider) := merges_ask providers timeout indicator
  refine ⟨?_, merges providers, fun others perm => ?_⟩
  · rw [ask_eq answering, List.filter_filter]
    simp only [Bool.and_self]
    exact ask_eq providers timeout indicator
  · have answers : answering.Perm (others.filter (Provider.inTime timeout)) := perm.filter _
    refine ⟨(merges providers).unique (merges others) fun p => answers.mem_iff, ?_⟩
    rw [(merges providers).providers, (merges others).providers]
    exact answers.map _

/-- Of four providers one fails and one is late; the two others have a category in common, and one
    gives more than there is to give. -/
theorem ask_merges_two_of_four :
    let table (r : Reputation) : KeyMap Reputation := .ofList [("203.0.113.9", r)]
    let alpha : Provider := { name := "alpha", entries := table ⟨70, true, ["botnet"]⟩ }
    let beta : Provider :=
      { name := "beta", entries := table ⟨850, false, ["scanner", "botnet"]⟩, latency := 50 }
    let down : Provider := { name := "down", failing := true }
    let slow : Provider := { name := "slow", entries := table ⟨99, true, ["spam"]⟩, latency := 51 }
    let c := Consensus.ask [beta, down, slow, alpha] 50 "203.0.113.9"
    let c' := Consensus.ask [alpha, slow, down, beta] 50 "203.0.113.9"
    c' = { c with providers := c'.providers } ∧ same c.score 100 = true ∧ c.malicious = true ∧
      c.categories = ["botnet", "scanner"] ∧ c.providers = ["beta", "alpha"] ∧
      c'.providers = ["alpha", "beta"] := by
  intro table alpha beta down slow c c'
  have moved : [beta, down, slow, alpha].Perm [alpha, slow, down, beta] :=
    (List.reverse_perm _).symm
  have merged := ask_merges [beta, down, slow, alpha] 50 "203.0.113.9"
  exact ⟨(merged.2.2 _ moved).1, by decide +kernel, by decide +kernel, by decide +kernel,
    by decide +kernel, by decide +kernel⟩

end Consensus

end Verdict

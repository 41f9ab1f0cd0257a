import Verdict.Proofs.Engine.Operation
import Verdict.Proofs.Store.Puts

/-!
# Imports

An import puts the entities of a bundle into three stores, one after the other.  What it reports of
each, notes in the audit and leaves in the stores is that of the engine as it was before
(`each_ends`), and each kind of entities keeps to its own store.
-/

namespace Verdict

section

variable {α : Type} [Entity α]

namespace Store

/-- What is reported of entities that are put. -/
def resultsOf (s : Store α) (overwrite : Bool) (given : List α) : List ItemResult :=
  given.map fun a => ⟨Entity.id a, s.outcomeOf overwrite a⟩

end Store

end

namespace Engine

section

variable {α : Type} [Managed α] [LawfulManaged α]

omit [LawfulManaged α] in
theorem put_on_ok {now : Instant} {overwrite : Bool} {a : α} {e : Engine} {p : Store.Put α}
    {s : Store α} (done : (Managed.store e).put now overwrite a = .ok (p, s)) :
    ∃ stored, ItemResult.ofPut (Entity.id a) (.ok stored) =
        ⟨Entity.id a, Store.reported (.ok (p, s))⟩ ∧
      (put now overwrite a).on e =
        (.ok stored, (Managed.withStore s e).noteAll (Store.noted (.ok (p, s))).toList) := by
  rw [put, Operation.on_bind (change_on done)]
  cases p with
  | created stored => exact ⟨true, rfl, rfl⟩
  | updated stored => exact ⟨true, rfl, rfl⟩
  | kept => exact ⟨false, rfl, by rw [Store.noted, Option.toList_none, noteAll_nil]; rfl⟩

/-- What putting an entity comes to is told by the store as it was. -/
theorem put_ends (now : Instant) (overwrite : Bool) (a : α) {e : Engine}
    (low : ∀ b ∈ ((Managed.store e : Store α).view (Entity.id a)).1, Entity.HasSuccessor b) :
    let s : Store α := Managed.store e
    ∃ result, result ≠ .error .overflow ∧
      ItemResult.ofPut (Entity.id a) result = ⟨Entity.id a, s.outcomeOf overwrite a⟩ ∧
      (put now overwrite a).on e =
        (result, (Managed.withStore (s.afterPut now overwrite a) e).noteAll
          (s.noteOf overwrite a).toList) := by
  intro s
  have putting := s.putting now overwrite a
  rw [putting.outcome low, putting.note low, Store.afterPut]
  cases done : s.put now overwrite a with
  | ok after =>
    obtain ⟨stored, result, ends⟩ := put_on_ok done
    exact ⟨.ok stored, nofun, result, ends⟩
  | error cause =>
    refine ⟨.error cause, ?_, rfl, ?_⟩
    · rintro ⟨rfl⟩
      rw [done] at putting
      cases putting with
      | overflowed on member same last => exact last (low _ (mem_view member same))
    · have same : Managed.withStore s e = e := LawfulManaged.withStore_store e
      rw [put, Operation.on_bind_error (change_on_error done), Store.noted, Option.toList_none,
        noteAll_nil, same]

/-- What putting several entities comes to, each told by the store as it was before the first. -/
theorem each_ends {given : List α} {e : Engine} {s : Store α} (store : Managed.store e = s)
    (distinct : (given.map Entity.id).Nodup)
    (low : ∀ a ∈ given, ∀ b ∈ (s.view (Entity.id a)).1, Entity.HasSuccessor b) (now : Instant)
    (overwrite : Bool) :
    (each (put now overwrite) given).on e =
      (.ok (s.resultsOf overwrite given),
        (Managed.withStore (s.afterPuts now overwrite given) e).noteAll
          (given.filterMap (s.noteOf overwrite))) := by
  induction given generalizing e s with
  | nil =>
    have same : Managed.withStore s e = e := store ▸ LawfulManaged.withStore_store e
    rw [List.filterMap_nil, noteAll_nil, Store.afterPuts, List.foldl_nil, same]
    rfl
  | cons a rest ih =>
    obtain ⟨lowNow, lowLater⟩ := List.forall_mem_cons.mp low
    obtain ⟨other, distinctLater⟩ := List.nodup_cons.mp distinct
    obtain ⟨result, goesOn, told, ends⟩ := put_ends now overwrite a (store ▸ lowNow)
    rw [store] at told ends
    -- the rest meets another store, but one that holds the same of its ids
    have first := Store.merged_afterPut lowNow now overwrite
    have before := first.view_rest other
    have held : Managed.store ((Managed.withStore (s.afterPut now overwrite a) e).noteAll
        (s.noteOf overwrite a).toList) = s.afterPut now overwrite a := by
      rw [store_noteAll, LawfulManaged.store_withStore]
    have later := ih held distinctLater fun x member => before x member ▸ lowLater x member
    have results : (s.afterPut now overwrite a).resultsOf overwrite rest =
        s.resultsOf overwrite rest :=
      List.map_congr_left fun x member => by
        rw [Store.outcomeOf_congr first.available (before x member)]
    have notes : rest.filterMap ((s.afterPut now overwrite a).noteOf overwrite) =
        rest.filterMap (s.noteOf overwrite) :=
      List.filterMap_congr fun x member =>
        Store.noteOf_congr first.available (before x member)
    have all : (s.noteOf overwrite a).toList ++ rest.filterMap (s.noteOf overwrite) =
        (a :: rest).filterMap (s.noteOf overwrite) := by
      rw [List.filterMap_cons]
      cases s.noteOf overwrite a <;> rfl
    rw [each_cons goesOn ends, later, told, results, notes, withStore_noteAll,
      LawfulManaged.withStore_withStore, noteAll_noteAll, all]
    rfl

theorem each_ends_on {given : List α} {e : Engine} {s : Store α} (store : Managed.store e = s)
    (distinct : (given.map Entity.id).Nodup)
    (low : ∀ b ∈ s.repository.items, Entity.HasSuccessor b) (now : Instant) (overwrite : Bool) :
    (each (put now overwrite) given).on e =
      (.ok (s.resultsOf overwrite given),
        (Managed.withStore (s.afterPuts now overwrite given) e).noteAll
          (given.filterMap (s.noteOf overwrite))) :=
  each_ends store distinct (fun _ _ b member => low b (List.mem_filter.mp member).1) now overwrite

end

end Engine

/-! ## Reports -/

/-- Whether an entity failed. -/
def ItemOutcome.isFailure : ItemOutcome → Bool
  | .failed _ => true
  | .done | .kept => false

theorem ItemOutcome.counted_once (o : ItemOutcome) :
    ((if (o == .done) = true then 1 else 0) + if (o == .kept) = true then 1 else 0) +
      (if o.isFailure = true then 1 else 0) = 1 := by
  cases o <;> rfl

namespace ImportReport

theorem count_outcomes (items : List ItemResult) :
    ((items.countP fun i => i.outcome == .done) + items.countP fun i => i.outcome == .kept) +
      (items.countP fun i => i.outcome.isFailure) = items.length := by
  induction items with
  | nil => rfl
  | cons i rest ih =>
    have once := i.outcome.counted_once
    rw [List.countP_cons, List.countP_cons, List.countP_cons, List.length_cons]
    omega

/-- Every entity is counted once. -/
theorem counts (r : ImportReport) : r.imported + r.skipped + r.failed = r.items.length := by
  have all := count_outcomes r.items
  rw [failed, imported, skipped, ← List.countP_eq_length_filter, ← List.countP_eq_length_filter]
  omega

theorem failed_eq (r : ImportReport) :
    r.failed = r.items.countP fun i => i.outcome.isFailure := by
  have all := count_outcomes r.items
  rw [failed, imported, skipped, ← List.countP_eq_length_filter, ← List.countP_eq_length_filter]
  omega

end ImportReport

/-! ## Whole engines -/

theorem Bundle.checksum_new (now : Instant) (h : Holdings) :
    (new now h).checksum = (new now h).computed := rfl

/-- Whether the entities of each kind have distinct ids. -/
structure Holdings.Distinct (h : Holdings) : Prop where
  rules : (h.rules.map Entity.id).Nodup
  scoringRules : (h.scoringRules.map Entity.id).Nodup
  profiles : (h.profiles.map Entity.id).Nodup

namespace Engine

/-- Whether every version in the repositories has a successor. -/
structure HasSuccessors (e : Engine) : Prop where
  rules : ∀ r ∈ e.rules.repository.items, Entity.HasSuccessor r
  scoringRules : ∀ r ∈ e.scoringRules.repository.items, Entity.HasSuccessor r
  profiles : ∀ p ∈ e.profiles.repository.items, Entity.HasSuccessor p

/-- What is noted of the entities of a bundle. -/
def notesOf (e : Engine) (overwrite : Bool) (h : Holdings) : List Note :=
  h.profiles.filterMap (e.profiles.noteOf overwrite) ++
    h.scoringRules.filterMap (e.scoringRules.noteOf overwrite) ++
    h.rules.filterMap (e.rules.noteOf overwrite)

/-- What an import reports. -/
def reportOf (e : Engine) (overwrite : Bool) (h : Holdings) : ImportReport :=
  ⟨e.profiles.resultsOf overwrite h.profiles ++ e.scoringRules.resultsOf overwrite h.scoringRules ++
    e.rules.resultsOf overwrite h.rules⟩

/-- What an import does to an engine, and what it reports. -/
structure Imported (now : Instant) (overwrite : Bool) (h : Holdings) (e : Engine)
    (report : ImportReport) (e' : Engine) : Prop where
  reports : report = e.reportOf overwrite h
  counts : report.imported + report.skipped + report.failed = h.size
  failed : report.failed = report.items.countP fun i => i.outcome.isFailure
  profiles : e.profiles.Imported now overwrite h.profiles e'.profiles
  scoringRules : e.scoringRules.Imported now overwrite h.scoringRules e'.scoringRules
  rules : e.rules.Imported now overwrite h.rules e'.rules
  /-- Nothing else changes, but that what was stored is noted. -/
  rest : e' = { e with
    profiles := e'.profiles
    scoringRules := e'.scoringRules
    rules := e'.rules
    audit := e.audit ++ e.notesOf overwrite h }

/-- The engine after an import. -/
def afterImport (e : Engine) (now : Instant) (overwrite : Bool) (h : Holdings) : Engine :=
  { e with
    profiles := e.profiles.afterPuts now overwrite h.profiles
    scoringRules := e.scoringRules.afterPuts now overwrite h.scoringRules
    rules := e.rules.afterPuts now overwrite h.rules
    audit := e.audit ++ e.notesOf overwrite h }

theorem importAll_verified {e : Engine} {b : Bundle} (verified : b.verify = .ok ())
    (low : e.HasSuccessors) (distinct : b.holdings.Distinct) (now : Instant) (overwrite : Bool) :
    (importAll now overwrite b).on e =
      (.ok (e.reportOf overwrite b.holdings), e.afterImport now overwrite b.holdings) := by
  let afterProfiles : Engine :=
    { e with
      profiles := e.profiles.afterPuts now overwrite b.holdings.profiles
      audit := e.audit ++ b.holdings.profiles.filterMap (e.profiles.noteOf overwrite) }
  let afterScoringRules : Engine :=
    { afterProfiles with
      scoringRules := e.scoringRules.afterPuts now overwrite b.holdings.scoringRules
      audit := afterProfiles.audit ++
        b.holdings.scoringRules.filterMap (e.scoringRules.noteOf overwrite) }
  -- each kind is put into a store that the kinds before it have left alone
  have profiles : (each (put now overwrite) b.holdings.profiles).on e =
      (.ok (e.profiles.resultsOf overwrite b.holdings.profiles), afterProfiles) :=
    each_ends_on rfl distinct.profiles low.profiles now overwrite
  have scoringRules :
      (each (put now overwrite) b.holdings.scoringRules).on afterProfiles =
        (.ok (e.scoringRules.resultsOf overwrite b.holdings.scoringRules), afterScoringRules) :=
    each_ends_on (e := afterProfiles) (s := e.scoringRules) rfl distinct.scoringRules
      low.scoringRules now overwrite
  have rules := each_ends_on (e := afterScoringRules) (s := e.rules) rfl distinct.rules
    low.rules now overwrite
  rw [importAll, Operation.on_bind (Operation.on_ofExcept verified e), Operation.on_bind profiles,
    Operation.on_bind scoringRules, Operation.on_bind rules]
  have audit : ((e.audit ++ b.holdings.profiles.filterMap (e.profiles.noteOf overwrite)) ++
        b.holdings.scoringRules.filterMap (e.scoringRules.noteOf overwrite)) ++
        b.holdings.rules.filterMap (e.rules.noteOf overwrite) =
      e.audit ++ e.notesOf overwrite b.holdings := by
    rw [notesOf, List.append_assoc, List.append_assoc, List.append_assoc]
  rw [afterImport, ← audit]
  rfl

theorem imported_afterImport {e : Engine} {h : Holdings} (low : e.HasSuccessors)
    (distinct : h.Distinct) (now : Instant) (overwrite : Bool) :
    e.Imported now overwrite h (e.reportOf overwrite h) (e.afterImport now overwrite h) where
  reports := rfl
  counts := by
    rw [ImportReport.counts]
    simp only [reportOf, Store.resultsOf, List.length_append, List.length_map, Holdings.size]
    omega
  failed := ImportReport.failed_eq _
  profiles := Store.imported_afterPuts distinct.profiles low.profiles now overwrite
  scoringRules := Store.imported_afterPuts distinct.scoringRules low.scoringRules now overwrite
  rules := Store.imported_afterPuts distinct.rules low.rules now overwrite
  rest := rfl

/-- A bundle that does not have its checksum is refused, and nothing changes.  Of any other one,
    each entity is reported once, in the order of the kinds, as stored, left alone or failed; that
    is told by the engine as it was, so that none stands in the way of another.  Entities of other
    ids stay as they are, in their order.  What is stored is the entity of the bundle; only where
    it takes the place of another does it have the next version, and the time of the import.  What
    fails leaves no trace. -/
theorem importAll_merges {e : Engine} {b : Bundle} (low : e.HasSuccessors)
    (distinct : b.holdings.Distinct) (now : Instant) (overwrite : Bool) :
    (b.checksum ≠ b.computed →
        (importAll now overwrite b).on e = (.error (.integrity b.checksum b.computed), e)) ∧
      (b.checksum = b.computed →
        ∃ report e', (importAll now overwrite b).on e = (.ok report, e') ∧
          e.Imported now overwrite b.holdings report e') ∧
      (∀ (r : Rule) v, Entity.succeed r v now = { r with version := v + 1, updatedAt := now }) ∧
      (∀ (r : ScoringRule) v,
        Entity.succeed r v now = { r with version := v + 1, updatedAt := now }) ∧
      ∀ (p : Profile) v,
        Entity.succeed p v now = { p with version := v + 1, updatedAt := now } := by
  refine ⟨fun tampered => ?_, fun right => ?_, fun _ _ => rfl, fun _ _ => rfl, fun _ _ => rfl⟩
  · have refused : b.verify = .error (.integrity b.checksum b.computed) :=
      if_neg fun same => tampered (beq_iff_eq.mp same).symm
    rw [importAll, Operation.on_bind_error (Operation.on_ofExcept_error refused e)]
  · have verified : b.verify = .ok () := if_pos (beq_iff_eq.mpr right.symm)
    exact ⟨_, _, importAll_verified verified low distinct now overwrite,
      imported_afterImport low distinct now overwrite⟩

/-- Two rules are stored, one in the place of another, and a third has no name; the scoring rules
    are out of reach, which does not keep the rules from being imported. -/
theorem importAll_merges_new_known_and_nameless :
    let now : Instant := ⟨0, 0, 0, by decide, by decide⟩
    let later : Instant := ⟨1, 0, 0, by decide, by decide⟩
    let onPath : Condition := { field := "path", operator := .equals, value := .text "/x" }
    let rule (id name : String) (version : UInt64) : Rule :=
      { id := id, name := name, conditions := [onPath], actions := [{ actionType := .block }],
        version := version, createdAt := now, updatedAt := now }
    let held := [rule "a" "old" 3, rule "b" "old" 1]
    let e : Engine :=
      { rules := ⟨⟨held, true⟩, ⟨2, held⟩⟩, scoringRules := { repository := ⟨[], false⟩ } }
    let h : Holdings :=
      { rules := [rule "a" "new" 9, rule "c" "" 1, rule "d" "new" 5]
        scoringRules := [ScoringRule.new now "s" [onPath] .add 10]
        profiles := [Profile.new now "p" .medium 30] }
    e.HasSuccessors ∧ h.Distinct ∧
      ∃ report e', (importAll later true (.new now h)).on e = (.ok report, e') ∧
        report.imported = 3 ∧ report.skipped = 0 ∧ report.failed = 2 ∧
        e'.rules.view "a" = ([{ rule "a" "new" 4 with updatedAt := later }],
          [{ rule "a" "new" 4 with updatedAt := later }]) ∧
        e'.rules.view "b" = ([rule "b" "old" 1], [rule "b" "old" 1]) ∧
        e'.rules.view "c" = ([], []) ∧
        e'.rules.view "d" = ([rule "d" "new" 5], [rule "d" "new" 5]) := by
  intro now later onPath rule held e h
  have low : e.HasSuccessors := ⟨by decide, List.forall_mem_nil _, List.forall_mem_nil _⟩
  have distinct : h.Distinct := ⟨by decide, by decide, by decide⟩
  have merges := importAll_merges (b := .new now h) low distinct later true
  obtain ⟨report, e', done, imported⟩ := merges.2.1 (Bundle.checksum_new now h)
  have reports := imported.reports
  have replaced : Leaves later (rule "a" "new" 9) (e.rules.view "a") (e'.rules.view "a")
      (e.rules.outcomeOf true (rule "a" "new" 9)) := imported.rules.left _ List.mem_cons_self
  have nameless : Leaves later (rule "c" "" 1) (e.rules.view "c") (e'.rules.view "c")
      (e.rules.outcomeOf true (rule "c" "" 1)) :=
    imported.rules.left _ (List.mem_cons_of_mem _ List.mem_cons_self)
  have created : Leaves later (rule "d" "new" 5) (e.rules.view "d") (e'.rules.view "d")
      (e.rules.outcomeOf true (rule "d" "new" 5)) :=
    imported.rules.left _ (List.mem_cons_of_mem _ (List.mem_cons_of_mem _ List.mem_cons_self))
  have heldA : e.rules.view "a" = ([rule "a" "old" 3], [rule "a" "old" 3]) := rfl
  have heldD : e.rules.view "d" = ([], []) := rfl
  have storedA : e.rules.outcomeOf true (rule "a" "new" 9) = .done :=
    Store.beq_done.mp (by decide +kernel)
  have undoneC : e.rules.outcomeOf true (rule "c" "" 1) ≠ .done :=
    mt Store.beq_done.mpr (by decide +kernel)
  have storedD : e.rules.outcomeOf true (rule "d" "new" 5) = .done :=
    Store.beq_done.mp (by decide +kernel)
  rw [heldA, storedA] at replaced
  rw [heldD, storedD] at created
  refine ⟨low, distinct, report, e', done, ?_, ?_, ?_, replaced.of_known,
    imported.rules.view_other (by decide), nameless.of_undone undoneC, created.of_new⟩
  · rw [reports]
    decide +kernel
  · rw [reports]
    decide +kernel
  · rw [reports]
    decide +kernel

end Engine

end Verdict

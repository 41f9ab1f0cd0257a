import Mathlib.Data.List.Nodup
import Verdict.Proofs.Engine.Judging
import Verdict.Proofs.Engine.Operation
import Verdict.Proofs.Store.Puts

/-!
# From one engine into another

A bundle holds what the repositories of an engine hold.  Put into an engine that holds nothing, each
entity is new there, so that it is stored as it came, at the end of both the repository and the
snapshot (`put_of_fresh`, `each_put`); the three kinds do not get in each other's way
(`importAll_on`).  What comes out is what the source had (`importAll_exportAll`).

Requests are judged by snapshots, though, and a bundle is made from repositories.  An engine whose
snapshot has not seen its repository yet judges otherwise than the engine that its bundle went into
(`importAll_unseen_rule`).
-/

namespace Verdict

section

variable {α : Type} [Entity α]

/-! ## One store -/

/-- Whether entities pass their check and have distinct ids. -/
structure Sound (items : List α) : Prop where
  valid : ∀ a ∈ items, Entity.validate a = .ok a
  distinct : (items.map Entity.id).Nodup

theorem sound_nil : Sound ([] : List α) :=
  ⟨List.forall_mem_nil _, List.nodup_nil⟩

theorem sound_of_checked {items : List α}
    (checked : ∀ a ∈ items, (Entity.issues a).isEmpty = true)
    (distinct : (items.map Entity.id).Nodup) : Sound items where
  valid a member := if_pos (checked a member)
  distinct := distinct

namespace Store

/-- A store with more entities. -/
def addAll (s : Store α) (items : List α) : Store α :=
  items.foldl add s

/-- Whether a store holds nothing. -/
structure Empty (s : Store α) : Prop where
  repository : s.repository.items = []
  snapshot : s.snapshot.items = []

/-- Whether a store can be reached and holds some entities, seen by its snapshot. -/
structure Holds (s : Store α) (items : List α) : Prop where
  available : s.repository.available = true
  repository : s.repository.items = items
  snapshot : s.snapshot.items = items

theorem list_of_available {s : Store α} (available : s.repository.available = true) (f : Filter) :
    s.list f = .ok (s.repository.items.filter f.holds) := by
  simp [list, Repository.list, Repository.reach, available, Except.map]

theorem Holds.list {s : Store α} {items : List α} (holds : s.Holds items) (f : Filter) :
    s.list f = .ok (items.filter f.holds) := by
  rw [list_of_available holds.available, holds.repository]

/-- The ids of two lists together are distinct only if an entity that comes next is a new one. -/
theorem fresh_of_distinct {items rest : List α} {a : α}
    (distinct : ((items ++ a :: rest).map Entity.id).Nodup) :
    ∀ b ∈ items, Entity.id b ≠ Entity.id a := by
  intro b member
  rw [List.map_append, List.nodup_append] at distinct
  exact distinct.2.2 _ (List.mem_map_of_mem member) _ (by simp)

theorem addAll_repository (s : Store α) (items : List α) :
    (s.addAll items).repository =
      { s.repository with items := s.repository.items ++ items } := by
  induction items generalizing s with
  | nil => simp [addAll]
  | cons a rest ih =>
    have next : s.addAll (a :: rest) = (s.add a).addAll rest := rfl
    rw [next, ih]
    simp [add]

theorem addAll_snapshot {s : Store α} {items : List α}
    (distinct : ((s.snapshot.items ++ items).map Entity.id).Nodup) :
    (s.addAll items).snapshot.items = s.snapshot.items ++ items := by
  induction items generalizing s with
  | nil => simp [addAll]
  | cons a rest ih =>
    have added : (s.add a).snapshot.items = s.snapshot.items ++ [a] :=
      upsertItem_of_fresh (fresh_of_distinct distinct)
    have next : s.addAll (a :: rest) = (s.add a).addAll rest := rfl
    have together : (s.snapshot.items ++ [a]) ++ rest = s.snapshot.items ++ a :: rest := by simp
    rw [next, ih (by rwa [added, together]), added, together]

/-- A store that held nothing holds what was added. -/
theorem Empty.addAll {s : Store α} (empty : s.Empty) (available : s.repository.available = true)
    {items : List α} (distinct : (items.map Entity.id).Nodup) : (s.addAll items).Holds items where
  available := by rw [addAll_repository, available]
  repository := by rw [addAll_repository, empty.repository, List.nil_append]
  snapshot := by
    have together : s.snapshot.items ++ items = items := by rw [empty.snapshot, List.nil_append]
    rw [addAll_snapshot (by rwa [together]), together]

end Store

end

/-! ## Bundles and reports -/

/-- Whether the entities of each kind are sound. -/
structure Holdings.Sound (h : Holdings) : Prop where
  rules : Verdict.Sound h.rules
  scoringRules : Verdict.Sound h.scoringRules
  profiles : Verdict.Sound h.profiles

/-- What is reported of entities that were all stored. -/
def stored {α : Type} [Entity α] (items : List α) : List ItemResult :=
  items.map fun a => ⟨Entity.id a, .done⟩

namespace ImportReport

/-- What is reported of an import that stored everything. -/
def ofAll (h : Holdings) : ImportReport :=
  ⟨stored h.profiles ++ stored h.scoringRules ++ stored h.rules⟩

variable (h : Holdings)

theorem done_of_mem_ofAll : ∀ i ∈ (ofAll h).items, i.outcome = .done := by
  intro i member
  simp only [ofAll, stored, List.mem_append, List.mem_map] at member
  obtain (⟨_, -, rfl⟩ | ⟨_, -, rfl⟩) | ⟨_, -, rfl⟩ := member <;> rfl

theorem length_ofAll : (ofAll h).items.length = h.size := by
  simp only [ofAll, stored, List.length_append, List.length_map, Holdings.size]
  omega

theorem imported_ofAll : (ofAll h).imported = h.size := by
  have all : (ofAll h).items.filter (fun i => i.outcome == .done) = (ofAll h).items := by
    rw [List.filter_eq_self]
    intro i member
    rw [done_of_mem_ofAll h i member]
    rfl
  rw [imported, all, length_ofAll]

theorem skipped_ofAll : (ofAll h).skipped = 0 := by
  rw [skipped, List.length_eq_zero_iff, List.filter_eq_nil_iff]
  intro i member
  rw [done_of_mem_ofAll h i member]
  exact Bool.false_ne_true

theorem failed_ofAll : (ofAll h).failed = 0 := by
  rw [failed, length_ofAll, imported_ofAll, skipped_ofAll, Nat.sub_self]

end ImportReport

namespace Engine

section

variable {α : Type} [Managed α]

/-! ## One kind of entities -/

/-- The note that an entity was added. -/
def createdNote (a : α) : Note :=
  .changed (Entity.kind α) (Entity.id a) (some (Entity.version a)) .create

/-- An engine with more entities of a kind, each noted. -/
def receive (items : List α) (e : Engine) : Engine :=
  (Managed.withStore ((Managed.store e).addAll items) e).noteAll (items.map createdNote)

/-- An entity of a new id is stored and noted. -/
theorem put_on {a : α} {e : Engine}
    (available : (Managed.store e : Store α).repository.available = true)
    (valid : Entity.validate a = .ok a)
    (fresh : ∀ b ∈ (Managed.store e : Store α).repository.items, Entity.id b ≠ Entity.id a)
    (now : Instant) (overwrite : Bool) :
    (put now overwrite a).on e =
      (.ok true, (Managed.withStore ((Managed.store e).add a) e).note (createdNote a)) := by
  have changed := change_on (f := fun s => s.put now overwrite a)
    (Store.put_of_fresh available valid fresh now overwrite)
  rw [put, Operation.on_bind changed]
  rfl

variable [LawfulManaged α]

theorem receive_nil (e : Engine) : e.receive ([] : List α) = e := by
  have same : Managed.withStore ((Managed.store e : Store α).addAll []) e = e :=
    LawfulManaged.withStore_store e
  rw [receive, same, List.map_nil, noteAll_nil]

theorem receive_cons (a : α) (rest : List α) (e : Engine) :
    e.receive (a :: rest) =
      ((Managed.withStore ((Managed.store e).add a) e).note (createdNote a)).receive rest := by
  simp only [receive, List.map_cons, LawfulManaged.store_note, LawfulManaged.store_withStore,
    LawfulManaged.withStore_note, LawfulManaged.withStore_withStore, noteAll_note]
  rfl

/-- Entities of new ids are all stored, one after the other. -/
theorem each_put {items : List α} {e : Engine}
    (available : (Managed.store e : Store α).repository.available = true)
    (valid : ∀ a ∈ items, Entity.validate a = .ok a)
    (distinct : (((Managed.store e : Store α).repository.items ++ items).map Entity.id).Nodup)
    (now : Instant) (overwrite : Bool) :
    (each (put now overwrite) items).on e = (.ok (stored items), e.receive items) := by
  induction items generalizing e with
  | nil => rw [receive_nil]; rfl
  | cons a rest ih =>
    obtain ⟨validHere, validLater⟩ := List.forall_mem_cons.mp valid
    have first := put_on available validHere (Store.fresh_of_distinct distinct) now overwrite
    have later := ih (e := (Managed.withStore ((Managed.store e).add a) e).note (createdNote a))
      (by rwa [LawfulManaged.store_note, LawfulManaged.store_withStore])
      validLater
      (by
        rw [LawfulManaged.store_note, LawfulManaged.store_withStore]
        simpa [Store.add] using distinct)
    have goesOn : (Except.ok true : Except Failure Bool) ≠ .error .overflow := by
      intro broken
      cases broken
    rw [each_cons goesOn first, later, receive_cons]
    rfl

/-- Entities are all stored where there were none. -/
theorem each_put_on {items : List α} {e : Engine} (sound : Verdict.Sound items)
    (available : (Managed.store e : Store α).repository.available = true)
    (empty : (Managed.store e : Store α).Empty) (now : Instant) (overwrite : Bool) :
    (each (put now overwrite) items).on e = (.ok (stored items), e.receive items) := by
  have distinct :
      (((Managed.store e : Store α).repository.items ++ items).map Entity.id).Nodup := by
    rw [empty.repository]
    exact sound.distinct
  exact each_put available sound.valid distinct now overwrite

end

/-! ## Whole engines -/

/-- What the repositories of an engine hold. -/
def holdings (e : Engine) : Holdings :=
  ⟨e.rules.repository.items, e.scoringRules.repository.items, e.profiles.repository.items⟩

/-- Whether the repositories of an engine can be reached. -/
structure Available (e : Engine) : Prop where
  rules : e.rules.repository.available = true
  scoringRules : e.scoringRules.repository.available = true
  profiles : e.profiles.repository.available = true

/-- Whether an engine holds no entities. -/
structure Empty (e : Engine) : Prop where
  rules : e.rules.Empty
  scoringRules : e.scoringRules.Empty
  profiles : e.profiles.Empty

/-- Whether requests are judged by what the repositories hold. -/
structure Mirrors (e : Engine) : Prop where
  rules : e.rules.snapshot.items = e.rules.repository.items
  scoringRules : e.scoringRules.snapshot.items = e.scoringRules.repository.items
  profiles : e.profiles.snapshot.items = e.profiles.repository.items

/-- Whether an engine can be reached and holds some entities, seen by its snapshots. -/
structure Holds (e : Engine) (h : Holdings) : Prop where
  rules : e.rules.Holds h.rules
  scoringRules : e.scoringRules.Holds h.scoringRules
  profiles : e.profiles.Holds h.profiles

/-- An engine with more entities, taken in the order of an import. -/
def takeIn (h : Holdings) (e : Engine) : Engine :=
  ((e.receive h.profiles).receive h.scoringRules).receive h.rules

theorem Holds.available {e : Engine} {h : Holdings} (holds : e.Holds h) : e.Available :=
  ⟨holds.rules.available, holds.scoringRules.available, holds.profiles.available⟩

theorem Holds.holdings {e : Engine} {h : Holdings} (holds : e.Holds h) : e.holdings = h := by
  rw [Engine.holdings, holds.rules.repository, holds.scoringRules.repository,
    holds.profiles.repository]

/-- An engine that held nothing holds what was taken in. -/
theorem Empty.takeIn {e : Engine} (empty : e.Empty) (available : e.Available) {h : Holdings}
    (sound : h.Sound) : (e.takeIn h).Holds h where
  rules := empty.rules.addAll available.rules sound.rules.distinct
  scoringRules := empty.scoringRules.addAll available.scoringRules sound.scoringRules.distinct
  profiles := empty.profiles.addAll available.profiles sound.profiles.distinct

/-- A bundle is made of what the repositories hold. -/
theorem exportAll_on {e : Engine} (available : e.Available) (now : Instant) :
    (exportAll now).on e = (.ok (.new now e.holdings), e) := by
  have rules := read_on (f := fun (s : Store Rule) => s.list {})
    (Repository.list_all_eq_ok.mpr ⟨available.rules, rfl⟩)
  have scoringRules := read_on (f := fun (s : Store ScoringRule) => s.list {})
    (Repository.list_all_eq_ok.mpr ⟨available.scoringRules, rfl⟩)
  have profiles := read_on (f := fun (s : Store Profile) => s.list {})
    (Repository.list_all_eq_ok.mpr ⟨available.profiles, rfl⟩)
  rw [exportAll, Operation.on_bind rules, Operation.on_bind scoringRules,
    Operation.on_bind profiles]
  rfl

/-- An engine that holds nothing takes in all of a bundle of sound entities. -/
theorem importAll_on {e : Engine} (empty : e.Empty) (available : e.Available) {h : Holdings}
    (sound : h.Sound) (exported now : Instant) (overwrite : Bool) :
    (importAll now overwrite (.new exported h)).on e = (.ok (.ofAll h), e.takeIn h) := by
  have verified := Operation.on_ofExcept (Bundle.verify_new exported h) e
  have profiles := each_put_on sound.profiles available.profiles empty.profiles now overwrite
  -- each kind is put into a store that the kinds before it have left alone
  have scoringRules := each_put_on (e := e.receive h.profiles) sound.scoringRules
    available.scoringRules empty.scoringRules now overwrite
  have rules := each_put_on (e := (e.receive h.profiles).receive h.scoringRules) sound.rules
    available.rules empty.rules now overwrite
  have contents : (Bundle.new exported h).holdings = h := rfl
  rw [importAll, Operation.on_bind verified, contents, Operation.on_bind profiles,
    Operation.on_bind scoringRules, Operation.on_bind rules]
  rfl

/-- What an engine exports of sound entities goes whole into an engine of the same configuration
    that holds nothing, whether or not entities would be overwritten: nothing fails and nothing is
    left alone.  The other engine then lists the same entities in the same order, and a bundle of it
    has the same checksum.  If the source judges by what its repositories hold, the other one
    decides alike and finds the same risk. -/
theorem importAll_exportAll {source target : Engine} (available : source.Available)
    (sound : source.holdings.Sound) (reached : target.Available) (empty : target.Empty)
    (config : target.config = source.config) (exported imported : Instant) (overwrite : Bool) :
    ∃ (b : Bundle) (report : ImportReport) (loaded : Engine),
      (exportAll exported).on source = (.ok b, source) ∧
      (importAll imported overwrite b).on target = (.ok report, loaded) ∧
      (report.failed = 0 ∧ report.skipped = 0 ∧ report.imported = source.holdings.size) ∧
      (∀ f : Filter, loaded.rules.list f = source.rules.list f ∧
        loaded.scoringRules.list f = source.scoringRules.list f ∧
        loaded.profiles.list f = source.profiles.list f) ∧
      (∀ later : Instant, ∃ fresh : Bundle,
        (exportAll later).on loaded = (.ok fresh, loaded) ∧ fresh.checksum = b.checksum) ∧
      (source.Mirrors → source.InUse → target.InUse →
        ∀ ctx : Context, source.FlagsAgree ctx →
          ((decide ctx).run loaded).1 = ((decide ctx).run source).1 ∧
          ∀ (now now' : Instant) (id id' : String),
            ((assess now id ctx).run loaded).1.SameRisk ((assess now' id' ctx).run source).1) := by
  have holds := empty.takeIn reached sound
  refine ⟨.new exported source.holdings, .ofAll source.holdings, target.takeIn source.holdings,
    exportAll_on available exported, importAll_on empty reached sound exported imported overwrite,
    ⟨ImportReport.failed_ofAll _, ImportReport.skipped_ofAll _, ImportReport.imported_ofAll _⟩,
    ?_, ?_, ?_⟩
  · intro f
    refine ⟨?_, ?_, ?_⟩
    · rw [holds.rules.list, Store.list_of_available available.rules]
      rfl
    · rw [holds.scoringRules.list, Store.list_of_available available.scoringRules]
      rfl
    · rw [holds.profiles.list, Store.list_of_available available.profiles]
      rfl
  · intro later
    refine ⟨_, exportAll_on holds.available later, ?_⟩
    rw [holds.holdings]
    rfl
  · intro mirrors inUse inUse' ctx flags
    have vocabulary :
        source.config.vocabulary = (target.takeIn source.holdings).config.vocabulary :=
      congrArg Config.vocabulary config.symm
    have rules := mirrors.rules.trans holds.rules.snapshot.symm
    have scoringRules := mirrors.scoringRules.trans holds.scoringRules.snapshot.symm
    have profiles := mirrors.profiles.trans holds.profiles.snapshot.symm
    have faithful := inUse.faithful
    have kept : (target.takeIn source.holdings).Faithful :=
      ⟨inUse'.faithful.rules, inUse'.faithful.scoringRules⟩
    constructor
    · exact (decide_alike vocabulary rules flags faithful kept).symm
    · intro now now' id id'
      exact (assess_alike scoringRules profiles flags faithful kept now' now id' id).symm

theorem importAll_exportAll_one_of_each :
    let now : Instant := ⟨0, 0, 0, by decide, by decide⟩
    let onPath : Condition := { field := "path", operator := .equals, value := .text "/x" }
    let rule : Rule :=
      { id := "r", name := "r", conditions := [onPath], actions := [{ actionType := .block }],
        version := 7, createdAt := now, updatedAt := now }
    let scoringRule := ScoringRule.new now "s" [onPath] .add 10
    let profile := Profile.new now "p" .medium 30
    let source : Engine :=
      { rules := ⟨⟨[rule], true⟩, ⟨1, [rule]⟩⟩
        scoringRules := ⟨⟨[scoringRule], true⟩, ⟨1, [scoringRule]⟩⟩
        profiles := ⟨⟨[profile], true⟩, ⟨1, [profile]⟩⟩ }
    let target : Engine := {}
    source.Available ∧ source.holdings.Sound ∧ target.Available ∧ target.Empty ∧
      target.config = source.config ∧ source.Mirrors ∧ source.InUse ∧ target.InUse ∧
      (∀ ctx : Context, source.FlagsAgree ctx) ∧
      ∃ (b : Bundle) (report : ImportReport) (loaded : Engine),
        (exportAll now).on source = (.ok b, source) ∧
        (importAll now false b).on target = (.ok report, loaded) ∧ report.imported = 3 ∧
        loaded.rules.list {} = .ok [rule] ∧
        ∀ ctx : Context, ((decide ctx).run loaded).1 = ((decide ctx).run source).1 := by
  intro now onPath rule scoringRule profile source target
  have available : source.Available := ⟨rfl, rfl, rfl⟩
  have sound : source.holdings.Sound :=
    ⟨sound_of_checked (by decide +kernel) (by decide +kernel),
      sound_of_checked (by decide +kernel) (by decide +kernel),
      sound_of_checked (by decide +kernel) (by decide +kernel)⟩
  have reached : target.Available := ⟨rfl, rfl, rfl⟩
  have empty : target.Empty := ⟨⟨rfl, rfl⟩, ⟨rfl, rfl⟩, ⟨rfl, rfl⟩⟩
  have config : target.config = source.config := rfl
  have mirrors : source.Mirrors := ⟨rfl, rfl, rfl⟩
  have inUse : source.InUse := inUse_of_no_patterns rfl rfl
  have inUse' : target.InUse := inUse_of_no_patterns rfl rfl
  have plain : ∀ ctx : Context, Verdict.FlagsAgree [onPath] ctx := fun ctx =>
    List.forall_mem_singleton.mpr fun insensitive => absurd insensitive (by decide)
  have flags : ∀ ctx : Context, source.FlagsAgree ctx := fun ctx =>
    ⟨List.forall_mem_singleton.mpr fun _ => plain ctx,
      List.forall_mem_singleton.mpr fun _ => plain ctx⟩
  obtain ⟨b, report, loaded, exported, imported, ⟨-, -, number⟩, lists, -, alike⟩ :=
    importAll_exportAll available sound reached empty config now now false
  have listed : loaded.rules.list {} = .ok [rule] :=
    (lists {}).1.trans (Repository.list_all_eq_ok.mpr ⟨rfl, rfl⟩)
  refine ⟨available, sound, reached, empty, config, mirrors, inUse, inUse', flags, b, report,
    loaded, exported, imported, number, listed, ?_⟩
  exact fun ctx => (alike mirrors inUse inUse' ctx (flags ctx)).1

/-- An engine whose repository holds a rule that its snapshot has not seen lets a request pass,
    which the engine that its bundle was put into denies. -/
theorem importAll_unseen_rule :
    let now : Instant := ⟨0, 0, 0, by decide, by decide⟩
    let ctx : Context := { path := "/x", timestamp := now }
    let rule : Rule :=
      { id := "r", name := "r", createdAt := now, updatedAt := now,
        conditions := [{ field := "path", operator := .equals, value := .text "/x" }],
        actions := [{ actionType := .block }] }
    let source : Engine := { rules := { repository := { items := [rule] } } }
    let target : Engine := {}
    source.Available ∧ source.holdings.Sound ∧ target.Available ∧ target.Empty ∧
      target.config = source.config ∧ source.InUse ∧ target.InUse ∧
      source.FlagsAgree ctx ∧
      ∃ (b : Bundle) (report : ImportReport) (loaded : Engine),
        (exportAll now).on source = (.ok b, source) ∧
        (importAll now false b).on target = (.ok report, loaded) ∧
        ((decide ctx).run source).1.allow = true ∧
        ((decide ctx).run loaded).1.allow = false := by
  intro now ctx rule source target
  have available : source.Available := ⟨rfl, rfl, rfl⟩
  have sound : source.holdings.Sound :=
    ⟨sound_of_checked (by decide +kernel) (by decide +kernel), sound_nil, sound_nil⟩
  have reached : target.Available := ⟨rfl, rfl, rfl⟩
  have empty : target.Empty := ⟨⟨rfl, rfl⟩, ⟨rfl, rfl⟩, ⟨rfl, rfl⟩⟩
  have config : target.config = source.config := rfl
  have inUse : source.InUse := inUse_of_no_patterns rfl rfl
  have inUse' : target.InUse := inUse_of_no_patterns rfl rfl
  have flags : source.FlagsAgree ctx := ⟨List.forall_mem_nil _, List.forall_mem_nil _⟩
  have exported := exportAll_on available now
  have imported := importAll_on empty reached sound now now false
  have passed : ((decide ctx).run source).1.allow = true := by decide +kernel
  have denied : ((decide ctx).run (target.takeIn source.holdings)).1.allow = false := by
    decide +kernel
  exact ⟨available, sound, reached, empty, config, inUse, inUse', flags, _, _, _, exported,
    imported, passed, denied⟩

end Engine

end Verdict

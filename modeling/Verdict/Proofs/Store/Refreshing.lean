import Mathlib.Data.List.Range
import Verdict.Proofs.Store.Write

/-!
# A loop that refreshes a store

A store has a loop that refreshes its snapshot whenever a period is over.  Time passes, and between
the attempts of the loop anything may be done to the store or to its repository, which may also
become unavailable.  The loop is `Alive` with a number of attempts behind it: one attempt at every
multiple of the period so far, the next one waiting at the multiple after these.  Whatever happens
keeps it so (`Alive.next`), but for a message that ends it; then nothing waits any more.
-/

namespace Verdict

namespace Timeline

variable {κ σ : Type}

/-! ## Turns -/

/-- A turn that a job had: its time, and the state before and after it. -/
structure Turn (κ σ : Type) where
  time : Nat
  job : κ
  before : σ
  after : σ

/-- The turns that jobs have before a limit, one after the other. -/
def turnsBefore (turn : κ → σ → σ × Next κ) (limit : Nat) (state : σ)
    (waiting : List (Waiting κ)) : List (Turn κ σ) :=
  match waiting with
  | [] => []
  | w :: rest =>
      if w.due < limit then
        match turn w.job state with
        | (after, .done) => ⟨w.due, w.job, state, after⟩ :: turnsBefore turn limit after rest
        | (after, .again delay _ job) =>
            ⟨w.due, w.job, state, after⟩ ::
              turnsBefore turn limit after (enqueue ⟨w.due + delay, job⟩ rest)
      else []
termination_by remaining limit waiting
decreasing_by
  · simp only [remaining, List.foldr_cons]
    omega
  · rw [remaining_enqueue]
    simp only [remaining, List.foldr_cons]
    omega

/-- Whether turns lead from one state to another, each starting where the one before it ended. -/
def Leads (s : σ) : List (Turn κ σ) → σ → Prop
  | [], s' => s' = s
  | a :: rest, s' => a.before = s ∧ Leads a.after rest s'

/-- The turns before a limit lead to the state that is reached, and each is one of its job. -/
theorem leads_turnsBefore (turn : κ → σ → σ × Next κ) (limit : Nat) (s : σ)
    (waiting : List (Waiting κ)) :
    Leads s (turnsBefore turn limit s waiting) (runBefore turn limit s waiting).1 ∧
      ∀ a ∈ turnsBefore turn limit s waiting, a.after = (turn a.job a.before).1 := by
  fun_induction turnsBefore turn limit s waiting with
  | case1 s => simp [runBefore, Leads]
  | case2 s w rest due after turned ih =>
    rw [runBefore, if_pos due, turned]
    exact ⟨⟨rfl, ih.1⟩, List.forall_mem_cons.mpr ⟨by rw [turned], ih.2⟩⟩
  | case3 s w rest due after delay positive job turned ih =>
    rw [runBefore, if_pos due, turned]
    exact ⟨⟨rfl, ih.1⟩, List.forall_mem_cons.mpr ⟨by rw [turned], ih.2⟩⟩
  | case4 s w rest later =>
    rw [runBefore, if_neg later]
    exact ⟨rfl, by simp⟩

/-- Turns that leave the state as it is may be left out. -/
theorem Leads.filter {s s' : σ} {turns : List (Turn κ σ)} (leads : Leads s turns s')
    {keep : Turn κ σ → Bool} (idle : ∀ a ∈ turns, keep a = false → a.after = a.before) :
    Leads s (turns.filter keep) s' := by
  induction turns generalizing s with
  | nil => exact leads
  | cons a rest ih =>
    obtain ⟨here, later⟩ := leads
    obtain ⟨idleHere, idleLater⟩ := List.forall_mem_cons.mp idle
    cases kept : keep a with
    | true =>
      rw [List.filter_cons_of_pos kept]
      exact ⟨here, ih later idleLater⟩
    | false =>
      rw [List.filter_cons_of_neg (by simp [kept])]
      rw [idleHere kept, here] at later
      exact ih later idleLater

end Timeline

/-! ## A store with a loop -/

/-- A store that a loop refreshes. -/
abbrev Refreshing (α : Type) := Timeline RefreshLoop (Store α)

/-- What the loop did at one of its turns. -/
abbrev Attempt (α : Type) := Timeline.Turn RefreshLoop (Store α)

namespace Refreshing

open Timeline (turnsBefore Leads)

variable {α : Type}

/-- What happens to a store that a loop refreshes. -/
inductive Event (α : Type) where
  /-- Some time passes. -/
  | advance (span : Nat)
  /-- What is due at the present moment is done. -/
  | settle
  /-- Something is done to the store, or to its repository behind its back. -/
  | act (f : Store α → Store α)
  /-- The loop is told whether to end. -/
  | tell (s : Shutdown)

/-- Whether the loop ends. -/
def Event.ends : Event α → Bool
  | .tell s => s.ends
  | _ => false

section

variable [Entity α]

/-- A store with a loop that is about to have its first turn. -/
def start (s : Store α) (now : Nat) (l : RefreshLoop) : Refreshing α :=
  Timeline.spawn { l with started := false } { state := s, now := now }

/-- What becomes of the store and the loop. -/
def step (t : Refreshing α) : Event α → Refreshing α
  | .advance span => t.wait RefreshLoop.turn span
  | .settle => t.settle RefreshLoop.turn
  | .act f => t.modify f
  | .tell s => (t.stop RefreshLoop.turn (fun _ => true) s).2

/-- The turns that the loop has meanwhile. -/
def turns (t : Refreshing α) : Event α → List (Attempt α)
  | .advance span =>
      if span = 0 then [] else turnsBefore RefreshLoop.turn (t.now + span) t.state t.waiting
  | .settle => turnsBefore RefreshLoop.turn (t.now + 1) t.state t.waiting
  | .act _ | .tell _ => []

/-- The turns at which the loop tries to refresh, which is all but the first. -/
def attempts (t : Refreshing α) (e : Event α) : List (Attempt α) :=
  (t.turns e).filter fun a => a.job.started

/-- The store and the loop after some events. -/
def run (t : Refreshing α) (events : List (Event α)) : Refreshing α :=
  events.foldl step t

/-- All attempts during some events. -/
def attemptsIn (t : Refreshing α) : List (Event α) → List (Attempt α)
  | [] => []
  | e :: rest => t.attempts e ++ (t.step e).attemptsIn rest

/-- A loop that is told to end has no turn any more, and has none before it ends. -/
theorem step_tell (t : Refreshing α) (s : Shutdown) :
    t.step (.tell s) = if s.ends = true then { t with waiting := [] } else t := by
  have cancelled : (t.cancel fun _ => true).2 = { t with waiting := [] } := by
    simp [Timeline.cancel]
  rw [step, Timeline.stop]
  split
  · simp only [cancelled, Timeline.settle, Timeline.runBefore, ite_self]
  · rfl

/-! ## The ends of periods -/

/-- The end of the `k`-th period after some time. -/
def periodEnd (origin : Nat) (l : RefreshLoop) (k : Nat) : Nat :=
  origin + k * l.period

theorem periodEnd_succ (origin : Nat) (l : RefreshLoop) (k : Nat) :
    periodEnd origin l (k + 1) = periodEnd origin l k + l.period := by
  rw [periodEnd, periodEnd, Nat.succ_mul, Nat.add_assoc]

/-- The loop after its first turn. -/
def counting (l : RefreshLoop) : RefreshLoop :=
  { l with started := true }

/-- What is waiting when the loop has made `n` attempts. -/
def waitingFor (origin : Nat) (l : RefreshLoop) (n : Nat) : List (Waiting RefreshLoop) :=
  [⟨periodEnd origin l (n + 1), counting l⟩]

section

variable {origin : Nat} {l : RefreshLoop} {limit n : Nat} {s : Store α}

theorem runBefore_due (due : periodEnd origin l (n + 1) < limit) :
    Timeline.runBefore RefreshLoop.turn limit s (waitingFor origin l n) =
      Timeline.runBefore RefreshLoop.turn limit s.refreshed (waitingFor origin l (n + 1)) := by
  rw [waitingFor, Timeline.runBefore, if_pos due, waitingFor, periodEnd_succ origin l (n + 1)]
  rfl

theorem turnsBefore_due (due : periodEnd origin l (n + 1) < limit) :
    turnsBefore RefreshLoop.turn limit s (waitingFor origin l n) =
      ⟨periodEnd origin l (n + 1), counting l, s, s.refreshed⟩ ::
        turnsBefore RefreshLoop.turn limit s.refreshed (waitingFor origin l (n + 1)) := by
  rw [waitingFor, turnsBefore, if_pos due, waitingFor, periodEnd_succ origin l (n + 1)]
  rfl

theorem runBefore_early (early : limit ≤ periodEnd origin l (n + 1)) :
    Timeline.runBefore RefreshLoop.turn limit s (waitingFor origin l n) =
      (s, waitingFor origin l n) := by
  rw [waitingFor, Timeline.runBefore, if_neg (Nat.not_lt.mpr early)]

theorem turnsBefore_early (early : limit ≤ periodEnd origin l (n + 1)) :
    turnsBefore RefreshLoop.turn limit s (waitingFor origin l n) = [] := by
  rw [waitingFor, turnsBefore, if_neg (Nat.not_lt.mpr early)]

end

/-- The loop goes on until the next end of a period is no earlier than a limit: `m` turns, at the
    ends of the next `m` periods. -/
structure GoesOn (origin : Nat) (l : RefreshLoop) (limit n m : Nat) (s : Store α) : Prop where
  waiting : (Timeline.runBefore RefreshLoop.turn limit s (waitingFor origin l n)).2 =
    waitingFor origin l (n + m)
  times : (turnsBefore RefreshLoop.turn limit s (waitingFor origin l n)).map Timeline.Turn.time =
    (List.range' (n + 1) m).map (periodEnd origin l)
  attempts : ∀ a ∈ turnsBefore RefreshLoop.turn limit s (waitingFor origin l n),
    a.job.started = true
  none_missed : limit ≤ periodEnd origin l (n + m + 1)
  none_early : m = 0 ∨ periodEnd origin l (n + m) < limit

theorem goesOn (origin : Nat) (l : RefreshLoop) (limit n : Nat) (s : Store α) :
    ∃ m, GoesOn origin l limit n m s := by
  by_cases due : periodEnd origin l (n + 1) < limit
  · obtain ⟨m, later⟩ := goesOn origin l limit (n + 1) s.refreshed
    have next : n + (m + 1) = n + 1 + m := by omega
    refine ⟨m + 1, ?_, ?_, ?_, ?_, ?_⟩
    · rw [runBefore_due due, later.waiting, next]
    · rw [turnsBefore_due due, List.map_cons, later.times, List.range'_succ, List.map_cons]
    · rw [turnsBefore_due due]
      exact List.forall_mem_cons.mpr ⟨rfl, later.attempts⟩
    · rw [next]
      exact later.none_missed
    · rw [next]
      refine .inr (later.none_early.elim (fun none => ?_) id)
      rw [none]
      exact due
  · have early : limit ≤ periodEnd origin l (n + 1) := Nat.not_lt.mp due
    refine ⟨0, ?_, ?_, ?_, early, .inl rfl⟩
    · rw [runBefore_early early, Nat.add_zero]
    · rw [turnsBefore_early early]
      rfl
    · rw [turnsBefore_early early]
      simp
termination_by limit - periodEnd origin l (n + 1)
decreasing_by
  have later := periodEnd_succ origin l (n + 1)
  have positive := l.positive
  omega

/-! ## The loop along a run -/

/-- The loop is there and has made `n` attempts: either it is about to have its first turn, or it
    waits for the end of the period after `n` others. -/
inductive Alive (origin : Nat) (l : RefreshLoop) : Nat → Refreshing α → Prop where
  | fresh {t : Refreshing α} (waiting : t.waiting = [⟨origin, { l with started := false }⟩])
      (now : t.now = origin) : Alive origin l 0 t
  | counting {t : Refreshing α} {n : Nat} (waiting : t.waiting = waitingFor origin l n)
      (none_early : periodEnd origin l n ≤ t.now)
      (none_missed : t.now ≤ periodEnd origin l (n + 1)) : Alive origin l n t

section

variable {origin : Nat} {l : RefreshLoop} {n : Nat} {t : Refreshing α}

/-- The first turn of the loop is no attempt: it only starts the count. -/
theorem first_turn {limit : Nat} (due : origin < limit) (s : Store α) :
    let first : List (Waiting RefreshLoop) := [⟨origin, { l with started := false }⟩]
    Timeline.runBefore RefreshLoop.turn limit s first =
        Timeline.runBefore RefreshLoop.turn limit s (waitingFor origin l 0) ∧
      (turnsBefore RefreshLoop.turn limit s first).filter (fun a => a.job.started) =
        (turnsBefore RefreshLoop.turn limit s (waitingFor origin l 0)).filter
          fun a => a.job.started := by
  intro first
  have next : periodEnd origin l (0 + 1) = origin + l.period := by
    rw [periodEnd, Nat.zero_add, Nat.one_mul]
  constructor
  · rw [Timeline.runBefore, if_pos due, waitingFor, next]
    rfl
  · rw [turnsBefore, if_pos due, waitingFor, next]
    rfl

/-- Whatever is due before a limit is done, up to `m` more attempts, and the loop is still there. -/
theorem Alive.pass (alive : Alive origin l n t) {limit now : Nat} (forth : t.now ≤ now)
    (passed : t.now < limit) (before : now ≤ limit) (just : limit ≤ now + 1) :
    let ran := Timeline.runBefore RefreshLoop.turn limit t.state t.waiting
    ∃ m, ((turnsBefore RefreshLoop.turn limit t.state t.waiting).filter
          fun a => a.job.started).map Timeline.Turn.time =
        (List.range' (n + 1) m).map (periodEnd origin l) ∧
      Alive origin l (n + m) ⟨ran.1, now, ran.2⟩ := by
  intro ran
  obtain ⟨m, goes⟩ := goesOn origin l limit n t.state
  have all : (turnsBefore RefreshLoop.turn limit t.state (waitingFor origin l n)).filter
      (fun a => a.job.started) =
        turnsBefore RefreshLoop.turn limit t.state (waitingFor origin l n) :=
    List.filter_eq_self.mpr goes.attempts
  have late : now ≤ periodEnd origin l (n + m + 1) := before.trans goes.none_missed
  refine ⟨m, ?_⟩
  cases alive with
  | fresh waiting start =>
    obtain ⟨sameRun, sameAttempts⟩ := first_turn (l := l) (start ▸ passed) t.state
    have soon : periodEnd origin l (0 + m) ≤ now := by
      rcases goes.none_early with rfl | early
      · rw [periodEnd]
        omega
      · omega
    refine ⟨?_, .counting ?_ soon late⟩
    · rw [waiting, sameAttempts, all, goes.times]
    · rw [← goes.waiting, ← sameRun, ← waiting]
  | counting waiting none_early none_missed =>
    have soon : periodEnd origin l (n + m) ≤ now := by
      rcases goes.none_early with rfl | early
      · exact none_early.trans forth
      · omega
    refine ⟨?_, .counting ?_ soon late⟩
    · rw [waiting, all, goes.times]
    · rw [← goes.waiting, ← waiting]

omit [Entity α] in
theorem Alive.bounds (alive : Alive origin l n t) :
    periodEnd origin l n ≤ t.now ∧ t.now ≤ periodEnd origin l (n + 1) := by
  cases alive with
  | fresh waiting now =>
    rw [now, periodEnd, periodEnd]
    omega
  | counting waiting none_early none_missed => exact ⟨none_early, none_missed⟩

/-- Unless it is told to end, the loop is there after every event, with its attempts so far at the
    ends of as many periods. -/
theorem Alive.next (alive : Alive origin l n t) {e : Event α} (goesOn : e.ends = false) :
    ∃ m, (t.attempts e).map Timeline.Turn.time = (List.range' (n + 1) m).map (periodEnd origin l) ∧
      Alive origin l (n + m) (t.step e) := by
  cases e with
  | advance span =>
    by_cases none : span = 0
    · refine ⟨0, ?_, ?_⟩
      · rw [attempts, turns, if_pos none]
        rfl
      · rw [step, Timeline.wait, if_pos none]
        exact alive
    · have forth : t.now < t.now + span := by omega
      obtain ⟨m, times, later⟩ := alive.pass forth.le forth le_rfl (Nat.le_succ _)
      refine ⟨m, ?_, ?_⟩
      · rw [attempts, turns, if_neg none, times]
      · rw [step, Timeline.wait, if_neg none]
        exact later
  | settle =>
    obtain ⟨m, times, later⟩ := alive.pass le_rfl (Nat.lt_succ_self _) (Nat.le_succ _) le_rfl
    exact ⟨m, times, later⟩
  | act f =>
    refine ⟨0, rfl, ?_⟩
    cases alive with
    | fresh waiting now => exact .fresh waiting now
    | counting waiting early missed => exact .counting waiting early missed
  | tell s =>
    refine ⟨0, rfl, ?_⟩
    have unheard : ¬ s.ends = true := Bool.eq_false_iff.mp goesOn
    rw [step_tell, if_neg unheard]
    exact alive

/-- As long as nothing ends the loop it is there, with all its attempts at the ends of the
    periods in turn. -/
theorem Alive.run (alive : Alive origin l n t) {events : List (Event α)}
    (goOn : ∀ e ∈ events, e.ends = false) :
    (t.attemptsIn events).map Timeline.Turn.time =
        (List.range' (n + 1) (t.attemptsIn events).length).map (periodEnd origin l) ∧
      Alive origin l (n + (t.attemptsIn events).length) (t.run events) := by
  induction events generalizing t n with
  | nil => exact ⟨rfl, alive⟩
  | cons e rest ih =>
    obtain ⟨goesOn, goOn⟩ := List.forall_mem_cons.mp goOn
    obtain ⟨m, times, later⟩ := alive.next goesOn
    obtain ⟨timesLater, laterStill⟩ := ih later goOn
    have number : (t.attempts e).length = m := by
      simpa using congrArg List.length times
    have all : (t.attemptsIn (e :: rest)).length = m + ((t.step e).attemptsIn rest).length := by
      rw [attemptsIn, List.length_append, number]
    refine ⟨?_, ?_⟩
    · rw [all, attemptsIn, List.map_append, times, timesLater, ← List.range'_append_1,
        List.map_append, Nat.add_right_comm]
    · rw [all, ← Nat.add_assoc]
      exact laterStill

end

/-! ## After the end -/

/-- Where nothing waits, nothing ever will, and there are no attempts. -/
theorem step_of_none {t : Refreshing α} (none : t.waiting = []) (e : Event α) :
    (t.step e).waiting = [] ∧ t.attempts e = [] := by
  have nothing (limit : Nat) : turnsBefore RefreshLoop.turn limit t.state t.waiting = [] := by
    rw [none, turnsBefore]
  have still (limit : Nat) :
      (Timeline.runBefore RefreshLoop.turn limit t.state t.waiting).2 = [] := by
    rw [none, Timeline.runBefore]
  cases e with
  | advance span =>
    by_cases zero : span = 0
    · simp [step, Timeline.wait, attempts, turns, zero, none]
    · simp [step, Timeline.wait, attempts, turns, zero, nothing, still]
  | settle => simp [step, Timeline.settle, attempts, turns, nothing, still]
  | act f => exact ⟨none, rfl⟩
  | tell s =>
    refine ⟨?_, rfl⟩
    rw [step_tell]
    split
    · rfl
    · exact none

theorem attemptsIn_of_none {t : Refreshing α} (none : t.waiting = []) (events : List (Event α)) :
    t.attemptsIn events = [] := by
  induction events generalizing t with
  | nil => rfl
  | cons e rest ih =>
    obtain ⟨still, nothing⟩ := step_of_none none e
    rw [attemptsIn, nothing, ih still, List.append_nil]

/-- The events up to the first that ends the loop. -/
def untilEnd (events : List (Event α)) : List (Event α) :=
  events.takeWhile fun e => !e.ends

/-- There are no attempts but those before the loop ends. -/
theorem attemptsIn_untilEnd (t : Refreshing α) (events : List (Event α)) :
    t.attemptsIn events = t.attemptsIn (untilEnd events) := by
  induction events generalizing t with
  | nil => rfl
  | cons e rest ih =>
    cases ends : e.ends with
    | false => rw [untilEnd, List.takeWhile_cons_of_pos (by simp [ends]), attemptsIn, attemptsIn,
        ih, untilEnd]
    | true =>
      rw [untilEnd, List.takeWhile_cons_of_neg (by simp [ends])]
      cases e with
      | tell s =>
        have ended : s.ends = true := ends
        have told : (t.step (.tell s)).waiting = [] := by
          rw [step_tell, if_pos ended]
        change [] ++ (t.step (.tell s)).attemptsIn rest = []
        rw [attemptsIn_of_none told, List.append_nil]
      | advance _ | settle | act _ => cases ends

/-! ## What the attempts do -/

/-- What an attempt of the loop does: the snapshot comes to hold what the repository lists, or
    nothing happens at all if that is unavailable. -/
structure Refreshes (a : Attempt α) : Prop where
  repository : a.after.repository = a.before.repository
  available : a.before.repository.available = true →
    a.before.repository.list {} = .ok a.after.snapshot.items ∧
      a.after.snapshot.version = a.before.snapshot.version + 1
  unavailable : a.before.repository.available = false →
    a.after.snapshot = a.before.snapshot

/-- A refresh of an available repository succeeds, one of an unavailable repository does not. -/
theorem refreshed_eq (s : Store α) :
    s.refreshed = if s.repository.available = true then
      { s with snapshot := s.snapshot.replace s.repository.items } else s := by
  split
  · rename_i available
    rw [Store.refreshed, Store.refresh, Repository.list_all_eq_ok.mpr ⟨available, rfl⟩]
    rfl
  · rename_i unavailable
    rw [Store.refreshed, Store.refresh, Repository.list, Repository.reach, if_neg unavailable]
    rfl

theorem Refreshes.of_refreshed {a : Attempt α} (refreshed : a.after = a.before.refreshed) :
    Refreshes a := by
  by_cases available : a.before.repository.available = true
  · have replaced := refreshed.trans ((refreshed_eq a.before).trans (if_pos available))
    refine ⟨by rw [replaced], fun _ => ⟨?_, by rw [replaced]; rfl⟩, fun unavailable => ?_⟩
    · rw [replaced]
      exact Repository.list_all_eq_ok.mpr ⟨available, rfl⟩
    · rw [available] at unavailable
      cases unavailable
  · have kept := refreshed.trans ((refreshed_eq a.before).trans (if_neg available))
    exact ⟨by rw [kept], fun isAvailable => absurd isAvailable available, fun _ => by rw [kept]⟩

/-- Every attempt of the loop is a refresh of the store as it is then. -/
theorem refreshes_of_mem_attempts {t : Refreshing α} {e : Event α} {a : Attempt α}
    (tried : a ∈ t.attempts e) : Refreshes a := by
  obtain ⟨had, started⟩ := List.mem_filter.mp tried
  have turned : a.after = (RefreshLoop.turn a.job a.before).1 := by
    cases e with
    | advance span =>
      by_cases none : span = 0
      · simp [turns, none] at had
      · rw [turns, if_neg none] at had
        exact (Timeline.leads_turnsBefore _ _ _ _).2 a had
    | settle => exact (Timeline.leads_turnsBefore _ _ _ _).2 a had
    | act _ | tell _ => cases had
  rw [RefreshLoop.turn, if_pos started] at turned
  exact .of_refreshed turned

theorem refreshes_of_mem_attemptsIn {t : Refreshing α} {events : List (Event α)} {a : Attempt α}
    (tried : a ∈ t.attemptsIn events) : Refreshes a := by
  induction events generalizing t with
  | nil => cases tried
  | cons e rest ih =>
    rcases List.mem_append.mp tried with now | later
    · exact refreshes_of_mem_attempts now
    · exact ih later

/-- What an event does to the store itself, apart from the attempts of the loop. -/
def Event.onStore : Event α → Store α → Store α
  | .act f => f
  | .advance _ | .settle | .tell _ => id

/-- During an event the store changes by what is done to it and by the attempts, and by nothing
    else. -/
theorem leads_step (t : Refreshing α) (e : Event α) :
    Leads (e.onStore t.state) (t.attempts e) (t.step e).state := by
  have passes (limit : Nat) :
      Leads t.state ((turnsBefore RefreshLoop.turn limit t.state t.waiting).filter
          fun a => a.job.started)
        (Timeline.runBefore RefreshLoop.turn limit t.state t.waiting).1 := by
    obtain ⟨leads, turned⟩ := Timeline.leads_turnsBefore RefreshLoop.turn limit t.state t.waiting
    refine leads.filter fun a had unstarted => ?_
    rw [turned a had, RefreshLoop.turn, if_neg (Bool.eq_false_iff.mp unstarted)]
  cases e with
  | advance span =>
    rw [attempts, turns, step, Timeline.wait]
    split
    · rfl
    · exact passes _
  | settle => exact passes _
  | act f => rfl
  | tell s =>
    change (t.step (.tell s)).state = t.state
    rw [step_tell]
    split <;> rfl

/-! ## Time -/

/-- The time that passes during an event. -/
def Event.span : Event α → Nat
  | .advance span => span
  | .settle | .act _ | .tell _ => 0

/-- How much time passes in some events. -/
def elapsed : List (Event α) → Nat
  | [] => 0
  | e :: rest => e.span + elapsed rest

theorem step_now (t : Refreshing α) (e : Event α) : (t.step e).now = t.now + e.span := by
  cases e with
  | advance span =>
    rw [step, Timeline.wait]
    split
    · rename_i none
      rw [none]
      rfl
    · rfl
  | settle | act _ => rfl
  | tell s =>
    rw [step_tell]
    split <;> rfl

theorem run_now (t : Refreshing α) (events : List (Event α)) :
    (t.run events).now = t.now + elapsed events := by
  induction events generalizing t with
  | nil => rfl
  | cons e rest ih =>
    change ((t.step e).run rest).now = _
    rw [ih, step_now, elapsed, Nat.add_assoc]

/-! ## The loop as a whole -/

/-- Whatever happens to a store with a loop, and whenever: until it is told to end, the loop tries
    to refresh at the ends of the periods since its start, at all of these and at no other time.
    Afterwards it never does, and there is nothing else that changes the store by itself. -/
theorem refreshes_on_time (s : Store α) (origin : Nat) (l : RefreshLoop)
    (events : List (Event α)) :
    let t := start s origin l
    let all := t.attemptsIn events
    let live := untilEnd events
    all.map Timeline.Turn.time = (List.range' 1 all.length).map (fun k => origin + k * l.period) ∧
      all = t.attemptsIn live ∧
      all.length * l.period ≤ elapsed live ∧ elapsed live ≤ (all.length + 1) * l.period ∧
      (∀ a ∈ all, Refreshes a) ∧
      ∀ front e back, events = front ++ e :: back →
        Leads (e.onStore (t.run front).state) ((t.run front).attempts e)
          (t.run (front ++ [e])).state := by
  intro t all live
  have same : all = t.attemptsIn live := attemptsIn_untilEnd t events
  have goOn : ∀ e ∈ live, e.ends = false := by
    intro e there
    simpa using List.all_eq_true.mp List.all_takeWhile e there
  have fresh : Alive origin l 0 t := .fresh rfl rfl
  obtain ⟨times, alive⟩ := fresh.run goOn
  have now : (t.run live).now = origin + elapsed live := run_now t live
  rw [← same, Nat.zero_add] at times alive
  have bounds := alive.bounds
  rw [now, periodEnd, periodEnd] at bounds
  refine ⟨times, same, by omega, by omega, fun a tried => refreshes_of_mem_attemptsIn tried, ?_⟩
  intro front e back _
  have next : t.run (front ++ [e]) = (t.run front).step e := List.foldl_append
  rw [next]
  exact leads_step (t.run front) e

end

end Refreshing

end Verdict

/-!
# Timelines

A `Timeline` is a state that jobs change as time goes by.  Time passes only while someone waits;
then every job has its turn at its time, jobs of one time in the order in which they asked for it.
Whoever waits goes on before the jobs of the moment at which the waiting ends.
-/

namespace Verdict

/-- What a job asks for after its turn. -/
inductive Next (κ : Type) where
  | done
  /-- Another turn after some time. -/
  | again (delay : Nat) (positive : 0 < delay) (job : κ)

/-- What jobs are told when they may have to end. -/
inductive Shutdown where
  | message (stop : Bool)
  /-- Whoever could tell it is gone. -/
  | dropped
  deriving Repr, DecidableEq

/-- Whether jobs that are told so end. -/
def Shutdown.ends : Shutdown → Bool
  | .message stop => stop
  | .dropped => true

/-- A job and the time of its turn. -/
structure Waiting (κ : Type) where
  due : Nat
  job : κ

/-- A state with the jobs that are to change it; times are in milliseconds. -/
structure Timeline (κ σ : Type) where
  state : σ
  now : Nat := 0
  /-- The jobs in the order of their turns. -/
  waiting : List (Waiting κ) := []

namespace Timeline

variable {κ σ : Type}

/-- Puts a job behind all that are due no later. -/
def enqueue (w : Waiting κ) : List (Waiting κ) → List (Waiting κ)
  | [] => [w]
  | v :: rest => if w.due < v.due then w :: v :: rest else v :: enqueue w rest

/-- The time that is left to all jobs before a limit. -/
def remaining (limit : Nat) (waiting : List (Waiting κ)) : Nat :=
  waiting.foldr (fun w left => (limit - w.due) + left) 0

theorem remaining_enqueue (limit : Nat) (w : Waiting κ) (waiting : List (Waiting κ)) :
    remaining limit (enqueue w waiting) = (limit - w.due) + remaining limit waiting := by
  fun_induction enqueue w waiting with
  | case1 => rfl
  | case2 v rest h => rfl
  | case3 v rest h ih =>
      simp only [remaining, List.foldr_cons] at ih ⊢
      omega

/-- Gives every job that is due before a limit its turn. -/
def runBefore (turn : κ → σ → σ × Next κ) (limit : Nat) (state : σ) (waiting : List (Waiting κ)) :
    σ × List (Waiting κ) :=
  match waiting with
  | [] => (state, [])
  | w :: rest =>
      if w.due < limit then
        match turn w.job state with
        | (state, .done) => runBefore turn limit state rest
        | (state, .again delay _ job) =>
            runBefore turn limit state (enqueue ⟨w.due + delay, job⟩ rest)
      else (state, w :: rest)
termination_by remaining limit waiting
decreasing_by
  · simp only [remaining, List.foldr_cons]
    omega
  · rw [remaining_enqueue]
    simp only [remaining, List.foldr_cons]
    omega

/-- Lets some time pass. -/
def wait (turn : κ → σ → σ × Next κ) (span : Nat) (t : Timeline κ σ) : Timeline κ σ :=
  if span = 0 then t
  else
    let (state, waiting) := runBefore turn (t.now + span) t.state t.waiting
    ⟨state, t.now + span, waiting⟩

/-- Gives every job of the present moment its turn, without any time passing. -/
def settle (turn : κ → σ → σ × Next κ) (t : Timeline κ σ) : Timeline κ σ :=
  let (state, waiting) := runBefore turn (t.now + 1) t.state t.waiting
  { t with state := state, waiting := waiting }

/-- Adds a job that has its first turn as soon as someone waits. -/
def spawn (job : κ) (t : Timeline κ σ) : Timeline κ σ :=
  { t with waiting := enqueue ⟨t.now, job⟩ t.waiting }

/-- Takes away the jobs that a test chooses; gives their number. -/
def cancel (test : κ → Bool) (t : Timeline κ σ) : Nat × Timeline κ σ :=
  ((t.waiting.filter fun w => test w.job).length,
    { t with waiting := t.waiting.filter fun w => !test w.job })

/-- Tells the jobs that a test chooses to end, and waits until they did; gives their number. -/
def stop (turn : κ → σ → σ × Next κ) (test : κ → Bool) (s : Shutdown) (t : Timeline κ σ) :
    Nat × Timeline κ σ :=
  if s.ends then
    let (n, t) := t.cancel test
    (n, if n = 0 then t else t.settle turn)
  else (0, t)

/-- Changes the state. -/
def modify (f : σ → σ) (t : Timeline κ σ) : Timeline κ σ :=
  { t with state := f t.state }

end Timeline

end Verdict

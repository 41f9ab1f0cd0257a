import Verdict.Condition.Evaluation

/-!
# How deep patterns nest

A letter within groups nests as deep as there are groups around it (`Reading.run_nested`).  The flag
`(?i)` in front of it makes a sequence of the pattern, which nests one level deeper, while the
option to ignore case does not: so a pattern that nests as deep as is allowed compiles with the
option and is refused with the flag (`compile_deepest`).
-/

namespace Verdict

namespace Pattern

/-- A letter within some number of groups. -/
def nested : Nat → List Char
  | 0 => ['a']
  | n + 1 => '(' :: nested n ++ [')']

/-- The letter within as many groups as are allowed. -/
@[irreducible] def deepest : String :=
  String.ofList (nested maxNesting)

theorem length_nested (n : Nat) : (nested n).length = 2 * n + 1 := by
  induction n with
  | zero => rfl
  | succ n ih =>
    rw [nested, List.length_append, List.length_cons, ih, List.length_singleton]
    omega

/-- Nothing in it makes flags of a group around it. -/
theorem exists_cons_nested (n : Nat) : ∃ c cs, nested n = c :: cs ∧ c ≠ '?' := by
  cases n with
  | zero => exact ⟨'a', [], rfl, by decide⟩
  | succ n => exact ⟨'(', nested n ++ [')'], rfl, by decide⟩

namespace Reading

variable {r r' : Reading} {c : Char} {cs rest : List Char}

theorem run_of_step (unspaced : r.flags.spaced = false) (step : r.step c cs = some (r', rest))
    (fuel : Nat) : r.run (fuel + 1) (c :: cs) = r'.run fuel rest := by
  simp only [run, Flags.skip, unspaced, Bool.false_eq_true, if_false, step]

theorem step_open (unspaced : r.flags.spaced = false) (plain : c ≠ '?') :
    r.step '(' (c :: cs) = some (r.openGroup r.flags, c :: cs) := by
  rw [step, readGroup, Flags.skip, unspaced]
  simp [plain]

/-- A group that holds a single part nests one level deeper than the part. -/
theorem step_close (p : Part) :
    ((r.openGroup r.flags).push p).step ')' cs =
      some (r.push ⟨p.expr, p.depth + 1, true⟩, cs) := by
  rfl

/-- Reading a letter within groups adds one part, which nests as deep as the groups. -/
theorem run_nested (n : Nat) (unspaced : r.flags.spaced = false) (unicode : r.flags.unicode = true)
    (fuel : Nat) (rest : List Char) :
    r.run (fuel + (2 * n + 1)) (nested n ++ rest) =
      (r.push ⟨.one (r.flags.fold (.ofChar 'a')), n, true⟩).run fuel rest := by
  induction n generalizing r fuel rest with
  | zero =>
    have letter : r.step 'a' rest =
        some (r.push ⟨.one (r.flags.fold (.ofChar 'a')), 0, true⟩, rest) := by
      simp [step, pushPrimitive, Flags.charClass?, unicode]
    exact run_of_step unspaced letter fuel
  | succ n ih =>
    obtain ⟨c, cs, inside, plain⟩ := exists_cons_nested n
    have opened : r.step '(' (nested n ++ ')' :: rest) =
        some (r.openGroup r.flags, nested n ++ ')' :: rest) := by
      rw [inside]
      exact step_open unspaced plain
    have text : nested (n + 1) ++ rest = '(' :: (nested n ++ ')' :: rest) := by
      simp [nested]
    have steps : fuel + (2 * (n + 1) + 1) = (fuel + 1 + (2 * n + 1)) + 1 := by omega
    rw [text, steps, run_of_step unspaced opened, ih (r := r.openGroup r.flags) unspaced unicode]
    exact run_of_step (r := (r.openGroup r.flags).push _) unspaced (step_close _) fuel

/-- At the end of a pattern in which nothing is open. -/
theorem run_end (unspaced : r.flags.spaced = false) (closed : r.stack = []) (fuel : Nat) :
    r.run (fuel + 1) [] = some r.close := by
  simp [run, Flags.skip, unspaced, closed]

/-- A pattern that starts with the flag ignores case from there on. -/
theorem step_flag (cs : List Char) :
    step ⟨{}, [], [], [], []⟩ '(' ('?' :: 'i' :: ')' :: cs) =
      some (⟨{ caseless := true }, [], [], [⟨.empty, 0, false⟩], []⟩, cs) := by
  rfl

end Reading

/-- A pattern that is small enough is refused only for its depth. -/
theorem Expr.read?_of_run {caseless : Bool} {pattern : String} {p : Part}
    (read : Reading.run (pattern.length + 1) ⟨{ caseless := caseless }, [], [], [], []⟩
      pattern.toList = some p) (small : p.expr.size ≤ maxSize) :
    Expr.read? caseless pattern = if p.depth ≤ maxNesting then some p.expr else none := by
  simp [read?, read, small]

end Pattern

namespace Condition

open Pattern

/-- Whether or not case counts, a pattern may use all levels. -/
theorem compile_nested (caseSensitive : Bool) (n : Nat) :
    compile caseSensitive (String.ofList (nested n)) =
      if n ≤ maxNesting then some (.one (Flags.fold { caseless := !caseSensitive } (.ofChar 'a')))
      else none := by
  have read := Reading.run_nested (r := ⟨{ caseless := !caseSensitive }, [], [], [], []⟩) n rfl rfl
    1 []
  rw [Reading.run_end rfl rfl, List.append_nil, Nat.add_comm 1] at read
  have small : ∀ caseless,
      (Expr.one (Flags.fold { caseless := caseless } (.ofChar 'a'))).size ≤ maxSize := by
    decide +kernel
  refine Expr.read?_of_run (p := ⟨_, n, true⟩) ?_ (small _)
  rw [String.length_ofList, String.toList_ofList, length_nested]
  exact read

/-- The flag takes one level for itself. -/
theorem compile_flagged_nested (n : Nat) :
    compile true ("(?i)" ++ String.ofList (nested n)) =
      if n < maxNesting then some (.seq .empty (.one (.folded (.ofChar 'a')))) else none := by
  have read := Reading.run_nested (r := ⟨{ caseless := true }, [], [], [⟨.empty, 0, false⟩], []⟩) n
    rfl rfl 4 []
  rw [Reading.run_end rfl rfl, List.append_nil] at read
  have small : (Expr.seq .empty (.one (.folded (.ofChar 'a')))).size ≤ maxSize := by decide +kernel
  have depth : 1 + max n 0 ≤ maxNesting ↔ n < maxNesting := by omega
  have length : ("(?i)" ++ String.ofList (nested n)).length + 1 = (4 + (2 * n + 1)) + 1 := by
    have flag : "(?i)".length = 4 := rfl
    simp [length_nested, flag]
  have text : ("(?i)" ++ String.ofList (nested n)).toList =
      '(' :: '?' :: 'i' :: ')' :: nested n := by
    simp
  refine (Expr.read?_of_run (p := ⟨_, 1 + max n 0, true⟩) ?_ small).trans (by simp only [depth])
  rw [length, text, Bool.not_true, Reading.run_of_step rfl (Reading.step_flag _)]
  exact read

/-- At the deepest nesting the flag is refused, while the option is not. -/
theorem compile_deepest :
    compile true ("(?i)" ++ deepest) = none ∧
      ∀ caseSensitive, compile caseSensitive deepest =
        some (.one (Flags.fold { caseless := !caseSensitive } (.ofChar 'a'))) := by
  unfold deepest
  constructor
  · rw [compile_flagged_nested, if_neg (Nat.lt_irrefl _)]
  · intro caseSensitive
    rw [compile_nested, if_pos (Nat.le_refl _)]

end Condition

end Verdict

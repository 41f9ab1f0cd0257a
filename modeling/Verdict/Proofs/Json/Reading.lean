import Verdict.Proofs.Json.Decoding

/-!
# Laid out texts are read back

The reader takes one character at a time, so each piece of a text takes it from one state to
another, whatever follows: a string from its opening quote to the value it spells, a value from
where it is due to where it is complete (`run_layOut`).  A whole text that is not nested too deep is
read as the value that was written (`read?_pretty`).
-/

namespace Verdict.Json

/-! ## Numbers -/

/-- Whether a number is read back from its text: a finite float, or an integer that fits into 64
    bits, signed or not. -/
def Number.Readable : Number → Prop
  | .int n => -9223372036854775808 ≤ n ∧ n < 18446744073709551616
  | .float x => Verdict.Number.isFinite x = true

theorem Number.Readable.finite {n : Number} (readable : n.Readable) : n.Finite := by
  cases n with
  | int n => trivial
  | float x => exact readable

/-- The digits of a natural number stand for it, and for its negation after a sign. -/
theorem Number.read?_digits (n : Nat) (negative : Bool) (positive : negative = true → 0 < n)
    (small : n < if negative then 9223372036854775809 else 18446744073709551616) :
    Number.read? ((if negative then "-" else "").toList ++ Nat.toDigits 10 n) =
      some (.int (if negative then -(n : Int) else n)) := by
  rcases Nat.eq_zero_or_pos n with rfl | more
  · cases negative with
    | true => cases positive rfl
    | false => rfl
  have digits := Verdict.Number.isDigit_toDigits n
  have unsigned := Verdict.Number.unsigned_of_digits digits Nat.toDigits_ne_nil []
  have taken := List.takeWhile_eq_self_iff.mpr digits
  have left := List.dropWhile_eq_nil_iff.mpr digits
  have lead : ∀ rest, Nat.toDigits 10 n ≠ '0' :: rest := fun _ => Verdict.Number.head_toDigits more
  have value := Verdict.Number.digitsValue_toDigits n
  have some_digit : Nat.toDigits 10 n ≠ [] := Nat.toDigits_ne_nil
  rw [List.append_nil] at unsigned
  generalize Nat.toDigits 10 n = whole at *
  unfold Number.read?
  split
  next sign body parts =>
    obtain ⟨rfl, rfl⟩ := Verdict.Number.sign_of_parts unsigned parts
    simp only [taken, left, value]
    refine (if_neg fun refused => ?_).trans ((if_neg Bool.false_ne_true).trans ?_)
    · rw [Bool.not_true, Bool.or_false, Bool.not_eq_true'] at refused
      split at refused
      next none => exact some_digit rfl
      next => cases refused
      next zero => exact lead _ rfl
      next => cases refused
    cases sign with
    | true =>
      have bound : n ≤ Nat.pow 2 63 := Nat.le_of_lt_succ small
      exact (if_pos rfl).trans ((if_neg (by simp [more.ne'])).trans (if_pos bound))
    | false => exact (if_neg Bool.false_ne_true).trans (if_pos small)

theorem Number.read?_text {n : Number} (readable : n.Readable) :
    Number.read? n.text.toList = some n := by
  cases n with
  | float x => exact Verdict.Number.read?_scientific readable
  | int n =>
    cases n with
    | ofNat n =>
      have small : n < 18446744073709551616 := Int.ofNat_lt.mp readable.2
      have read := read?_digits n false nofun small
      rw [show (Number.int (Int.ofNat n)).text = toString (n : Int) from rfl,
        Verdict.Number.toString_natCast]
      exact read
    | negSucc n =>
      have small : n + 1 < 9223372036854775809 := by
        have low := readable.1
        omega
      have read := read?_digits (n + 1) true (fun _ => Nat.succ_pos n) small
      rw [show (Number.int (Int.negSucc n)).text = toString (Int.negSucc n) from rfl,
        Verdict.Number.toString_negSucc]
      exact read

/-! ## Running the reader -/

namespace Reader

/-- The value that the reader finds from a state on. -/
def run (s : State) (cs : List Char) : Option Json :=
  (cs.foldlM step s).bind finish

theorem run_cons {s s' : State} {c : Char} (stepped : step s c = some s') (cs : List Char) :
    run s (c :: cs) = run s' cs := by
  rw [run, List.foldlM_cons, stepped]
  rfl

/-- Blanks are skipped where they leave the state as it is. -/
theorem run_newLine {s : State} (skips : ∀ c, isSpace c = true → step s c = some s) (level : Nat)
    (cs : List Char) : run s (newLine level ++ cs) = run s cs := by
  rw [newLine, List.cons_append, run_cons (skips '\n' rfl)]
  induction 2 * level with
  | zero => rfl
  | succ n ih => rw [List.replicate_succ, List.cons_append, run_cons (skips ' ' rfl), ih]

theorem step_value_blank (stack : List Frame) (close : Bool) (c : Char) (blank : isSpace c = true) :
    step ⟨stack, .value close⟩ c = some ⟨stack, .value close⟩ :=
  if_pos blank

theorem step_name_blank (stack : List Frame) (close : Bool) (c : Char) (blank : isSpace c = true) :
    step ⟨stack, .name close⟩ c = some ⟨stack, .name close⟩ :=
  if_pos blank

theorem step_more_blank (stack : List Frame) (c : Char) (blank : isSpace c = true) :
    step ⟨stack, .more⟩ c = some ⟨stack, .more⟩ :=
  if_pos blank

/-! ## Strings -/

section

variable (stack : List Frame) (isName : Bool)

theorem step_escape {done : List (Option Char)} {at_ : Escape} {c : Char} {s : State}
    (stepped : stepEscape stack isName done at_ c = some s) :
    step ⟨stack, .escape isName done at_⟩ c = some s :=
  stepped

/-- A control character is read back from its code. -/
theorem run_codeEscape {c : Char} (control : c.toNat < 32) (done : List (Option Char))
    (cs : List Char) :
    run ⟨stack, .text isName done⟩ (codeEscape c ++ cs) =
      run ⟨stack, .text isName (some c :: done)⟩ cs := by
  have digit : ∀ n, Text.hexValue? (Text.hexDigit (n % 16)) = some (n % 16) :=
    fun n => Text.hexValue?_hexDigit _ (Nat.mod_lt _ (by omega))
  have code : 16 * (16 * (16 * (16 * 0 + c.toNat / 4096 % 16) + c.toNat / 256 % 16) +
      c.toNat / 16 % 16) + c.toNat % 16 = c.toNat := by
    omega
  have ended : endCode isName done c.toNat = .text isName (some c :: done) := by
    rw [endCode, if_neg (by simp; omega), if_neg (by simp; omega), Char.ofNat_toNat]
  simp only [codeEscape, List.cons_append, List.nil_append]
  rw [run_cons rfl, run_cons (step_escape stack isName rfl),
    run_cons (step_escape stack isName (by rw [stepEscape, digit]; rfl)),
    run_cons (step_escape stack isName (by rw [stepEscape, digit]; rfl)),
    run_cons (step_escape stack isName (by rw [stepEscape, digit]; rfl)),
    run_cons (step_escape stack isName (by
      rw [stepEscape, digit]
      exact congrArg (fun mode => some (State.mk stack mode)) (code ▸ ended)))]

/-- A character is read back from its form inside a string. -/
theorem run_escape (c : Char) (done : List (Option Char)) (cs : List Char) :
    run ⟨stack, .text isName done⟩ (escape c ++ cs) =
      run ⟨stack, .text isName (some c :: done)⟩ cs := by
  fun_cases escape c with
  | case1 | case2 | case3 | case4 | case5 | case6 | case7 => rfl
  | case8 _ _ _ _ _ _ _ _ control => exact run_codeEscape stack isName control done cs
  | case9 _ notQuote notBackslash _ _ _ _ _ plain =>
    refine run_cons ?_ cs
    refine (if_neg ?_).trans ((if_neg ?_).trans (if_neg plain))
    · exact fun quote => notQuote (beq_iff_eq.mp quote)
    · exact fun backslash => notBackslash (beq_iff_eq.mp backslash)

/-- A text without half of a surrogate pair is a name or a value. -/
theorem endText_whole (cs : List Char) :
    endText stack isName (cs.map some).reverse =
      if isName then ⟨stack, .colon (String.ofList cs)⟩
      else State.complete stack (.str (String.ofList cs)) := by
  have whole : (cs.map some).mapM id = some cs := by
    induction cs with
    | nil => rfl
    | cons c cs ih => simp [ih]
  rw [endText, List.reverse_reverse, whole]
  rfl

/-- A string is read back from where its quote has been opened. -/
theorem run_quoted (s : String) (cs : List Char) :
    run ⟨stack, .text isName []⟩ (s.toList.flatMap escape ++ '"' :: cs) =
      run (if isName then ⟨stack, .colon s⟩ else State.complete stack (.str s)) cs := by
  have chars : ∀ (front : List Char) (done : List (Option Char)),
      run ⟨stack, .text isName done⟩ (front.flatMap escape ++ '"' :: cs) =
        run (endText stack isName ((front.map some).reverse ++ done)) cs := by
    intro front
    induction front with
    | nil => exact fun done => run_cons rfl cs
    | cons c front ih =>
      intro done
      rw [List.flatMap_cons, List.append_assoc, run_escape, ih, List.map_cons, List.reverse_cons,
        List.append_assoc]
      rfl
  rw [chars, List.append_nil, endText_whole, String.ofList_toList]

end

/-! ## Numbers and words -/

theorem run_numberChars (stack : List Frame) {cs : List Char}
    (chars : ∀ c ∈ cs, isNumberChar c = true) (done rest : List Char) :
    run ⟨stack, .number done⟩ (cs ++ rest) = run ⟨stack, .number (cs.reverse ++ done)⟩ rest := by
  induction cs generalizing done with
  | nil => rfl
  | cons c cs ih =>
    have here : step ⟨stack, .number done⟩ c = some ⟨stack, .number (c :: done)⟩ :=
      if_pos (chars c List.mem_cons_self)
    rw [List.cons_append, run_cons here, ih (fun d member => chars d (List.mem_cons_of_mem _ member)),
      List.reverse_cons, List.append_assoc]
    rfl

/-- What comes after a complete value is the same whether or not it was a number. -/
theorem afterNumber_complete (stack : List Frame) (j : Json) (c : Char) :
    afterNumber (State.complete stack j) c = step (State.complete stack j) c := by
  unfold State.complete
  split <;> rfl

theorem finish_complete (stack : List Frame) (n : Number) :
    finish (State.complete stack (.num n)) = if stack = [] then some (.num n) else none := by
  unfold State.complete
  split <;> rfl

/-- A number is complete where its characters end. -/
theorem run_endNumber (stack : List Frame) {n : Number} {done : List Char}
    (read : Number.read? done.reverse = some n) {rest : List Char} (ends : EndsNumber rest) :
    run ⟨stack, .number done⟩ rest = run (State.complete stack (.num n)) rest := by
  cases rest with
  | nil =>
    show finish ⟨stack, .number done⟩ = finish (State.complete stack (.num n))
    rw [finish_complete]
    cases stack with
    | nil => exact congrArg (Option.map Json.num) read
    | cons => rfl
  | cons c rest =>
    have other : ¬ isNumberChar c = true := fun char => by simp [EndsNumber, char] at ends
    have stepped : step ⟨stack, .number done⟩ c = step (State.complete stack (.num n)) c := by
      rw [← afterNumber_complete]
      refine (if_neg other).trans ?_
      simp only [read]
    rw [run, run, List.foldlM_cons, List.foldlM_cons, stepped]

/-- The first character of a number starts it. -/
theorem step_number (stack : List Frame) (close : Bool) {c : Char}
    (first : c = '-' ∨ c.isDigit = true) :
    step ⟨stack, .value close⟩ c = some ⟨stack, .number [c]⟩ := by
  have other : ∀ d : Char, d.isDigit = false → d ≠ '-' → c ≠ d :=
    fun _ notDigit notDash => first_ne first notDigit notDash
  simp [step, isSpace, startValue, other ' ' (by decide) (by decide),
    other '\n' (by decide) (by decide), other '\r' (by decide) (by decide),
    other '\t' (by decide) (by decide), other ']' (by decide) (by decide),
    other '"' (by decide) (by decide), other '[' (by decide) (by decide),
    other '{' (by decide) (by decide), first]

theorem run_number (stack : List Frame) (close : Bool) {n : Number} (readable : n.Readable)
    {rest : List Char} (ends : EndsNumber rest) :
    run ⟨stack, .value close⟩ (n.text.toList ++ rest) = run (State.complete stack (.num n)) rest := by
  obtain ⟨c, cs, text, first⟩ := Number.text_begins readable.finite
  have chars := Number.text_chars readable.finite
  have read := Number.read?_text readable
  rw [text] at chars read ⊢
  rw [List.cons_append, run_cons (step_number stack close first),
    run_numberChars stack fun d member => chars d (List.mem_cons_of_mem _ member)]
  exact run_endNumber stack (by simpa using read) ends

end Reader

/-! ## Values -/

mutual

/-- How many arrays and objects a value has inside each other. -/
def depth : Json → Nat
  | .arr items => itemDepth items + 1
  | .obj members => memberDepth members + 1
  | .null | .bool _ | .num _ | .str _ => 0

/-- The depth of the deepest item. -/
def itemDepth : List Json → Nat
  | [] => 0
  | j :: js => max (depth j) (itemDepth js)

/-- The depth of the deepest member. -/
def memberDepth : List (String × Json) → Nat
  | [] => 0
  | (_, j) :: ms => max (depth j) (memberDepth ms)

end

@[simp] theorem depth_null : (null).depth = 0 := rfl

@[simp] theorem depth_bool (b : Bool) : (bool b).depth = 0 := rfl

@[simp] theorem depth_num (n : Number) : (num n).depth = 0 := rfl

@[simp] theorem depth_str (s : String) : (str s).depth = 0 := rfl

theorem depth_arr_le {js : List Json} {d : Nat} :
    (Json.arr js).depth ≤ d + 1 ↔ ∀ j ∈ js, j.depth ≤ d := by
  have items : itemDepth js ≤ d ↔ ∀ j ∈ js, j.depth ≤ d := by
    induction js with
    | nil => simp [itemDepth]
    | cons j rest ih => rw [itemDepth, Nat.max_le, ih, List.forall_mem_cons]
  rw [depth, Nat.add_le_add_iff_right, items]

theorem depth_obj_le {ms : List (String × Json)} {d : Nat} :
    (Json.obj ms).depth ≤ d + 1 ↔ ∀ m ∈ ms, m.2.depth ≤ d := by
  have members : memberDepth ms ≤ d ↔ ∀ m ∈ ms, m.2.depth ≤ d := by
    induction ms with
    | nil => simp [memberDepth]
    | cons m rest ih => rw [memberDepth, Nat.max_le, ih, List.forall_mem_cons]
  rw [depth, Nat.add_le_add_iff_right, members]

namespace Reader

theorem endsNumber_newLine (level : Nat) (cs : List Char) : EndsNumber (newLine level ++ cs) :=
  endsNumber_cons (c := '\n') (by decide) _

theorem endsNumber_layOutItems (level : Nat) (js : List Json) {cs : List Char}
    (ends : EndsNumber cs) : EndsNumber (layOutItems level false js ++ cs) := by
  cases js with
  | nil => exact ends
  | cons j js => exact endsNumber_cons (c := ',') (by decide) _

theorem endsNumber_layOutMembers (level : Nat) (ms : List (String × Json)) {cs : List Char}
    (ends : EndsNumber cs) : EndsNumber (layOutMembers level false ms ++ cs) := by
  cases ms with
  | nil => exact ends
  | cons m ms => exact endsNumber_cons (c := ',') (by decide) _

theorem step_open_items {stack : List Frame} (close : Bool) :
    step ⟨stack, .value close⟩ '[' = some ⟨.items [] :: stack, .value true⟩ := by
  simp [step, isSpace, startValue]

theorem step_open_members {stack : List Frame} (close : Bool) :
    step ⟨stack, .value close⟩ '\x7b' = some ⟨.members [] "" :: stack, .name true⟩ := by
  simp [step, isSpace, startValue]

/-- What is not nested too deep is kept where it ends. -/
theorem close_of_room {stack : List Frame} (room : stack.length < maxDepth) (j : Json) :
    State.close stack j = State.complete stack j := by
  rw [State.close, if_pos room]

/-- The name of a member, the colon and the blank lead to its value. -/
theorem run_memberName (done : List (String × Json)) (before : String) (stack : List Frame)
    (close : Bool) (name : String) (cs : List Char) :
    run ⟨.members done before :: stack, .name close⟩ (quote escape name ++ ':' :: ' ' :: cs) =
      run ⟨.members done name :: stack, .value false⟩ cs := by
  have opened : step ⟨.members done before :: stack, .name close⟩ '"' =
      some ⟨.members done before :: stack, .text true []⟩ := by
    simp [step, isSpace]
  rw [quote, List.cons_append, run_cons opened, List.append_assoc, List.singleton_append, run_quoted,
    if_pos rfl, run_cons rfl, run_cons (step_value_blank _ _ ' ' rfl)]

mutual

/-- A value is read where it is due, whatever follows it. -/
theorem run_layOut : ∀ (j : Json) {level : Nat} {stack : List Frame} {close : Bool}
    {rest : List Char}, j.depth + stack.length ≤ maxDepth → (∀ n ∈ j.numbers, n.Readable) →
    EndsNumber rest →
    run ⟨stack, .value close⟩ (layOut level j ++ rest) = run (State.complete stack j) rest
  | .null, level, stack, close, rest, fits, readable, ends => by cases close <;> rfl
  | .bool b, level, stack, close, rest, fits, readable, ends => by cases b <;> cases close <;> rfl
  | .num n, level, stack, close, rest, fits, readable, ends =>
    run_number stack close (readable n List.mem_cons_self) ends
  | .str s, level, stack, close, rest, fits, readable, ends => by
    have opened : step ⟨stack, .value close⟩ '"' = some ⟨stack, .text false []⟩ := by
      simp [step, isSpace, startValue]
    rw [layOut, quote, List.cons_append, run_cons opened, List.append_assoc, List.singleton_append,
      run_quoted]
    rfl
  | .arr [], level, stack, close, rest, fits, readable, ends => by
    have room : stack.length < maxDepth := by
      rw [depth] at fits
      omega
    rw [← close_of_room room]
    exact (run_cons (step_open_items close) _).trans (run_cons rfl rest)
  | .arr (j :: js), level, stack, close, rest, fits, readable, ends => by
    rw [depth, itemDepth] at fits
    obtain ⟨value, others⟩ := List.forall_mem_append.mp readable
    have after := endsNumber_newLine level (']' :: rest)
    rw [layOut, layOutItems, if_pos rfl]
    simp only [List.cons_append, List.nil_append, List.append_assoc]
    rw [run_cons (step_open_items close), run_newLine (step_value_blank _ _),
      run_layOut j (by rw [List.length_cons]; omega) value (endsNumber_layOutItems _ js after)]
    exact run_layOutItems js (by omega) others
  | .obj [], level, stack, close, rest, fits, readable, ends => by
    have room : stack.length < maxDepth := by
      rw [depth] at fits
      omega
    rw [← close_of_room room]
    exact (run_cons (step_open_members close) _).trans (run_cons rfl rest)
  | .obj ((name, j) :: ms), level, stack, close, rest, fits, readable, ends => by
    rw [depth, memberDepth] at fits
    obtain ⟨value, others⟩ := List.forall_mem_append.mp readable
    have after := endsNumber_newLine level ('\x7d' :: rest)
    rw [layOut, layOutMembers, if_pos rfl]
    simp only [List.cons_append, List.nil_append, List.append_assoc]
    rw [run_cons (step_open_members close), run_newLine (step_name_blank _ _),
      run_memberName,
      run_layOut j (by rw [List.length_cons]; omega) value (endsNumber_layOutMembers _ ms after)]
    exact run_layOutMembers ms (by omega) others

theorem run_layOutItems : ∀ (js : List Json) {inner level : Nat} {done : List Json}
    {stack : List Frame} {rest : List Char}, itemDepth js + (stack.length + 1) ≤ maxDepth →
    (∀ n ∈ itemNumbers js, n.Readable) →
    run ⟨.items done :: stack, .more⟩ (layOutItems inner false js ++ (newLine level ++ ']' :: rest)) =
      run (State.complete stack (.arr (done.reverse ++ js))) rest
  | [], inner, level, done, stack, rest, fits, readable => by
    rw [layOutItems, List.nil_append, run_newLine (step_more_blank _), List.append_nil,
      ← close_of_room (by omega)]
    exact run_cons rfl rest
  | j :: js, inner, level, done, stack, rest, fits, readable => by
    rw [itemDepth] at fits
    obtain ⟨value, others⟩ := List.forall_mem_append.mp readable
    have after := endsNumber_newLine level (']' :: rest)
    rw [layOutItems, if_neg Bool.false_ne_true]
    simp only [List.cons_append, List.nil_append, List.append_assoc]
    rw [run_cons rfl, run_newLine (step_value_blank _ _),
      run_layOut j (by rw [List.length_cons]; omega) value (endsNumber_layOutItems _ js after)]
    refine (run_layOutItems js (by omega) others).trans ?_
    rw [List.reverse_cons, List.append_assoc, List.singleton_append]

theorem run_layOutMembers : ∀ (ms : List (String × Json)) {inner level : Nat}
    {done : List (String × Json)} {before : String} {stack : List Frame} {rest : List Char},
    memberDepth ms + (stack.length + 1) ≤ maxDepth → (∀ n ∈ memberNumbers ms, n.Readable) →
    run ⟨.members done before :: stack, .more⟩
        (layOutMembers inner false ms ++ (newLine level ++ '\x7d' :: rest)) =
      run (State.complete stack (.obj (done.reverse ++ ms))) rest
  | [], inner, level, done, before, stack, rest, fits, readable => by
    rw [layOutMembers, List.nil_append, run_newLine (step_more_blank _), List.append_nil,
      ← close_of_room (by omega)]
    exact run_cons rfl rest
  | (name, j) :: ms, inner, level, done, before, stack, rest, fits, readable => by
    rw [memberDepth] at fits
    obtain ⟨value, others⟩ := List.forall_mem_append.mp readable
    have after := endsNumber_newLine level ('\x7d' :: rest)
    rw [layOutMembers, if_neg Bool.false_ne_true]
    simp only [List.cons_append, List.nil_append, List.append_assoc]
    rw [run_cons rfl, run_newLine (step_name_blank _ _), run_memberName,
      run_layOut j (by rw [List.length_cons]; omega) value (endsNumber_layOutMembers _ ms after)]
    refine (run_layOutMembers ms (by omega) others).trans ?_
    rw [List.reverse_cons, List.append_assoc, List.singleton_append]

end

end Reader

theorem read?_eq_some {text : String} {j : Json} :
    read? text = some j ↔ scan? text = some j ∧ j.isSound = true :=
  Option.filter_eq_some_iff

/-- A value that is not nested too deep is found in its text with a line for each item. -/
theorem scan?_pretty {j : Json} (fits : j.depth ≤ Reader.maxDepth)
    (readable : ∀ n ∈ j.numbers, n.Readable) : scan? j.pretty = some j := by
  have found : Reader.run ⟨[], .value false⟩ (layOut 0 j ++ []) = some j :=
    Reader.run_layOut j fits readable rfl
  rw [List.append_nil] at found
  rw [scan?, pretty, String.toList_ofList]
  exact found

end Verdict.Json

import Verdict.Proofs.Number.Reading

/-!
# Compact texts tell values apart

A compact text can be read in one way only: where it begins says what kind of value it is, a string
ends at its first quote that is not escaped, and a number where its characters end.  So two values
of finite numbers with the same text are the same (`write_injective`).
-/

namespace Verdict.Json

/-! ## Characters of strings -/

/-- Takes the escaped form of a character. -/
def unescape : List Char → Option (Char × List Char)
  | '\\' :: 'u' :: a :: b :: c :: d :: rest =>
      match Text.hexValue? a, Text.hexValue? b, Text.hexValue? c, Text.hexValue? d with
      | some a, some b, some c, some d => some (Char.ofNat (4096 * a + 256 * b + 16 * c + d), rest)
      | _, _, _, _ => none
  | '\\' :: '"' :: rest => some ('"', rest)
  | '\\' :: '\\' :: rest => some ('\\', rest)
  | '\\' :: 'n' :: rest => some ('\n', rest)
  | '\\' :: 'r' :: rest => some ('\r', rest)
  | '\\' :: 't' :: rest => some ('\t', rest)
  | c :: rest => some (c, rest)
  | [] => none

theorem unescape_codeEscape {c : Char} (small : c.toNat < 65536) (rest : List Char) :
    unescape (codeEscape c ++ rest) = some (c, rest) := by
  have digit : ∀ n, Text.hexValue? (Text.hexDigit (n % 16)) = some (n % 16) :=
    fun n => Text.hexValue?_hexDigit _ (Nat.mod_lt _ (by omega))
  have code : 4096 * (c.toNat / 4096 % 16) + 256 * (c.toNat / 256 % 16) +
      16 * (c.toNat / 16 % 16) + c.toNat % 16 = c.toNat := by
    omega
  simp only [codeEscape, List.cons_append, List.nil_append, unescape, digit, code, Char.ofNat_toNat]

theorem unescape_plain {c : Char} (plain : c ≠ '\\') (rest : List Char) :
    unescape (c :: rest) = some (c, rest) := by
  unfold unescape
  split <;> simp_all

/-- The canonical form of a character gives it back, whatever follows. -/
theorem unescape_canonicalEscape (c : Char) (rest : List Char) :
    unescape (canonicalEscape c ++ rest) = some (c, rest) := by
  fun_cases canonicalEscape c with
  | case1 | case2 | case3 | case4 | case5 => rfl
  | case6 _ _ _ _ _ _ control =>
    refine unescape_codeEscape ?_ rest
    simp only [Bool.or_eq_true, Bool.and_eq_true, decide_eq_true_eq] at control
    omega
  | case7 _ _ notBackslash => exact unescape_plain notBackslash rest

theorem canonicalEscape_head (c : Char) :
    ∃ first rest, canonicalEscape c = first :: rest ∧ first ≠ '"' := by
  fun_cases canonicalEscape c with
  | case1 | case2 | case3 | case4 | case5 => exact ⟨_, _, rfl, by decide⟩
  | case6 => exact ⟨_, _, rfl, by decide⟩
  | case7 _ notQuote => exact ⟨_, _, rfl, notQuote⟩

/-! ## Strings and numbers before other texts -/

theorem flatMap_canonicalEscape_append {cs cs' : List Char} {r r' : List Char}
    (same : cs.flatMap canonicalEscape ++ '"' :: r = cs'.flatMap canonicalEscape ++ '"' :: r') :
    cs = cs' ∧ r = r' := by
  -- a string that ends where the other goes on would have an escaped form that begins with a quote
  have ends : ∀ (c : Char) (rest t t' : List Char), '"' :: t ≠ canonicalEscape c ++ rest ++ t' := by
    intro c rest t t' equal
    obtain ⟨first, more, form, other⟩ := canonicalEscape_head c
    rw [form] at equal
    exact other (List.cons.inj equal).1.symm
  induction cs generalizing cs' with
  | nil =>
    cases cs' with
    | nil => exact ⟨rfl, (List.cons.inj same).2⟩
    | cons c' rest' => exact absurd same (ends c' _ r _)
  | cons c rest ih =>
    cases cs' with
    | nil => exact absurd same.symm (ends c _ r' _)
    | cons c' rest' =>
      simp only [List.flatMap_cons, List.append_assoc] at same
      have forms := congrArg unescape same
      rw [unescape_canonicalEscape, unescape_canonicalEscape] at forms
      obtain ⟨rfl, after⟩ := Prod.mk.inj (Option.some.inj forms)
      obtain ⟨rfl, rfl⟩ := ih after
      exact ⟨rfl, rfl⟩

theorem quote_append {s s' : String} {r r' : List Char}
    (same : quote canonicalEscape s ++ r = quote canonicalEscape s' ++ r') : s = s' ∧ r = r' := by
  simp only [quote, List.cons_append, List.append_assoc, List.cons.injEq, true_and] at same
  obtain ⟨chars, rest⟩ := flatMap_canonicalEscape_append same
  exact ⟨String.toList_inj.mp chars, rest⟩

/-- Whether a number ends before a text: it does not begin with a character of numbers. -/
def EndsNumber (cs : List Char) : Prop :=
  cs.takeWhile Reader.isNumberChar = []

theorem endsNumber_cons {c : Char} (other : Reader.isNumberChar c = false) (cs : List Char) :
    EndsNumber (c :: cs) := by
  simp [EndsNumber, other]

theorem takeWhile_number {n : Number} (finite : n.Finite) {r : List Char} (ends : EndsNumber r) :
    (n.text.toList ++ r).takeWhile Reader.isNumberChar = n.text.toList := by
  rw [List.takeWhile_append_of_pos (Number.text_chars finite), ends, List.append_nil]

/-- Finite numbers with the same text are the same. -/
theorem Number.eq_of_text {m n : Number} (finite : m.Finite) (finite' : n.Finite)
    (same : m.text = n.text) : m = n := by
  cases m with
  | int m =>
    cases n with
    | int n =>
      exact congrArg _ (Verdict.Number.toString_int_injective (congrArg String.toList same))
    | float x =>
      have pointed := (Verdict.Number.floatText_scientific finite').pointed
      rw [← show toString m = Verdict.Number.scientific "+" x from same] at pointed
      exact absurd pointed (Verdict.Number.toString_int_not_pointed m)
  | float x =>
    cases n with
    | int n =>
      have pointed := (Verdict.Number.floatText_scientific finite).pointed
      rw [show Verdict.Number.scientific "+" x = toString n from same] at pointed
      exact absurd pointed (Verdict.Number.toString_int_not_pointed n)
    | float y => exact congrArg _ (Verdict.Number.scientific_injective finite finite' same)

theorem text_append {n n' : Number} (finite : n.Finite) (finite' : n'.Finite) {r r' : List Char}
    (ends : EndsNumber r) (ends' : EndsNumber r')
    (same : n.text.toList ++ r = n'.text.toList ++ r') : n = n' ∧ r = r' := by
  have texts := congrArg (List.takeWhile Reader.isNumberChar) same
  rw [takeWhile_number finite ends, takeWhile_number finite' ends'] at texts
  rw [texts] at same
  exact ⟨Number.eq_of_text finite finite' (String.toList_inj.mp texts),
    List.append_cancel_left same⟩

/-! ## Values before other texts -/

/-- The kinds of values. -/
inductive Kind where
  | null
  | bool
  | num
  | str
  | arr
  | obj
  deriving DecidableEq

/-- The kind of a value. -/
def kind : Json → Kind
  | .null => .null
  | .bool _ => .bool
  | .num _ => .num
  | .str _ => .str
  | .arr _ => .arr
  | .obj _ => .obj

/-- The kind of the values that begin with a character. -/
def Kind.ofChar? (c : Char) : Option Kind :=
  if c = 'n' then some .null
  else if c = 't' ∨ c = 'f' then some .bool
  else if c = '"' then some .str
  else if c = '[' then some .arr
  else if c = '{' then some .obj
  else if c = '-' ∨ c.isDigit then some .num
  else none

/-- Numbers begin with no other character than a minus or a digit. -/
theorem first_ne {c d : Char} (first : c = '-' ∨ c.isDigit = true) (notDigit : d.isDigit = false)
    (notDash : d ≠ '-') : c ≠ d := by
  rintro rfl
  rcases first with dash | digit
  · exact notDash dash
  · rw [digit] at notDigit
    cases notDigit

theorem Kind.ofChar?_number {c : Char} (first : c = '-' ∨ c.isDigit = true) :
    Kind.ofChar? c = some .num := by
  simp [ofChar?, first_ne first (d := 'n') (by decide) (by decide),
    first_ne first (d := 't') (by decide) (by decide),
    first_ne first (d := 'f') (by decide) (by decide),
    first_ne first (d := '"') (by decide) (by decide),
    first_ne first (d := '[') (by decide) (by decide),
    first_ne first (d := '{') (by decide) (by decide), first]

/-- The first character of a text shows the kind of its value. -/
theorem write_head (esc : Char → List Char) {j : Json} (finite : ∀ n ∈ j.numbers, n.Finite) :
    ∃ c rest, write esc j = c :: rest ∧ Kind.ofChar? c = some j.kind := by
  cases j with
  | null => exact ⟨'n', _, rfl, rfl⟩
  | bool b => cases b with
    | true => exact ⟨'t', _, rfl, rfl⟩
    | false => exact ⟨'f', _, rfl, rfl⟩
  | num n =>
    obtain ⟨c, rest, text, first⟩ := Number.text_begins (finite n List.mem_cons_self)
    exact ⟨c, rest, text, Kind.ofChar?_number first⟩
  | str s => exact ⟨'"', _, rfl, rfl⟩
  | arr items => exact ⟨'[', _, rfl, rfl⟩
  | obj members => exact ⟨'{', _, rfl, rfl⟩

theorem kind_eq_of_write_append {j j' : Json} (finite : ∀ n ∈ j.numbers, n.Finite)
    (finite' : ∀ n ∈ j'.numbers, n.Finite) {esc : Char → List Char} {r r' : List Char}
    (same : write esc j ++ r = write esc j' ++ r') :
    j.kind = j'.kind := by
  obtain ⟨c, rest, text, shows⟩ := write_head esc finite
  obtain ⟨c', rest', text', shows'⟩ := write_head esc finite'
  rw [text, text'] at same
  rw [(List.cons.inj same).1, shows'] at shows
  exact (Option.some.inj shows).symm

theorem endsNumber_items (esc : Char → List Char) (js : List Json) (r : List Char) :
    EndsNumber (writeItems esc false js ++ ']' :: r) := by
  cases js with
  | nil => exact endsNumber_cons (by decide) _
  | cons j js => exact endsNumber_cons (c := ',') (by decide) _

theorem endsNumber_members (esc : Char → List Char) (ms : List (String × Json)) (r : List Char) :
    EndsNumber (writeMembers esc false ms ++ '}' :: r) := by
  cases ms with
  | nil => exact endsNumber_cons (by decide) _
  | cons m ms => exact endsNumber_cons (c := ',') (by decide) _

/-- Items do not begin like the end of a list. -/
theorem close_ne_items {esc : Char → List Char} {first : Bool} {j : Json} {js : List Json}
    (finite : ∀ n ∈ j.numbers, n.Finite) (r r' : List Char) :
    ']' :: r ≠ writeItems esc first (j :: js) ++ r' := by
  intro same
  cases first with
  | false => exact absurd (List.cons.inj same).1 (by decide)
  | true =>
    obtain ⟨c, rest, text, shows⟩ := write_head esc finite
    simp only [writeItems, if_true, List.nil_append, text, List.cons_append] at same
    rw [← (List.cons.inj same).1] at shows
    cases shows

/-- Members do not begin like the end of a record. -/
theorem close_ne_members {esc : Char → List Char} {first : Bool} {m : String × Json}
    {ms : List (String × Json)} (r r' : List Char) :
    '}' :: r ≠ writeMembers esc first (m :: ms) ++ r' := by
  intro same
  cases first with
  | false => exact absurd (List.cons.inj same).1 (by decide)
  | true => exact absurd (List.cons.inj same).1 (by decide)

mutual

/-- Where texts of values begin two equal texts, the values are equal and so is what follows. -/
theorem write_append : ∀ (j j' : Json) {r r' : List Char}, (∀ n ∈ j.numbers, n.Finite) →
    (∀ n ∈ j'.numbers, n.Finite) → EndsNumber r → EndsNumber r' →
    write canonicalEscape j ++ r = write canonicalEscape j' ++ r' → j = j' ∧ r = r'
  | .null, j', r, r', finite, finite', ends, ends', same => by
    have kinds := kind_eq_of_write_append finite finite' same
    cases j' with
    | null => exact ⟨rfl, List.append_cancel_left same⟩
    | _ => cases kinds
  | .bool b, j', r, r', finite, finite', ends, ends', same => by
    have kinds := kind_eq_of_write_append finite finite' same
    cases j' with
    | bool b' =>
      cases b <;> cases b'
      case false.false | true.true => exact ⟨rfl, List.append_cancel_left same⟩
      case false.true | true.false => exact absurd (List.cons.inj same).1 (by decide)
    | _ => cases kinds
  | .num n, j', r, r', finite, finite', ends, ends', same => by
    have kinds := kind_eq_of_write_append finite finite' same
    cases j' with
    | num n' =>
      obtain ⟨rfl, rest⟩ := text_append (finite n List.mem_cons_self)
        (finite' n' List.mem_cons_self) ends ends' same
      exact ⟨rfl, rest⟩
    | _ => cases kinds
  | .str s, j', r, r', finite, finite', ends, ends', same => by
    have kinds := kind_eq_of_write_append finite finite' same
    cases j' with
    | str s' =>
      obtain ⟨rfl, rest⟩ := quote_append same
      exact ⟨rfl, rest⟩
    | _ => cases kinds
  | .arr items, j', r, r', finite, finite', ends, ends', same => by
    have kinds := kind_eq_of_write_append finite finite' same
    cases j' with
    | arr items' =>
      simp only [write, List.cons_append, List.append_assoc, List.cons.injEq, true_and] at same
      obtain ⟨rfl, rest⟩ := writeItems_append items items' finite finite' same
      exact ⟨rfl, rest⟩
    | _ => cases kinds
  | .obj members, j', r, r', finite, finite', ends, ends', same => by
    have kinds := kind_eq_of_write_append finite finite' same
    cases j' with
    | obj members' =>
      simp only [write, List.cons_append, List.append_assoc, List.cons.injEq, true_and] at same
      obtain ⟨rfl, rest⟩ := writeMembers_append members members' finite finite' same
      exact ⟨rfl, rest⟩
    | _ => cases kinds

theorem writeItems_append : ∀ (js js' : List Json) {first : Bool} {r r' : List Char},
    (∀ n ∈ itemNumbers js, n.Finite) → (∀ n ∈ itemNumbers js', n.Finite) →
    writeItems canonicalEscape first js ++ ']' :: r =
      writeItems canonicalEscape first js' ++ ']' :: r' → js = js' ∧ r = r'
  | [], [], first, r, r', finite, finite', same => ⟨rfl, (List.cons.inj same).2⟩
  | [], j' :: js', first, r, r', finite, finite', same =>
    absurd same (close_ne_items (List.forall_mem_append.mp finite').1 r _)
  | j :: js, [], first, r, r', finite, finite', same =>
    absurd same.symm (close_ne_items (List.forall_mem_append.mp finite).1 r' _)
  | j :: js, j' :: js', first, r, r', finite, finite', same => by
    simp only [writeItems, List.append_assoc] at same
    obtain ⟨value, others⟩ := List.forall_mem_append.mp finite
    obtain ⟨value', others'⟩ := List.forall_mem_append.mp finite'
    obtain ⟨rfl, rest⟩ := write_append j j' value value' (endsNumber_items _ js r)
      (endsNumber_items _ js' r') (List.append_cancel_left same)
    obtain ⟨rfl, after⟩ := writeItems_append js js' others others' rest
    exact ⟨rfl, after⟩

theorem writeMembers_append : ∀ (ms ms' : List (String × Json)) {first : Bool} {r r' : List Char},
    (∀ n ∈ memberNumbers ms, n.Finite) → (∀ n ∈ memberNumbers ms', n.Finite) →
    writeMembers canonicalEscape first ms ++ '}' :: r =
      writeMembers canonicalEscape first ms' ++ '}' :: r' → ms = ms' ∧ r = r'
  | [], [], first, r, r', finite, finite', same => ⟨rfl, (List.cons.inj same).2⟩
  | [], m' :: ms', first, r, r', finite, finite', same => absurd same (close_ne_members r _)
  | m :: ms, [], first, r, r', finite, finite', same => absurd same.symm (close_ne_members r' _)
  | (name, j) :: ms, (name', j') :: ms', first, r, r', finite, finite', same => by
    simp only [writeMembers, List.append_assoc] at same
    obtain ⟨value, others⟩ := List.forall_mem_append.mp finite
    obtain ⟨value', others'⟩ := List.forall_mem_append.mp finite'
    obtain ⟨rfl, colon⟩ := quote_append (List.append_cancel_left same)
    obtain ⟨rfl, rest⟩ := write_append j j' value value' (endsNumber_members _ ms r)
      (endsNumber_members _ ms' r') (List.cons.inj colon).2
    obtain ⟨rfl, after⟩ := writeMembers_append ms ms' others others' rest
    exact ⟨rfl, after⟩

end

/-- Values of finite numbers with the same compact text are the same. -/
theorem write_injective {j j' : Json} (finite : ∀ n ∈ j.numbers, n.Finite)
    (finite' : ∀ n ∈ j'.numbers, n.Finite)
    (same : write canonicalEscape j = write canonicalEscape j') : j = j' :=
  (write_append j j' finite finite' rfl rfl (by rw [same]) : j = j' ∧ ([] : List Char) = []).1

end Verdict.Json

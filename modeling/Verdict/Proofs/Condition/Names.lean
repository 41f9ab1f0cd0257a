import Mathlib.Computability.Language
import Verdict.Condition.Basic
import Verdict.Proofs.Text.Pieces

/-!
# The grammar of field names

Field names are the words of a regular language (`fieldGrammar`): a letter or an underscore, any
number of field characters, then any number of groups, each of them a dot and some field
characters.  A text is cut at its dots to see whether it is one, and the pieces tell exactly the
words of that language (`isFieldName_iff_mem_fieldGrammar`).
-/

namespace Verdict

open scoped Computability

/-! ## The grammar -/

/-- The letters of ASCII, of either case. -/
def asciiLetters : Set Char :=
  {c | 'A' ≤ c ∧ c ≤ 'Z' ∨ 'a' ≤ c ∧ c ≤ 'z'}

/-- The digits of ASCII. -/
def asciiDigits : Set Char :=
  {c | '0' ≤ c ∧ c ≤ '9'}

/-- The characters that a field name may begin with. -/
def fieldStarts : Set Char :=
  asciiLetters ∪ {'_'}

/-- The characters of field names, dots apart. -/
def fieldChars : Set Char :=
  asciiLetters ∪ asciiDigits ∪ {'_', '-'}

/-- The words of one character out of a set. -/
def oneOf (chars : Set Char) : Language Char :=
  {word | ∃ c ∈ chars, word = [c]}

/-- The field names. -/
def fieldGrammar : Language Char :=
  oneOf fieldStarts * (oneOf fieldChars)∗ *
    (oneOf {'.'} * (oneOf fieldChars * (oneOf fieldChars)∗))∗

/-! ## Words of characters -/

section

variable {chars chars' : Set Char} {c : Char} {cs : List Char}

theorem mem_oneOf_mul {rest : Language Char} :
    cs ∈ oneOf chars * rest ↔ ∃ c ∈ chars, ∃ more ∈ rest, cs = c :: more := by
  rw [Language.mem_mul]
  constructor
  · rintro ⟨_, ⟨c, member, rfl⟩, more, words, rfl⟩
    exact ⟨c, member, more, words, rfl⟩
  · rintro ⟨c, member, more, words, rfl⟩
    exact ⟨[c], ⟨c, member, rfl⟩, more, words, rfl⟩

/-- Any number of characters out of a set. -/
theorem mem_kstar_oneOf : cs ∈ (oneOf chars)∗ ↔ ∀ c ∈ cs, c ∈ chars := by
  rw [Language.mem_kstar]
  constructor
  · rintro ⟨words, rfl, each⟩ c member
    obtain ⟨word, listed, inside⟩ := List.mem_flatten.mp member
    obtain ⟨d, known, rfl⟩ := each word listed
    rwa [List.mem_singleton.mp inside]
  · intro all
    refine ⟨cs.map ([·]), (List.flatMap_singleton' cs).symm, ?_⟩
    exact List.forall_mem_map.mpr fun c member => ⟨c, all c member, rfl⟩

theorem nil_not_mem_oneOf_mul {rest : Language Char} : [] ∉ oneOf chars * rest := by
  rw [mem_oneOf_mul]
  rintro ⟨c, -, more, -, ⟨⟩⟩

/-- A first character, and any number of others. -/
theorem cons_mem_oneOf_mul :
    c :: cs ∈ oneOf chars * (oneOf chars')∗ ↔ c ∈ chars ∧ ∀ d ∈ cs, d ∈ chars' := by
  rw [mem_oneOf_mul]
  constructor
  · rintro ⟨_, first, _, others, ⟨⟩⟩
    exact ⟨first, mem_kstar_oneOf.mp others⟩
  · rintro ⟨first, others⟩
    exact ⟨c, first, cs, mem_kstar_oneOf.mpr others, rfl⟩

theorem chars_of_mem_oneOf_mul (within : chars ⊆ chars')
    (word : cs ∈ oneOf chars * (oneOf chars')∗) : ∀ c ∈ cs, c ∈ chars' := by
  obtain ⟨c, first, more, others, rfl⟩ := mem_oneOf_mul.mp word
  exact List.forall_mem_cons.mpr ⟨within first, mem_kstar_oneOf.mp others⟩

end

/-! ## Pieces between dots -/

section

variable {c : Char} {cs : List Char}

theorem isAlpha_iff_mem : c.isAlpha = true ↔ c ∈ asciiLetters := by
  have upper : c.isUpper = true ↔ 'A' ≤ c ∧ c ≤ 'Z' := decide_eq_true_iff
  have lower : c.isLower = true ↔ 'a' ≤ c ∧ c ≤ 'z' :=
    Bool.and_eq_true_iff.trans (and_congr decide_eq_true_iff decide_eq_true_iff)
  exact Bool.or_eq_true_iff.trans (or_congr upper lower)

theorem isDigit_iff_mem : c.isDigit = true ↔ c ∈ asciiDigits :=
  Bool.and_eq_true_iff.trans (and_congr decide_eq_true_iff decide_eq_true_iff)

theorem isFieldChar_iff_mem : isFieldChar c = true ↔ c ∈ fieldChars := by
  simp only [isFieldChar, Char.isAlphanum, Bool.or_eq_true, isAlpha_iff_mem, isDigit_iff_mem,
    beq_iff_eq, or_assoc]
  simp only [fieldChars, Set.mem_union, Set.mem_insert_iff, Set.mem_singleton_iff, or_assoc]

theorem dot_not_mem_fieldChars : '.' ∉ fieldChars := by
  rw [← isFieldChar_iff_mem]
  decide

theorem fieldStarts_subset : fieldStarts ⊆ fieldChars := by
  rintro c (letter | rfl)
  · exact .inl (.inl letter)
  · exact .inr (.inl rfl)

/-- What may stand in front of the first dot. -/
theorem isFieldHead_iff : isFieldHead cs = true ↔ cs ∈ oneOf fieldStarts * (oneOf fieldChars)∗ := by
  cases cs with
  | nil => simp [isFieldHead, nil_not_mem_oneOf_mul]
  | cons c rest =>
    simp only [isFieldHead, cons_mem_oneOf_mul, Bool.and_eq_true, Bool.or_eq_true, isAlpha_iff_mem,
      beq_iff_eq, List.all_eq_true, List.forall_mem_cons, isFieldChar_iff_mem]
    constructor
    · rintro ⟨start, -, others⟩
      exact ⟨start, others⟩
    · rintro ⟨start, others⟩
      exact ⟨start, fieldStarts_subset start, others⟩

/-- What may stand behind a dot, up to the next one. -/
theorem isFieldTail_iff : isFieldTail cs = true ↔ cs ∈ oneOf fieldChars * (oneOf fieldChars)∗ := by
  cases cs with
  | nil => simp [isFieldTail, nil_not_mem_oneOf_mul]
  | cons c rest =>
    simp only [isFieldTail, cons_mem_oneOf_mul, List.isEmpty_cons, Bool.not_false, Bool.true_and,
      List.all_eq_true, List.forall_mem_cons, isFieldChar_iff_mem]

/-- Any number of groups are pieces that may stand behind a dot, each behind one. -/
theorem mem_groups_iff :
    cs ∈ (oneOf {'.'} * (oneOf fieldChars * (oneOf fieldChars)∗))∗ ↔
      ∃ tail : List (List Char), (∀ piece ∈ tail, isFieldTail piece = true) ∧
        cs = (tail.map ('.' :: ·)).flatten := by
  rw [Language.mem_kstar]
  constructor
  · rintro ⟨groups, rfl, each⟩
    induction groups with
    | nil => exact ⟨[], nofun, rfl⟩
    | cons group rest ih =>
      obtain ⟨here, later⟩ := List.forall_mem_cons.mp each
      obtain ⟨_, rfl, piece, inside, rfl⟩ := mem_oneOf_mul.mp here
      obtain ⟨tail, pieces, same⟩ := ih later
      refine ⟨piece :: tail, List.forall_mem_cons.mpr ⟨isFieldTail_iff.mpr inside, pieces⟩, ?_⟩
      rw [List.flatten_cons, same, List.map_cons, List.flatten_cons]
  · rintro ⟨tail, pieces, rfl⟩
    refine ⟨tail.map ('.' :: ·), rfl, List.forall_mem_map.mpr fun piece member => ?_⟩
    exact mem_oneOf_mul.mpr ⟨'.', rfl, piece, isFieldTail_iff.mp (pieces piece member), rfl⟩

end

/-- A text is a field name exactly if it is a word of the grammar: one letter or underscore, any
    number of letters, digits, underscores and hyphens, then any number of groups of a dot and at
    least one of those. -/
theorem isFieldName_iff_mem_fieldGrammar (s : String) :
    isFieldName s = true ↔ s.toList ∈ fieldGrammar := by
  unfold fieldGrammar
  rw [Language.mem_mul, isFieldName]
  constructor
  · intro accepted
    have joined := Text.intercalate_splitAt '.' s.toList
    cases pieces : Text.splitAt '.' s.toList with
    | nil => exact absurd pieces (Text.splitAt_ne_nil _ _)
    | cons head tail =>
      rw [pieces] at accepted joined
      obtain ⟨isHead, areTails⟩ := Bool.and_eq_true_iff.mp accepted
      rw [Text.intercalate_cons] at joined
      have groups := mem_groups_iff.mpr ⟨tail, List.all_eq_true.mp areTails, rfl⟩
      exact ⟨head, isFieldHead_iff.mp isHead, _, groups, joined⟩
  · rintro ⟨head, isHead, _, groups, joined⟩
    obtain ⟨tail, areTails, rfl⟩ := mem_groups_iff.mp groups
    have free : ∀ piece ∈ head :: tail, '.' ∉ piece := by
      intro piece member dot
      refine dot_not_mem_fieldChars ?_
      rcases List.mem_cons.mp member with rfl | later
      · exact chars_of_mem_oneOf_mul fieldStarts_subset isHead _ dot
      · have word := isFieldTail_iff.mp (areTails piece later)
        exact chars_of_mem_oneOf_mul (Set.Subset.refl _) word _ dot
    have pieces := Text.splitAt_intercalate (List.cons_ne_nil head tail) free
    rw [Text.intercalate_cons, joined] at pieces
    rw [pieces]
    exact Bool.and_eq_true_iff.mpr ⟨isFieldHead_iff.mpr isHead, List.all_eq_true.mpr areTails⟩

end Verdict

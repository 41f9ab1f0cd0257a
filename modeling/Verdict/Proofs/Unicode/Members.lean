import Verdict.Unicode.Case

/-!
# Members of the sets in the tables

A set of characters is written in the tables as lines of ranges, and to evaluate `has` each line is
taken apart into characters first.  `Ranges.Lists` goes through the lines one by one, given the
characters of each, and so decides membership of a character for the few that proofs are about.
-/

namespace Verdict.Unicode

/-- The ranges in a line, given by its characters. -/
def Ranges.ofLine (cs : List Char) : Ranges :=
  (Text.splitAt ' ' cs).map Ranges.readRange

/-- Whether the first lines of ranges, up to one with the code point, list it. -/
inductive Ranges.Lists (n : Nat) : List String → Bool → Prop
  | none : Ranges.Lists n [] false
  | here {line cs lines} (spelled : line = String.ofList cs)
      (listed : (Ranges.ofLine cs).hasCode n = true) : Ranges.Lists n (line :: lines) true
  | there {line cs lines found} (spelled : line = String.ofList cs)
      (passed : (Ranges.ofLine cs).hasCode n = false) (rest : Ranges.Lists n lines found) :
      Ranges.Lists n (line :: lines) found

/-- The lines of ranges of a category. -/
def categoryLines (name : String) : List String :=
  ((categoryTable.find? fun entry => entry.1.contains name).map Prod.snd).getD []

/-- The lines of ranges of a property, but for its exceptions. -/
def Property.lines (p : Property) : List String :=
  p.besides ++ p.categories.flatMap categoryLines

section

variable {n : Nat} {lines : List String} {found : Bool}

theorem Ranges.hasCode_append (front rest : Ranges) :
    (front ++ rest).hasCode n = (front.hasCode n || rest.hasCode n) := by
  induction front with
  | nil => rfl
  | cons range front ih => simp only [List.cons_append, Ranges.hasCode, ih, Bool.or_assoc]

theorem Ranges.Lists.hasCode_read (lists : Ranges.Lists n lines found) :
    (Ranges.read lines).hasCode n = found := by
  induction lists with
  | none => rfl
  | here spelled listed =>
    rw [Ranges.ofLine] at listed
    rw [Ranges.read, List.flatMap_cons, spelled, String.toList_ofList, Ranges.hasCode_append,
      listed, Bool.true_or]
  | there spelled passed _ ih =>
    rw [Ranges.ofLine] at passed
    rw [Ranges.read, List.flatMap_cons, spelled, String.toList_ofList, Ranges.hasCode_append,
      passed, Bool.false_or]
    exact ih

theorem categoriesRanges_eq (names : List String) :
    categoriesRanges names = Ranges.read (names.flatMap categoryLines) := by
  induction names with
  | nil => rfl
  | cons name names ih =>
    have one : (lookupRanges name categoryTable).getD [] = Ranges.read (categoryLines name) := by
      unfold lookupRanges categoryLines
      cases categoryTable.find? fun entry => entry.1.contains name <;> rfl
    rw [categoriesRanges] at ih
    rw [categoriesRanges, List.flatMap_cons, List.flatMap_cons, ih, one, Ranges.read, Ranges.read,
      Ranges.read, List.flatMap_append]

/-- The members of a property are those that its lines list. -/
theorem Property.members_eq (p : Property) : p.charSet.members = Ranges.read p.lines := by
  have joined : Ranges.read p.lines =
      Ranges.read p.besides ++ Ranges.read (p.categories.flatMap categoryLines) :=
    List.flatMap_append
  rw [joined, ← categoriesRanges_eq, Property.charSet]

/-- A character is in a property without exceptions exactly if its lines list it. -/
theorem has_of_lists {set : CharSet} {p : Property} {c : Char} (listed : set = p.charSet)
    (plain : p.except = []) (lists : Ranges.Lists c.toNat p.lines found) : set.has c = found := by
  rw [listed, CharSet.has, Property.members_eq, Ranges.has, lists.hasCode_read, Property.charSet,
    plain]
  exact Bool.and_true found

end

/-! ## Greek capitals -/

theorem ignorable_capitalSigma : caseIgnorableSet.has '\u03a3' = false := by
  refine has_of_lists rfl rfl ?_
  repeat first | exact .none | refine .there rfl (by decide +kernel) ?_

theorem ignorable_capitalAlpha : caseIgnorableSet.has '\u0391' = false := by
  refine has_of_lists rfl rfl ?_
  repeat first | exact .none | refine .there rfl (by decide +kernel) ?_

theorem cased_capitalAlpha : casedSet.has '\u0391' = true := by
  refine has_of_lists rfl rfl ?_
  repeat first | exact .here rfl (by decide +kernel) | refine .there rfl (by decide +kernel) ?_

end Verdict.Unicode

import Verdict.Pattern.Class

/-!
# Pattern expressions and searching

`Expr.isFoundIn` says whether a pattern matches somewhere in a text.  The search walks the text
once with the set of all partial matches: a partial match is the list of expressions still to be
matched, and reading a character replaces it by its derivatives.
-/

namespace Verdict.Pattern

/-- A test of the place between two characters. -/
inductive Look where
  | textStart
  | textEnd
  | lineStart
  | lineEnd
  /-- Lines ended by carriage return, line feed or both. -/
  | anyLineStart
  | anyLineEnd
  /-- Boundaries of words; `unicode` picks the characters that words are made of. -/
  | boundary (unicode : Bool)
  | noBoundary (unicode : Bool)
  | wordStart (unicode : Bool)
  | wordEnd (unicode : Bool)
  | wordStartHalf (unicode : Bool)
  | wordEndHalf (unicode : Bool)
  deriving Repr, BEq, DecidableEq

/-- A place in a text: the characters before and after it, if there are any. -/
structure Place where
  before : Option Char
  after : Option Char
  deriving Repr, DecidableEq

/-- Whether the neighbour is a character that words are made of. -/
def isWord (unicode : Bool) : Option Char → Bool
  | none => false
  | some c =>
      if unicode then Unicode.wordSet.has c
      else c.isAlphanum || c == '_'

/-- Whether the test holds at a place. -/
def Look.holds (l : Look) (p : Place) : Bool :=
  match l with
  | .textStart => p.before.isNone
  | .textEnd => p.after.isNone
  | .lineStart => p.before.isNone || p.before == some '\n'
  | .lineEnd => p.after.isNone || p.after == some '\n'
  | .anyLineStart =>
      p.before.isNone || p.before == some '\n' || (p.before == some '\r' && p.after != some '\n')
  | .anyLineEnd =>
      p.after.isNone || p.after == some '\r' || (p.after == some '\n' && p.before != some '\r')
  | .boundary u => isWord u p.before != isWord u p.after
  | .noBoundary u => isWord u p.before == isWord u p.after
  | .wordStart u => !isWord u p.before && isWord u p.after
  | .wordEnd u => isWord u p.before && !isWord u p.after
  | .wordStartHalf u => !isWord u p.before
  | .wordEndHalf u => !isWord u p.after

/-- A pattern expression. -/
inductive Expr where
  | empty
  | one (cls : CharClass)
  | look (l : Look)
  | seq (a b : Expr)
  | alt (a b : Expr)
  /-- At least `min` and at most `max` copies. -/
  | rep (e : Expr) (min : Nat) (max : Option Nat)
  deriving Repr, BEq, DecidableEq, Inhabited

namespace Expr

/-- Whether the expression matches the empty text at a place. -/
def nullable (p : Place) : Expr → Bool
  | .empty => true
  | .one _ => false
  | .look l => l.holds p
  | .seq a b => a.nullable p && b.nullable p
  | .alt a b => a.nullable p || b.nullable p
  | .rep e min _ => min == 0 || e.nullable p

/-- What is left to match after one more copy of a repetition; no copy is left when `max` is
    zero. -/
def oneLess (e : Expr) (min : Nat) : Option Nat → List Expr
  | none => [.rep e (min - 1) none]
  | some max => if max ≤ 1 then [] else [.rep e (min - 1) (some (max - 1))]

/-- What is left to match after some copies that match the empty text and one that does not. -/
def remaining (e : Expr) (max : Option Nat) : Nat → Bool → List (List Expr)
  | 0, _ => [oneLess e 0 max]
  | min + 1, false => [oneLess e (min + 1) max]
  | min + 1, true =>
      oneLess e (min + 1) max ::
        if min == 0 then [] else remaining e (max.map (· - 1)) min true

/-- The derivatives at a place by the character after it: each is a list of expressions that
    must match in turn after that character. -/
def derive (p : Place) (c : Char) : Expr → List (List Expr)
  | .empty => []
  | .look _ => []
  | .one cls => if cls.has c then [[]] else []
  | .seq a b =>
      (derive p c a).map (· ++ [b]) ++ (if a.nullable p then derive p c b else [])
  | .alt a b => derive p c a ++ derive p c b
  | .rep e min max =>
      if max == some 0 then []
      else
        (remaining e max min (e.nullable p)).flatMap fun rest =>
          (derive p c e).map (· ++ rest)

/-- Whether all expressions match the empty text at a place. -/
def accepts (p : Place) (es : List Expr) : Bool :=
  es.all (nullable p)

/-- The derivatives of a list of expressions to be matched in turn. -/
def deriveAll (p : Place) (c : Char) : List Expr → List (List Expr)
  | [] => []
  | e :: es =>
      (derive p c e).map (· ++ es) ++ (if e.nullable p then deriveAll p c es else [])

/-- Searches the rest of a text, given the character before it and the partial matches. -/
def searchFrom (e : Expr) (before : Option Char) (partials : List (List Expr)) :
    List Char → Bool
  | [] => ([e] :: partials).any (accepts ⟨before, none⟩)
  | c :: cs =>
      let p : Place := ⟨before, some c⟩
      let here := [e] :: partials
      here.any (accepts p) || searchFrom e (some c) (here.flatMap (deriveAll p c)).eraseDups cs

/-- Whether the expression matches somewhere in a text. -/
def isFoundIn (e : Expr) (text : String) : Bool :=
  searchFrom e none [] text.toList

/-- An estimate of the storage that a matcher of the expression needs, in bytes, which stands for
    the limit on the size of compiled patterns: counted repetitions are copied, and a class takes
    room for each of its ranges.  It tells patterns far below the limit from those far above it;
    close to the limit it may be off. -/
def size : Expr → Nat
  | .empty => 24
  | .one cls => if cls.isAscii then 24 + 8 * (cls.weight - 1) else 64 + 55 * cls.weight
  | .look _ => 24
  | .seq a b => a.size + b.size
  | .alt a b => 32 + a.size + b.size
  | .rep e min max =>
      match max with
      | none => 32 + Nat.max min 1 * e.size
      | some max => 32 * (max - min) + max * e.size

end Expr

end Verdict.Pattern

import Verdict.Number.Binary

/-!
# Decimal texts of floats

`shortest` finds the fewest decimal digits that read back as the same float and, among those, the
digits nearest to it; a `Tie` says which of two that are equally near.  `plain` and `scientific`
lay such digits out: in full, or with an exponent outside the range `1e-5 ≤ |x| < 1e16`.
`readFloat?` is the reading of decimal texts.
-/

namespace Verdict.Number

/-- Decimal digits, most significant first, and a power of ten: `0.d₁d₂… · 10 ^ point`. -/
structure Digits where
  digits : List Char
  point : Int
  deriving Repr, DecidableEq

/-- Which of two equally near decimals is taken. -/
inductive Tie where
  /-- The one whose last digit is even. -/
  | even
  /-- The one further from zero. -/
  | up
  deriving Repr, DecidableEq

/-- Whether a tie between `n` and `n + 1` goes to `n`. -/
def Tie.isDown : Tie → Nat → Bool
  | .even, n => n % 2 == 0
  | .up, _ => false

/-- A fraction `num / den` of natural numbers compared with a decimal `n · 10 ^ k`. -/
def scaled (num den : Nat) (k : Int) : Nat × Nat :=
  if 0 ≤ k then (num, den * Nat.pow 10 k.toNat) else (num * Nat.pow 10 (-k).toNat, den)

/-- The candidate on the grid `10 ^ k` that lies between the bounds, the nearer of two. -/
def onGrid (tie : Tie) (low mid high den : Nat) (closed : Bool) (k : Int) : Option Nat :=
  let (mid', den') := scaled mid den k
  let (low', _) := scaled low den k
  let (high', _) := scaled high den k
  let floor := mid' / den'
  let inside (n : Nat) : Bool :=
    if closed then low' ≤ n * den' && n * den' ≤ high' else low' < n * den' && n * den' < high'
  let below := inside floor && floor != 0
  let above := inside (floor + 1)
  match below, above with
  | true, true =>
      let twice := 2 * (mid' - floor * den')
      if twice < den' || (twice == den' && tie.isDown floor) then some floor
      else some (floor + 1)
  | true, false => some floor
  | false, true => some (floor + 1)
  | false, false => none

/-- The exponent `e` with `10 ^ (e - 1) ≤ num / den < 10 ^ e`, found from an estimate. -/
def decimalExponent (num den : Nat) : Int :=
  let digitsOf (n : Nat) : Int := (Nat.toDigits 10 n).length
  let estimate := digitsOf num - digitsOf den
  let (n, d) := scaled num den estimate
  if d ≤ n then estimate + 1 else estimate

/-- The first grid, from coarse to fine, on which a decimal lies between the bounds. -/
def firstGrid (tie : Tie) (low mid high den : Nat) (closed : Bool) (top : Int) :
    Nat → Nat → Nat × Int
  | _, 0 => (0, 0)
  | used, left + 1 =>
      let k := top - (used : Int)
      match onGrid tie low mid high den closed k with
      | some n => (n, k)
      | none => firstGrid tie low mid high den closed top (used + 1) left

/-- The digits of a positive finite number `mantissa · 2 ^ exponent`: the fewest that lie
    between the halfway points to its neighbours. -/
def shortest (tie : Tie) (mantissa : Nat) (exponent : Int) : Digits :=
  let boundary := mantissa == Nat.pow 2 52 && exponent != -1074
  let up := Nat.pow 2 exponent.toNat
  let den := 4 * Nat.pow 2 (-exponent).toNat
  let mid := 4 * mantissa * up
  let low := mid - (if boundary then 1 else 2) * up
  let high := mid + 2 * up
  let top := decimalExponent mid den
  let (n, k) := firstGrid tie low mid high den (mantissa % 2 == 0) top 0 20
  let text := Nat.toDigits 10 n
  let trimmed := (text.reverse.dropWhile (· == '0')).reverse
  ⟨trimmed, (text.length : Int) + k⟩

/-- Positional layout: as many zeros as the decimal point needs, and `tail` after an integer. -/
def Digits.positional (d : Digits) (tail : String) : String :=
  let count := d.digits.length
  if d.point ≤ 0 then
    "0." ++ String.ofList (List.replicate (-d.point).toNat '0' ++ d.digits)
  else if count ≤ d.point.toNat then
    String.ofList (d.digits ++ List.replicate (d.point.toNat - count) '0') ++ tail
  else
    String.ofList (d.digits.take d.point.toNat) ++ "." ++
      String.ofList (d.digits.drop d.point.toNat)

/-- Exponent layout: one digit before the point, then `e`, the sign and the exponent. -/
def Digits.exponential (d : Digits) (plus : String) : String :=
  let power := d.point - 1
  let exponent := if power < 0 then toString power else plus ++ toString power
  match d.digits with
  | [] => "0e0"
  | [c] => String.ofList [c] ++ "e" ++ exponent
  | c :: cs => String.ofList (c :: '.' :: cs) ++ "e" ++ exponent

def signText (negative : Bool) : String :=
  if negative then "-" else ""

/-- Full decimal notation without exponent; integers have no point, and a tie between two decimals
    goes up. -/
def plain (x : Float) : String :=
  match Binary.ofFloat x with
  | .nan => "NaN"
  | .infinite negative => signText negative ++ "inf"
  | .finite negative 0 _ => signText negative ++ "0"
  | .finite negative mantissa exponent =>
      signText negative ++ (shortest .up mantissa exponent).positional ""

/-- Positional between `1e-5` and `1e16`, with an exponent outside; integers keep `.0`, and a tie
    between two decimals goes to the even one.  The text `plus` stands in front of an exponent
    that is not negative. -/
def scientific (plus : String) (x : Float) : String :=
  match Binary.ofFloat x with
  | .nan => "NaN"
  | .infinite negative => signText negative ++ "inf"
  | .finite negative 0 _ => signText negative ++ "0.0"
  | .finite negative mantissa exponent =>
      let d := shortest .even mantissa exponent
      signText negative ++
        if -5 < d.point && d.point ≤ 16 then d.positional ".0" else d.exponential plus

/-- The float nearest to `± n · 10 ^ k`; beyond the range of floats it is infinite or zero. -/
def ofDecimal (negative : Bool) (n : Nat) (k : Int) : Float :=
  let size : Int := (Nat.toDigits 10 n).length + k
  let x : Float :=
    if n == 0 || size < -400 then 0
    else if 400 < size then 1.0 / 0.0
    else if 0 ≤ k then Float.ofScientific n false k.toNat
    else Float.ofScientific n true (-k).toNat
  if negative then -x else x

/-- The value of a list of decimal digits. -/
def digitsValue (ds : List Char) : Nat :=
  ds.foldl (fun n c => 10 * n + (c.toNat - 48)) 0

/-- Whether the characters are decimal digits, at least one. -/
def areDigits (cs : List Char) : Bool :=
  !cs.isEmpty && cs.all Char.isDigit

/-- An exponent: an optional sign and at least one digit. -/
def readExponent? : List Char → Option Int
  | '-' :: ds => if areDigits ds then some (-(digitsValue ds : Int)) else none
  | '+' :: ds => if areDigits ds then some (digitsValue ds) else none
  | ds => if areDigits ds then some (digitsValue ds) else none

/-- Digits with an optional fraction and an optional exponent, as a float of the given sign.
    At least one digit stands before or after the point. -/
def readUnsigned? (negative : Bool) (cs : List Char) : Option Float :=
  let whole := cs.takeWhile Char.isDigit
  let rest := cs.dropWhile Char.isDigit
  let (fraction, tail) :=
    match rest with
    | '.' :: more => (more.takeWhile Char.isDigit, more.dropWhile Char.isDigit)
    | _ => ([], rest)
  if whole.isEmpty && fraction.isEmpty then none
  else
    let n := digitsValue (whole ++ fraction)
    let scale : Int := -(fraction.length : Int)
    match tail with
    | [] => some (ofDecimal negative n scale)
    | c :: ds =>
        if c == 'e' || c == 'E' then (readExponent? ds).map fun e => ofDecimal negative n (scale + e)
        else none

/-- The words for values that are not finite, in any case. -/
def readWord? (negative : Bool) (cs : List Char) : Option Float :=
  let word := String.ofList (cs.map Char.toLower)
  if word == "inf" || word == "infinity" then
    some (if negative then -(1.0 / 0.0) else 1.0 / 0.0)
  else if word == "nan" then some (0.0 / 0.0)
  else none

/-- Reads a decimal text: an optional sign, then a number or one of the words for infinity and
    not-a-number. -/
def readFloat? (s : String) : Option Float :=
  let unsigned (negative : Bool) (cs : List Char) :=
    (readUnsigned? negative cs).or (readWord? negative cs)
  match s.toList with
  | '-' :: cs => unsigned true cs
  | '+' :: cs => unsigned false cs
  | cs => unsigned false cs

/-- Reads a natural number: an optional plus sign and at least one digit. -/
def readNat? (s : String) : Option Nat :=
  let digits (cs : List Char) := if areDigits cs then some (digitsValue cs) else none
  match s.toList with
  | '+' :: cs => digits cs
  | cs => digits cs

end Verdict.Number

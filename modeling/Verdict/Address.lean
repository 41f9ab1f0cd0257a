import Verdict.Text.Hex
import Verdict.Text.Blank
import Verdict.Number.Decimal

/-!
# Network addresses and address ranges

`Address.read?` reads an IPv4 or IPv6 address, `AddressRange.read?` a network in the notation
with a slash or a single address.  Whether an address lies in a range is decided on the leading
bits; an IPv4 address written in its IPv6 form counts as the IPv4 address.
-/

namespace Verdict

/-- The two kinds of address. -/
inductive Family where
  | v4
  | v6
  deriving Repr, DecidableEq

/-- The number of bits of an address. -/
def Family.width : Family → Nat
  | .v4 => 32
  | .v6 => 128

/-- How many digits a number of leading bits has at most. -/
def Family.bitDigits : Family → Nat
  | .v4 => 2
  | .v6 => 3

/-- An address: its family and its bits as a number. -/
structure Address where
  family : Family
  value : Nat
  value_lt : value < Nat.pow 2 family.width
  deriving Repr, DecidableEq

namespace Address

/-- The address with the given bits; bits beyond its width are dropped. -/
def ofNat (family : Family) (n : Nat) : Address :=
  ⟨family, n % Nat.pow 2 family.width, Nat.mod_lt _ (Nat.two_pow_pos _)⟩

/-- The spelling rules in which plain addresses and networks differ. -/
structure Spelling where
  /-- Decimal numbers may start with further zeros. -/
  leadingZeros : Bool
  /-- A double colon may stand for no group at all. -/
  emptyGap : Bool

/-- The rules for plain addresses. -/
def Spelling.plain : Spelling := ⟨false, false⟩

/-- The rules for networks. -/
def Spelling.network : Spelling := ⟨true, true⟩

/-- Takes a decimal number of at most `most` digits that is below `bound`. -/
def takeDecimal (sp : Spelling) (most bound : Nat) (cs : List Char) : Option (Nat × List Char) :=
  let digits := cs.takeWhile Char.isDigit
  let n := Number.digitsValue digits
  if digits.isEmpty || most < digits.length || bound ≤ n then none
  else if !sp.leadingZeros && digits.head? == some '0' && 1 < digits.length then none
  else some (n, cs.drop digits.length)

/-- Takes a hexadecimal number of at most four digits. -/
def takeGroup (cs : List Char) : Option (Nat × List Char) :=
  let digits := cs.takeWhile fun c => (Text.hexValue? c).isSome
  if digits.isEmpty || 4 < digits.length then none
  else
    some (digits.foldl (fun n c => 16 * n + (Text.hexValue? c).getD 0) 0, cs.drop digits.length)

/-- Takes `count` more decimal numbers, each after a dot. -/
def takeOctets (sp : Spelling) (value : Nat) : Nat → List Char → Option (Nat × List Char)
  | 0, cs => some (value, cs)
  | count + 1, cs =>
      match cs with
      | '.' :: rest =>
          match takeDecimal sp 3 256 rest with
          | some (n, rest) => takeOctets sp (256 * value + n) count rest
          | none => none
      | _ => none

/-- Takes four decimal numbers with dots between them. -/
def takeV4 (sp : Spelling) (cs : List Char) : Option (Nat × List Char) :=
  match takeDecimal sp 3 256 cs with
  | some (n, rest) => takeOctets sp n 3 rest
  | none => none

/-- Takes the colon before a group; the first group has none. -/
def takeColon (first : Bool) (cs : List Char) : Option (List Char) :=
  if first then some cs
  else
    match cs with
    | ':' :: rest => some rest
    | _ => none

/-- Takes at most `limit` groups.  The last two may be written as an IPv4 address, which the
    flag reports. -/
def takeGroups (sp : Spelling) (first : Bool) :
    Nat → List Char → List Nat × Bool × List Char
  | 0, cs => ([], false, cs)
  | limit + 1, cs =>
      match takeColon first cs with
      | none => ([], false, cs)
      | some inner =>
          let mapped := if limit == 0 then none else takeV4 sp inner
          match mapped with
          | some (n, rest) => ([n / 65536, n % 65536], true, rest)
          | none =>
              match takeGroup inner with
              | some (n, rest) =>
                  let (groups, v4, rest) := takeGroups sp false limit rest
                  (n :: groups, v4, rest)
              | none => ([], false, cs)

/-- The bits of eight groups. -/
def groupsValue (groups : List Nat) : Nat :=
  groups.foldl (fun n g => 65536 * n + g) 0

/-- Takes an IPv6 address. -/
def takeV6 (sp : Spelling) (cs : List Char) : Option (Nat × List Char) :=
  let (head, v4, rest) := takeGroups sp true 8 cs
  if head.length == 8 then some (groupsValue head, rest)
  else if v4 then none
  else
    match rest with
    | ':' :: ':' :: rest =>
        let limit := if sp.emptyGap then 8 - head.length else 7 - head.length
        let (tail, _, rest) := takeGroups sp true limit rest
        let gap := List.replicate (8 - head.length - tail.length) 0
        some (groupsValue (head ++ gap ++ tail), rest)
    | _ => none

/-- Takes an address of a family. -/
def take (sp : Spelling) : Family → List Char → Option (Nat × List Char)
  | .v4, cs => takeV4 sp cs
  | .v6, cs => takeV6 sp cs

/-- Reads an address of a family that the characters spell in full. -/
def readAs? (family : Family) (cs : List Char) : Option Address :=
  match take .plain family cs with
  | some (n, []) => some (ofNat family n)
  | _ => none

/-- Reads an address. -/
def readChars? (cs : List Char) : Option Address :=
  (readAs? .v4 cs).or (readAs? .v6 cs)

/-- Reads an address with blanks around it. -/
def read? (s : String) : Option Address :=
  readChars? (Text.trimChars s.toList)

/-- The IPv4 address that an IPv6 address stands for, if it is of that form; any other address
    is left alone. -/
def unmapped (a : Address) : Address :=
  match a.family with
  | .v4 => a
  | .v6 => if a.value / Nat.pow 2 32 == 0xffff then ofNat .v4 a.value else a

/-- The four numbers of an IPv4 address. -/
def v4Text (n : Nat) : String :=
  ".".intercalate [toString (n / Nat.pow 2 24), toString (n / Nat.pow 2 16 % 256),
    toString (n / Nat.pow 2 8 % 256), toString (n % 256)]

/-- A group in hexadecimal. -/
def groupText (n : Nat) : String :=
  String.ofList (Nat.toDigits 16 n)

/-- The longest run of zero groups, as its start and length; the first of equal ones. -/
def longestGap (groups : List Nat) : Nat × Nat :=
  let step := fun (state : (Nat × Nat) × (Nat × Nat) × Nat) (g : Nat) =>
    let (best, run, i) := state
    if g == 0 then
      let run := if run.2 == 0 then (i, 1) else (run.1, run.2 + 1)
      (if best.2 < run.2 then run else best, run, i + 1)
    else (best, (0, 0), i + 1)
  (groups.foldl step ((0, 0), (0, 0), 0)).1

/-- The eight groups of an IPv6 address. -/
def groups (n : Nat) : List Nat :=
  (List.range 8).map fun i => n / Nat.pow 65536 (7 - i) % 65536

/-- Eight groups, the longest run of zero groups written as a double colon. -/
def v6Text (n : Nat) : String :=
  if n / Nat.pow 2 32 == 0xffff then "::ffff:" ++ v4Text (n % Nat.pow 2 32)
  else
    let gs := groups n
    let (start, length) := longestGap gs
    let join (part : List Nat) := ":".intercalate (part.map groupText)
    if 1 < length then join (gs.take start) ++ "::" ++ join (gs.drop (start + length))
    else join gs

/-- The text of an address. -/
def text (a : Address) : String :=
  match a.family with
  | .v4 => v4Text a.value
  | .v6 => v6Text a.value

end Address

/-- A range of addresses: those that agree with `base` on the leading `bits` bits. -/
structure AddressRange where
  base : Address
  bits : Nat
  bits_le : bits ≤ base.family.width
  deriving Repr, DecidableEq

namespace AddressRange

/-- The range of a single address. -/
def single (a : Address) : AddressRange :=
  ⟨a, a.family.width, Nat.le_refl _⟩

/-- Reads a network of a family: an address, a slash and a number of bits. -/
def readNetwork? (family : Family) (cs : List Char) : Option AddressRange :=
  match Address.take .network family cs with
  | some (n, '/' :: rest) =>
      match Address.takeDecimal .network family.bitDigits (family.width + 1) rest with
      | some (bits, []) =>
          let base := Address.ofNat family n
          if h : bits ≤ base.family.width then some ⟨base, bits, h⟩ else none
      | _ => none
  | _ => none

/-- Reads a network or a single address, blanks around it ignored. -/
def read? (s : String) : Option AddressRange :=
  let cs := Text.trimChars s.toList
  if cs.contains '/' then (readNetwork? .v4 cs).or (readNetwork? .v6 cs)
  else (Address.readChars? cs).map single

/-- Whether an address agrees with the base on the leading bits. -/
def holds (r : AddressRange) (a : Address) : Bool :=
  let rest := r.base.family.width - r.bits
  a.family == r.base.family && a.value / Nat.pow 2 rest == r.base.value / Nat.pow 2 rest

/-- Whether an address lies in the range, an IPv4 address in IPv6 form counting as such. -/
def contains (r : AddressRange) (a : Address) : Bool :=
  r.holds a.unmapped

/-- Whether a text spells an address in the range. -/
def containsText (r : AddressRange) (s : String) : Bool :=
  match Address.read? s with
  | some a => r.contains a
  | none => false

/-- The text of a range: the address, a slash and the number of bits. -/
def text (r : AddressRange) : String :=
  r.base.text ++ "/" ++ toString r.bits

/-- Whether a text spells an address in one of the ranges; texts that are no range are skipped. -/
def inAny (s : String) (ranges : List String) : Bool :=
  match Address.read? s with
  | some a => (ranges.filterMap read?).any fun r => r.contains a
  | none => false

end AddressRange

end Verdict

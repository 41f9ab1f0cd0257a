import Verdict.Condition.Evaluation
import Verdict.Proofs.Address.Spelling
import Verdict.Scope

/-!
# Addresses in their own ranges

The range that is read from the text of an address, alone or with a number of leading bits, has
that address as its base (`read?_of_address`, `read?_of_network`).  Addresses that are looked up
are brought to their IPv4 form first, those that ranges are read from are not: so a range has its
base in it unless that is an IPv4 address in IPv6 form (`contains_base_iff`), and then neither a
scope nor a condition covers the client whose address it lists.
-/

namespace Verdict

namespace Address

/-- Whether an address is an IPv4 address in IPv6 form. -/
def IsMapped (a : Address) : Prop :=
  a.family = .v6 ∧ a.value / Nat.pow 2 32 = 0xffff

instance (a : Address) : Decidable a.IsMapped :=
  inferInstanceAs (Decidable (_ ∧ _))

theorem unmapped_of_not_isMapped {a : Address} (plain : ¬ a.IsMapped) : a.unmapped = a := by
  unfold unmapped
  split
  · rfl
  next isV6 =>
    rw [if_neg]
    intro mapped
    exact plain ⟨isV6, beq_iff_eq.mp mapped⟩

theorem family_unmapped_of_isMapped {a : Address} (mapped : a.IsMapped) :
    a.unmapped.family = .v4 := by
  obtain ⟨isV6, value⟩ := mapped
  unfold unmapped
  split
  · assumption
  · rw [if_pos (beq_iff_eq.mpr value)]
    rfl

/-- The text of an address has none but the characters of addresses, and some of them. -/
theorem isSpelling_of_read {cs : List Char} {a : Address} (read : readChars? cs = some a) :
    cs ≠ [] ∧ ∀ c ∈ cs, isSpelling c = true := by
  have whole {family : Family} {n : Nat} (taken : take .plain family cs = some (n, [])) :
      cs ≠ [] ∧ ∀ c ∈ cs, isSpelling c = true := by
    obtain ⟨front, text, spelled⟩ := takes taken
    rw [List.append_nil] at text
    subst text
    refine ⟨?_, spelled⟩
    rintro rfl
    cases family <;> cases taken
  have ofFamily {family : Family} (read : readAs? family cs = some a) :
      cs ≠ [] ∧ ∀ c ∈ cs, isSpelling c = true := by
    unfold readAs? at read
    split at read
    next taken => exact whole taken
    next => cases read
  rw [readChars?, Option.or_eq_some_iff] at read
  rcases read with read | ⟨-, read⟩ <;> exact ofFamily read

end Address

namespace AddressRange

open Address

/-! ## Ranges from the texts of addresses -/

variable {s : String} {a : Address}

theorem address_read?_of_read (read : readChars? s.toList = some a) : Address.read? s = some a := by
  have spelled := (isSpelling_of_read read).2
  rw [Address.read?,
    Text.trimChars_of_visible fun c member => not_blank_of_isSpelling (spelled c member)]
  exact read

/-- The text of an address is read as the range of that address. -/
theorem read?_of_address (read : readChars? s.toList = some a) : read? s = some (single a) := by
  have spelled := (isSpelling_of_read read).2
  have noSlash : '/' ∉ s.toList :=
    fun member => (range_of_isSpelling (spelled _ member)).2.2 rfl
  unfold read?
  rw [Text.trimChars_of_visible fun c member => not_blank_of_isSpelling (spelled c member)]
  dsimp only
  rw [if_neg (by simpa using noSlash), read]
  rfl

/-- The digits of a number of leading bits are read as that number. -/
theorem takeDecimal_bits (family : Family) {bits : Nat} (legal : bits ≤ family.width) :
    takeDecimal .network family.bitDigits (family.width + 1) (Nat.toDigits 10 bits) =
      some (bits, []) := by
  have short : (Nat.toDigits 10 bits).length ≤ family.bitDigits := by
    cases family with
    | v4 =>
      have small : bits < 10 ^ 2 := Nat.lt_of_le_of_lt legal (by decide)
      exact (Nat.length_toDigits_le_iff (by decide) (by decide)).mpr small
    | v6 =>
      have small : bits < 10 ^ 3 := Nat.lt_of_le_of_lt legal (by decide)
      exact (Nat.length_toDigits_le_iff (by decide) (by decide)).mpr small
  have all : (Nat.toDigits 10 bits).takeWhile Char.isDigit = Nat.toDigits 10 bits :=
    List.takeWhile_eq_self_iff.mpr (Number.isDigit_toDigits bits)
  unfold takeDecimal
  rw [all]
  dsimp only
  rw [Number.digitsValue_toDigits, List.drop_length]
  rw [if_neg (by simp [Nat.toDigits_ne_nil]; omega)]
  rfl

theorem readNetwork?_of_take {family : Family} {cs : List Char} {n bits : Nat}
    (taken : take .network family (cs ++ '/' :: Nat.toDigits 10 bits) =
      some (n, '/' :: Nat.toDigits 10 bits))
    (legal : bits ≤ (Address.ofNat family n).family.width) :
    readNetwork? family (cs ++ '/' :: Nat.toDigits 10 bits) =
      some ⟨Address.ofNat family n, bits, legal⟩ := by
  unfold readNetwork?
  simp only [taken, takeDecimal_bits family legal]
  exact dif_pos legal

/-- The text of an address with a slash and a number of bits is read as the range of those bits. -/
theorem read?_of_network (read : readChars? s.toList = some a) {bits : Nat}
    (legal : bits ≤ a.family.width) :
    read? (s ++ "/" ++ toString bits) = some ⟨a, bits, legal⟩ := by
  have spelled := (isSpelling_of_read read).2
  have text : (s ++ "/" ++ toString bits).toList = s.toList ++ '/' :: Nat.toDigits 10 bits := by
    simp
  have visible : ∀ c ∈ s.toList ++ '/' :: Nat.toDigits 10 bits, Text.isBlank c = false := by
    intro c member
    rcases List.mem_append.mp member with front | back
    · exact not_blank_of_isSpelling (spelled c front)
    · rcases List.mem_cons.mp back with rfl | digit
      · decide
      · exact not_blank_of_isSpelling (isSpelling_of_hex
          (hex_of_isDigit (Number.isDigit_toDigits bits c digit)))
  have slash : (s.toList ++ '/' :: Nat.toDigits 10 bits).contains '/' = true := by simp
  unfold read?
  rw [text, Text.trimChars_of_visible visible]
  dsimp only
  rw [if_pos slash]
  rw [readChars?, Option.or_eq_some_iff] at read
  unfold readAs? at read
  rcases read with read | ⟨-, read⟩
  · split at read
    next n taken =>
      cases read
      have isV4 : take .network .v4 _ = some (n, '/' :: Nat.toDigits 10 bits) :=
        takeV4_slash taken _
      rw [readNetwork?_of_take isV4 legal]
      rfl
    next => cases read
  · split at read
    next n taken =>
      cases read
      have notV4 : readNetwork? .v4 (s.toList ++ '/' :: Nat.toDigits 10 bits) = none := by
        unfold readNetwork?
        rw [show take .network .v4 _ = none from takeV4_of_v6 taken _]
      have isV6 : take .network .v6 _ = some (n, '/' :: Nat.toDigits 10 bits) :=
        takeV6_slash taken _
      rw [notV4, readNetwork?_of_take isV6 legal]
      rfl
    next => cases read

/-! ## Covering -/

/-- A range has its base in it unless the base is looked up as another address. -/
theorem contains_base_iff (r : AddressRange) : r.contains r.base = true ↔ ¬ r.base.IsMapped := by
  constructor
  · intro inside mapped
    have families : r.base.unmapped.family = r.base.family := by
      rw [contains, holds, Bool.and_eq_true, beq_iff_eq] at inside
      exact inside.1
    rw [family_unmapped_of_isMapped mapped, mapped.1] at families
    cases families
  · intro plain
    rw [contains, unmapped_of_not_isMapped plain]
    simp [holds]

/-! ## Clients of listed addresses -/

theorem containsText_of_read (read : Address.read? s = some a) (r : AddressRange) :
    r.containsText s = r.contains a := by
  rw [containsText, read]

/-- Listed ranges are asked one by one. -/
theorem inAny_eq (s : String) (ranges : List String) :
    inAny s ranges = (ranges.filterMap read?).any fun r => r.containsText s := by
  unfold inAny containsText
  cases Address.read? s with
  | some a => rfl
  | none => exact (List.any_eq_false.mpr fun _ _ => Bool.false_ne_true).symm

end AddressRange

/-- Whether a condition asks that the address of the client lie in one of some ranges. -/
structure Condition.AsksForRanges (c : Condition) (ranges : List String) : Prop where
  field : c.field = "client_ip"
  operator : c.operator = .ipInRange
  plain : c.negate = false
  listed : ∃ expected, c.value.coerce c.valueType = some expected ∧ expected.list? = some ranges

theorem Context.resolve_clientIp {ctx : Context} {s : String} (client : ctx.clientIp = some s)
    (nonempty : s.isEmpty = false) : ctx.resolve "client_ip" = some (.text s) := by
  have named : ctx.resolve "client_ip" = ctx.bare? "client_ip" := rfl
  have fixed : ctx.fixed? "client_ip" = some (.text s) := by
    show ctx.clientIp.bind ofText? = _
    rw [client, Option.bind_some, ofText?, if_neg (by simp [nonempty])]
  rw [named, bare?, fixed, Option.some_or]

/-- Such a condition matches if the client lies in one of the ranges. -/
theorem Condition.AsksForRanges.holds_eq {c : Condition} {ranges : List String}
    (asks : c.AsksForRanges ranges) {ctx : Context} {s : String}
    (client : ctx.clientIp = some s) (nonempty : s.isEmpty = false) :
    c.holds (ctx.resolve c.field) = AddressRange.inAny s ranges := by
  obtain ⟨field, operator, plain, expected, coerced, listed⟩ := asks
  rw [field, Context.resolve_clientIp client nonempty, AddressRange.inAny_eq]
  unfold holds judge compare
  rw [operator, plain, coerced]
  dsimp only
  rw [listed]
  simp [Value.isNull, Value.anyText, Value.text?]

/-- A scope that lists ranges and nothing else holds the clients in one of them. -/
theorem Scope.holds_of_ranges {ranges : List String} {ctx : Context} {s : String}
    (client : ctx.clientIp = some s) :
    ({ ipRanges := ranges } : Scope).holds ctx =
      (ranges.isEmpty || AddressRange.inAny s ranges) := by
  simp [holds, allows, client]

/-- Whether the scopes and the conditions that list some ranges give one answer to all requests of
    a client. -/
structure Answers (ranges : List String) (client : String) (answer : Bool) : Prop where
  scope : ∀ ctx : Context, ctx.clientIp = some client →
    ({ ipRanges := ranges } : Scope).holds ctx = answer
  condition : ∀ (ctx : Context) (c : Condition), ctx.clientIp = some client →
    c.AsksForRanges ranges → c.holds (ctx.resolve c.field) = answer

theorem answers_of_inAny {ranges : List String} {s : String} {answer : Bool}
    (nonempty : s.isEmpty = false) (listed : ranges ≠ [])
    (inAny : AddressRange.inAny s ranges = answer) : Answers ranges s answer where
  scope ctx client := by
    rw [Scope.holds_of_ranges client, inAny, List.isEmpty_eq_false_iff.mpr listed, Bool.false_or]
  condition ctx c client asks := by
    rw [asks.holds_eq client nonempty, inAny]

namespace AddressRange

variable {s : String} {a : Address}

/-- The text of an address, alone or with a slash and a legal number of leading bits, is read as a
    range with that address as its base.  The address lies in both ranges if and only if it is no
    IPv4 address in IPv6 form.  If it is none, then all scopes and conditions that list one of the
    two texts cover the client of that address; if it is one, those that list nothing else cover
    none of its requests. -/
theorem own_range_contains_iff (read : Address.readChars? s.toList = some a) {bits : Nat}
    (legal : bits ≤ a.family.width) :
    let listed := [s, s ++ "/" ++ toString bits]
    listed.map read? = [some (single a), some ⟨a, bits, legal⟩] ∧
      (∀ t ∈ listed, ∃ r, read? t = some r ∧ (r.containsText s = true ↔ ¬ a.IsMapped)) ∧
      (¬ a.IsMapped → ∀ ranges, (∃ t ∈ listed, t ∈ ranges) → Answers ranges s true) ∧
      (a.IsMapped → ∀ ranges, ranges ≠ [] → (∀ t ∈ ranges, t ∈ listed) →
        Answers ranges s false) := by
  intro listed
  have alone := read?_of_address read
  have within := read?_of_network read legal
  have spelled : Address.read? s = some a := address_read?_of_read read
  have nonempty : s.isEmpty = false := by
    rw [Bool.eq_false_iff]
    intro empty
    obtain rfl := String.isEmpty_iff.mp empty
    exact (Address.isSpelling_of_read read).1 rfl
  have own : ∀ t ∈ listed, ∃ r, read? t = some r ∧ (r.containsText s = true ↔ ¬ a.IsMapped) := by
    intro t member
    simp only [listed, List.mem_cons, List.not_mem_nil, or_false] at member
    rcases member with rfl | rfl
    · refine ⟨_, alone, ?_⟩
      rw [containsText_of_read spelled]
      exact contains_base_iff (single a)
    · refine ⟨_, within, ?_⟩
      rw [containsText_of_read spelled]
      exact contains_base_iff ⟨a, bits, legal⟩
  refine ⟨by rw [List.map_cons, List.map_singleton, alone, within], own, ?_, ?_⟩
  · rintro plain ranges ⟨t, member, inside⟩
    obtain ⟨r, found, contains⟩ := own t member
    refine answers_of_inAny nonempty (List.ne_nil_of_mem inside) ?_
    rw [inAny_eq, List.any_eq_true]
    exact ⟨r, List.mem_filterMap.mpr ⟨t, inside, found⟩, contains.mpr plain⟩
  · intro mapped ranges some_range all
    refine answers_of_inAny nonempty some_range ?_
    rw [inAny_eq, List.any_eq_false]
    intro r member
    obtain ⟨t, inside, found⟩ := List.mem_filterMap.mp member
    obtain ⟨r', found', contains⟩ := own t (all t inside)
    obtain rfl : r' = r := Option.some.inj (found'.symm.trans found)
    exact fun holds => contains.mp holds mapped

theorem own_range_contains_iff_embedded_v4 :
    let s := "64:ff9b::203.0.113.9"
    let a : Address := ⟨.v6, 0x64ff9b0000000000000000cb007109, by decide⟩
    let ranges := ["bad", s ++ "/" ++ toString 96]
    let ctx : Context := { clientIp := some s, timestamp := ⟨0, 0, 0, by decide, by decide⟩ }
    let c : Condition :=
      { field := "client_ip", operator := .ipInRange, value := .text ("bad, " ++ s ++ "/96") }
    Address.readChars? s.toList = some a ∧ 96 ≤ a.family.width ∧
      ({ ipRanges := ranges } : Scope).holds ctx = true ∧
      c.AsksForRanges ranges ∧ c.holds (ctx.resolve c.field) = true := by
  intro s a ranges ctx c
  have read : Address.readChars? s.toList = some a := by decide +kernel
  have legal : 96 ≤ a.family.width := by decide
  have plain : ¬ a.IsMapped := by decide
  obtain ⟨-, -, covered, -⟩ := own_range_contains_iff read legal
  have answers : Answers ranges s true := covered plain ranges
    ⟨_, List.mem_cons_of_mem _ List.mem_cons_self, List.mem_cons_of_mem _ List.mem_cons_self⟩
  have asks : c.AsksForRanges ranges := ⟨rfl, rfl, rfl, _, rfl, by decide +kernel⟩
  exact ⟨read, legal, answers.scope ctx rfl, asks, answers.condition ctx c rfl asks⟩

/-- An IPv4 address in IPv6 form lies in no range that is read from its own text. -/
theorem mapped_outside_own_range :
    let s := "::ffff:203.0.113.9"
    let ctx : Context := { clientIp := some s, timestamp := ⟨0, 0, 0, by decide, by decide⟩ }
    let c : Condition :=
      { field := "client_ip", operator := .ipInRange, value := .list [s, s ++ "/128"] }
    (Address.readChars? s.toList).isSome = true ∧ (read? s).isSome = true ∧
      (read? (s ++ "/128")).isSome = true ∧
      (∀ t ∈ [s, s ++ "/128"], (read? t).any (fun r => r.containsText s) = false) ∧
      ({ ipRanges := [s, s ++ "/128"] } : Scope).holds ctx = false ∧
      c.holds (ctx.resolve c.field) = false := by
  decide +kernel

end AddressRange

end Verdict

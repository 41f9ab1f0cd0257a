import Verdict.Proofs.Address.Coverage
import Verdict.Proofs.Condition.Cache

/-!
# Clients by either spelling of their address

A scope reads the address of a client from the request, a condition from the value that its field
has; both skip texts that are no range.  They agree on every list of ranges, and on the IPv6 form of
an IPv4 address they answer what they answer on the address itself: its text is read as an address
that is looked up as that one (`read?_mappedText`).
-/

namespace Verdict

namespace Address

/-- The IPv6 form of an IPv4 address. -/
def mapped (a : Address) : Address :=
  ofNat .v6 (0xffff * Nat.pow 2 32 + a.value)

/-- The text of an IPv4 address in IPv6 form, without the blanks around the address. -/
def mappedText (s : String) : String :=
  "::ffff:" ++ Text.trim s

variable {a : Address}

theorem unmapped_of_v4 (isV4 : a.family = .v4) : a.unmapped = a := by
  rw [unmapped, isV4]

theorem lt_of_v4 (isV4 : a.family = .v4) : a.value < Nat.pow 2 32 := by
  have bound := a.value_lt
  rwa [isV4] at bound

/-- The IPv6 form of an IPv4 address is looked up as that address. -/
theorem unmapped_mapped (isV4 : a.family = .v4) : a.mapped.unmapped = a := by
  have small : a.value < 4294967296 := lt_of_v4 isV4
  have kept : (65535 * 4294967296 + a.value) % 340282366920938463463374607431768211456 =
      65535 * 4294967296 + a.value := Nat.mod_eq_of_lt (by omega)
  have lead : a.mapped.value / Nat.pow 2 32 = 65535 := by
    show (65535 * 4294967296 + a.value) % 340282366920938463463374607431768211456 / 4294967296 = _
    omega
  have rest : a.mapped.value % Nat.pow 2 32 = a.value := by
    show (65535 * 4294967296 + a.value) % 340282366920938463463374607431768211456 % 4294967296 = _
    omega
  have unfolded : a.mapped.unmapped = ofNat .v4 a.mapped.value := by
    show (if a.mapped.value / Nat.pow 2 32 == 0xffff then ofNat .v4 a.mapped.value else _) = _
    rw [if_pos (beq_iff_eq.mpr lead)]
  rw [unfolded]
  obtain ⟨family, value, value_lt⟩ := a
  obtain rfl : family = .v4 := isV4
  simp only [ofNat, Address.mk.injEq, true_and]
  exact rest

/-! ## Reading the IPv6 form -/

section

variable {sp : Spelling} {cs rest : List Char} {n : Nat}

theorem lt_of_takeDecimal {most bound : Nat}
    (taken : takeDecimal sp most bound cs = some (n, rest)) : n < bound := by
  unfold takeDecimal at taken
  dsimp only at taken
  split at taken
  · cases taken
  next fits =>
    split at taken
    · cases taken
    · cases taken
      simp only [Bool.or_eq_true, not_or, decide_eq_true_eq, Nat.not_le] at fits
      exact fits.2

theorem lt_of_takeOctets {value count bound : Nat}
    (taken : takeOctets sp value count cs = some (n, rest)) (small : value < bound) :
    n < bound * 256 ^ count := by
  fun_induction takeOctets sp value count cs generalizing bound with
  | case1 =>
    cases taken
    simpa using small
  | case2 value count inner m later decimal ih =>
    have octet := lt_of_takeDecimal decimal
    have longer : 256 * value + m < bound * 256 := by omega
    have next := ih taken longer
    rwa [Nat.mul_assoc, ← Nat.pow_succ'] at next
  | case3 => cases taken
  | case4 => cases taken

theorem lt_of_takeV4 (taken : takeV4 sp cs = some (n, rest)) : n < 4294967296 := by
  unfold takeV4 at taken
  split at taken
  next decimal => exact lt_of_takeOctets taken (lt_of_takeDecimal decimal)
  next => cases taken

/-- A double colon, a group of ones and an IPv4 address are an IPv6 address. -/
theorem takeV6_mapped (taken : takeV4 .plain cs = some (n, [])) :
    takeV6 .plain ("::ffff:".toList ++ cs) = some (0xffff * Nat.pow 2 32 + n, []) := by
  have gap : takeGroups .plain true 8 ("::ffff:".toList ++ cs) =
      ([], false, ':' :: ':' :: ("ffff:".toList ++ cs)) := rfl
  have address : takeGroups .plain false 6 (':' :: cs) = ([n / 65536, n % 65536], true, []) := by
    have colon : takeColon false (':' :: cs) = some cs := rfl
    rw [takeGroups_succ colon]
    simp only [taken]
    rfl
  have tail : takeGroups .plain true 7 ("ffff:".toList ++ cs) =
      ([0xffff, n / 65536, n % 65536], true, []) := by
    have notV4 : takeV4 .plain ("ffff:".toList ++ cs) = none := rfl
    have group : takeGroup ("ffff:".toList ++ cs) = some (0xffff, ':' :: cs) := rfl
    have colon : takeColon true ("ffff:".toList ++ cs) = some ("ffff:".toList ++ cs) := rfl
    rw [takeGroups_succ colon]
    simp only [notV4, group, ite_self, address]
  have value : groupsValue ([] ++ List.replicate 5 0 ++ [0xffff, n / 65536, n % 65536]) =
      0xffff * Nat.pow 2 32 + n := by
    show 65536 * (65536 * 65535 + n / 65536) + n % 65536 = 65535 * 4294967296 + n
    omega
  unfold takeV6
  simp only [gap]
  show some (groupsValue ([] ++ List.replicate (8 - 0 - (takeGroups .plain true 7
    ("ffff:".toList ++ cs)).1.length) 0 ++ (takeGroups .plain true 7 ("ffff:".toList ++ cs)).1),
    (takeGroups .plain true 7 ("ffff:".toList ++ cs)).2.2) = _
  rw [tail]
  exact congrArg (fun value => some (value, [])) value

/-- The text of an IPv4 address behind a double colon and a group of ones is read as its IPv6
    form. -/
theorem readChars?_mapped (read : readChars? cs = some a) (isV4 : a.family = .v4) :
    readChars? ("::ffff:".toList ++ cs) = some a.mapped := by
  have notV4 : readAs? .v4 ("::ffff:".toList ++ cs) = none := rfl
  rw [readChars?, notV4, Option.none_or]
  rw [readChars?, Option.or_eq_some_iff] at read
  unfold readAs? at read ⊢
  rcases read with read | ⟨-, read⟩
  · split at read
    next n taken =>
      cases read
      have isV6 : take .plain .v6 ("::ffff:".toList ++ cs) = some (0xffff * Nat.pow 2 32 + n, []) :=
        takeV6_mapped taken
      have small : n % Nat.pow 2 Family.v4.width = n := Nat.mod_eq_of_lt (lt_of_takeV4 taken)
      simp only [isV6, mapped, ofNat, small]
    next => cases read
  · split at read
    next => cases read; cases isV4
    next => cases read

/-- The text of an IPv4 address in IPv6 form is read as its IPv6 form. -/
theorem read?_mappedText {s : String} (read : read? s = some a) (isV4 : a.family = .v4) :
    read? (mappedText s) = some a.mapped := by
  have inner : readChars? (Text.trimChars s.toList) = some a := read
  have outer := readChars?_mapped inner isV4
  have text : (mappedText s).toList = "::ffff:".toList ++ Text.trimChars s.toList := by
    rw [mappedText, String.toList_append]
    exact congrArg ("::ffff:".toList ++ ·) String.toList_ofList
  rw [← text] at outer
  exact AddressRange.address_read?_of_read outer

end

end Address

namespace AddressRange

/-- Ranges are asked about the address that a text is looked up as. -/
theorem inAny_congr {s t : String} {a b : Address} (read : Address.read? s = some a)
    (read' : Address.read? t = some b) (same : b.unmapped = a.unmapped) (ranges : List String) :
    inAny t ranges = inAny s ranges := by
  simp only [inAny, read, read', contains, same]

theorem inAny_mappedText {s : String} {a : Address} (read : Address.read? s = some a)
    (isV4 : a.family = .v4) (ranges : List String) :
    inAny (Address.mappedText s) ranges = inAny s ranges := by
  have same : a.mapped.unmapped = a.unmapped := by
    rw [Address.unmapped_mapped isV4, Address.unmapped_of_v4 isV4]
  exact inAny_congr read (Address.read?_mappedText read isV4) same ranges

end AddressRange

namespace Condition

/-- A condition on the address of the client with a list of ranges asks for these. -/
theorem asksForRanges_list (ranges : List String) :
    AsksForRanges { field := "client_ip", operator := .ipInRange, value := .list ranges } ranges :=
  ⟨rfl, rfl, rfl, .list ranges, rfl, rfl⟩

theorem AsksForRanges.judge_eq {c : Condition} {ranges : List String} (asks : c.AsksForRanges ranges)
    (cache : PatternCache) {ctx : Context} {s : String} (client : ctx.clientIp = some s)
    (nonempty : s.isEmpty = false) :
    (cache.judge c (ctx.resolve c.field)).1 = AddressRange.inAny s ranges := by
  have noPattern : c.operator ≠ .regex := by
    rw [asks.operator]
    exact Operator.noConfusion
  rw [cache.judge_of_no_pattern noPattern, ← asks.holds_eq client nonempty]

end Condition

theorem Address.mappedText_nonempty (s : String) : (Address.mappedText s).isEmpty = false := by
  rw [Bool.eq_false_iff]
  intro empty
  have same := congrArg String.toList (String.isEmpty_iff.mp empty)
  simp [Address.mappedText] at same

/-- A request lies in a scope that lists some ranges and nothing else exactly if a condition that
    asks for these ranges matches it, also where some of the texts are no range.  Neither answer
    changes when the client has its IPv4 address spelled in IPv6 form. -/
theorem scope_and_condition_agree {ranges : List String} (listed : ranges ≠ []) {ctx : Context}
    {s : String} (client : ctx.clientIp = some s) (nonempty : s.isEmpty = false) :
    let scope : Scope := { ipRanges := ranges }
    let listing : Condition :=
      { field := "client_ip", operator := .ipInRange, value := .list ranges }
    listing.AsksForRanges ranges ∧
      ∀ c : Condition, c.AsksForRanges ranges → ∀ cache : PatternCache,
        (scope.holds ctx = true ↔ (cache.judge c (ctx.resolve c.field)).1 = true) ∧
        ∀ a, Address.read? s = some a → a.family = .v4 →
          let ctx' := { ctx with clientIp := some (Address.mappedText s) }
          scope.holds ctx' = scope.holds ctx ∧
            (cache.judge c (ctx'.resolve c.field)).1 =
              (cache.judge c (ctx.resolve c.field)).1 := by
  intro scope listing
  have inScope {ctx : Context} {s : String} (client : ctx.clientIp = some s) :
      scope.holds ctx = AddressRange.inAny s ranges := by
    rw [Scope.holds_of_ranges client, List.isEmpty_eq_false_iff.mpr listed, Bool.false_or]
  refine ⟨Condition.asksForRanges_list ranges, fun c asks cache => ⟨?_, ?_⟩⟩
  · rw [inScope client, asks.judge_eq cache client nonempty]
  · intro a read isV4 ctx'
    have client' : ctx'.clientIp = some (Address.mappedText s) := rfl
    have same := AddressRange.inAny_mappedText read isV4 ranges
    rw [inScope client, inScope client', asks.judge_eq cache client nonempty,
      asks.judge_eq cache client' (Address.mappedText_nonempty s)]
    exact ⟨same, same⟩

theorem scope_and_condition_agree_private_network :
    let ranges := ["10.0.0.0/33", " 10.0.0.0/8", "fe80::/10"]
    let scope : Scope := { ipRanges := ranges }
    let listing : Condition :=
      { field := "client_ip", operator := .ipInRange, value := .list ranges }
    let now : Instant := ⟨0, 0, 0, by decide, by decide⟩
    let ctx : Context := { clientIp := some " 10.1.2.3", timestamp := now }
    let ctx' := { ctx with clientIp := some "::ffff:10.1.2.3" }
    scope.holds ctx' = true ∧
      (PatternCache.judge .empty listing (ctx'.resolve "client_ip")).1 = true := by
  intro ranges scope listing now ctx ctx'
  have listed : ranges ≠ [] := List.cons_ne_nil _ _
  have client : ctx.clientIp = some " 10.1.2.3" := rfl
  obtain ⟨asks, agree⟩ := scope_and_condition_agree listed client rfl
  obtain ⟨same, mapped⟩ := agree listing asks .empty
  have read : Address.read? " 10.1.2.3" = some ⟨.v4, 0x0a010203, by decide⟩ := by decide +kernel
  have spelled : Address.mappedText " 10.1.2.3" = "::ffff:10.1.2.3" := by decide +kernel
  have inside : scope.holds ctx = true := by decide +kernel
  obtain ⟨inScope, judged⟩ := mapped _ read rfl
  rw [spelled] at inScope judged
  exact ⟨inScope.trans inside, judged.trans (same.mp inside)⟩

end Verdict

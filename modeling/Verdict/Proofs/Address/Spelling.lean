import Mathlib.Data.List.TakeWhile
import Verdict.Address
import Verdict.Proofs.Number.Digits

/-!
# Addresses in front of a slash

Networks are spelled by rules of their own, which are wider than those of plain addresses.  What a
plain address is read as, it is also read as in front of the slash of a network (`takeV4_slash`,
`takeV6_slash`): no rule of networks takes more of the text than the address, and an IPv6 address is
never taken for an IPv4 one.
-/

namespace Verdict.Address

/-! ## Characters -/

/-- The characters that addresses are spelled with. -/
def isSpelling (c : Char) : Bool :=
  (Text.hexValue? c).isSome || c == '.' || c == ':'

theorem isSpelling_of_hex {c : Char} (hex : (Text.hexValue? c).isSome = true) :
    isSpelling c = true := by
  simp [isSpelling, hex]

theorem hex_of_isDigit {c : Char} (digit : c.isDigit = true) :
    (Text.hexValue? c).isSome = true := by
  have range : '0' ≤ c ∧ c ≤ '9' := by
    rw [Char.isDigit, Bool.and_eq_true, decide_eq_true_eq, decide_eq_true_eq] at digit
    exact digit
  simp [Text.hexValue?, range.1, range.2]

/-- The characters of addresses are visible ones of ASCII. -/
theorem range_of_isSpelling {c : Char} (spelling : isSpelling c = true) :
    46 ≤ c.toNat ∧ c.toNat ≤ 102 ∧ c ≠ '/' := by
  simp only [isSpelling, Bool.or_eq_true, beq_iff_eq] at spelling
  rcases spelling with (hex | rfl) | rfl
  · have bounds (a b : Char) : (a ≤ c && c ≤ b) = true ↔ a.toNat ≤ c.toNat ∧ c.toNat ≤ b.toNat := by
      rw [Bool.and_eq_true, decide_eq_true_eq, decide_eq_true_eq]
      exact Iff.rfl
    unfold Text.hexValue? at hex
    have apart : c = '/' → c.toNat = 47 := fun equal => by rw [equal]; rfl
    split at hex
    · have range := (bounds '0' '9').mp ‹_›
      have low : '0'.toNat = 48 := rfl
      have high : '9'.toNat = 57 := rfl
      exact ⟨by omega, by omega, fun equal => by have := apart equal; omega⟩
    · split at hex
      · have range := (bounds 'a' 'f').mp ‹_›
        have low : 'a'.toNat = 97 := rfl
        have high : 'f'.toNat = 102 := rfl
        exact ⟨by omega, by omega, fun equal => by have := apart equal; omega⟩
      · split at hex
        · have range := (bounds 'A' 'F').mp ‹_›
          have low : 'A'.toNat = 65 := rfl
          have high : 'F'.toNat = 70 := rfl
          exact ⟨by omega, by omega, fun equal => by have := apart equal; omega⟩
        · cases hex
  · decide
  · decide

theorem not_blank_of_isSpelling {c : Char} (spelling : isSpelling c = true) :
    Text.isBlank c = false := by
  have range := range_of_isSpelling spelling
  simp only [Text.isBlank, Bool.or_eq_false_iff, Bool.and_eq_false_iff, decide_eq_false_iff_not,
    beq_eq_false_iff_ne]
  omega

/-! ## What is taken of a text -/

/-- Whether the text ends with the rest and is spelled with the characters of addresses up to it. -/
def Takes (cs rest : List Char) : Prop :=
  ∃ front, cs = front ++ rest ∧ ∀ c ∈ front, isSpelling c = true

namespace Takes

theorem refl (cs : List Char) : Takes cs cs :=
  ⟨[], rfl, by simp⟩

theorem trans {cs ds es : List Char} (first : Takes cs ds) (second : Takes ds es) :
    Takes cs es := by
  obtain ⟨front, rfl, spelled⟩ := first
  obtain ⟨back, rfl, spelled'⟩ := second
  refine ⟨front ++ back, by rw [List.append_assoc], fun c member => ?_⟩
  exact (List.mem_append.mp member).elim (spelled c) (spelled' c)

theorem cons {c : Char} (spelling : isSpelling c = true) (cs : List Char) : Takes (c :: cs) cs :=
  ⟨[c], rfl, by simpa using spelling⟩

/-- Characters of one kind in front of a text. -/
theorem drop {p : Char → Bool} (spelled : ∀ c, p c = true → isSpelling c = true)
    (cs : List Char) : Takes cs (cs.drop (cs.takeWhile p).length) := by
  refine ⟨cs.takeWhile p, ?_, fun c member => spelled c (List.mem_takeWhile_imp member)⟩
  exact (List.prefix_iff_eq_append.mp (List.takeWhile_prefix p)).symm

end Takes

section

variable {sp : Spelling} {cs rest : List Char} {n : Nat}

theorem takes_decimal {most bound : Nat} (taken : takeDecimal sp most bound cs = some (n, rest)) :
    Takes cs rest := by
  unfold takeDecimal at taken
  dsimp only at taken
  split at taken
  · cases taken
  · split at taken
    · cases taken
    · cases taken
      exact .drop (fun c digit => isSpelling_of_hex (hex_of_isDigit digit)) cs

theorem takes_group (taken : takeGroup cs = some (n, rest)) : Takes cs rest := by
  unfold takeGroup at taken
  dsimp only at taken
  split at taken
  · cases taken
  · cases taken
    exact .drop (fun c hex => isSpelling_of_hex hex) cs

theorem takes_octets {value count : Nat} (taken : takeOctets sp value count cs = some (n, rest)) :
    Takes cs rest := by
  fun_induction takeOctets sp value count cs with
  | case1 => cases taken; exact .refl _
  | case2 value count inner m later decimal ih =>
    exact (Takes.cons (by decide) _).trans ((takes_decimal decimal).trans (ih taken))
  | case3 => cases taken
  | case4 => cases taken

theorem takes_v4 (taken : takeV4 sp cs = some (n, rest)) : Takes cs rest := by
  unfold takeV4 at taken
  split at taken
  next decimal => exact (takes_decimal decimal).trans (takes_octets taken)
  next => cases taken

theorem takes_colon {first : Bool} (taken : takeColon first cs = some rest) : Takes cs rest := by
  unfold takeColon at taken
  split at taken
  · cases taken
    exact .refl _
  · split at taken
    · cases taken
      exact .cons (by decide) _
    · cases taken

theorem takes_groups (first : Bool) (limit : Nat) (cs : List Char) :
    Takes cs (takeGroups sp first limit cs).2.2 := by
  fun_induction takeGroups sp first limit cs with
  | case1 => exact .refl _
  | case2 => exact .refl _
  | case3 first limit cs inner colon mapped n rest found =>
    have v4 : takeV4 sp inner = some (n, rest) := (Option.ite_none_left_eq_some.mp found).2
    exact (takes_colon colon).trans (takes_v4 v4)
  | case4 first limit cs inner colon mapped _ n later group groups v4 rest more ih =>
    rw [more] at ih
    exact (takes_colon colon).trans ((takes_group group).trans ih)
  | case5 => exact .refl _

theorem takes_v6 (taken : takeV6 sp cs = some (n, rest)) : Takes cs rest := by
  have front : Takes cs (takeGroups sp true 8 cs).2.2 := takes_groups true 8 cs
  unfold takeV6 at taken
  generalize takeGroups sp true 8 cs = groups at front taken
  obtain ⟨head, v4, later⟩ := groups
  dsimp only at front taken
  split at taken
  · cases taken
    exact front
  · split at taken
    · cases taken
    · split at taken
      next back =>
        have gap : Takes (':' :: ':' :: back) back :=
          (Takes.cons (by decide) _).trans (.cons (by decide) _)
        cases taken
        exact front.trans (gap.trans (takes_groups true _ back))
      next => cases taken

/-- An address takes nothing but its characters. -/
theorem takes {family : Family} (taken : take sp family cs = some (n, rest)) : Takes cs rest := by
  cases family with
  | v4 => exact takes_v4 taken
  | v6 => exact takes_v6 taken

end

/-! ## In front of a slash -/

section

variable {cs rest ds : List Char} {n : Nat}

theorem takeWhile_slash {p : Char → Bool} (stops : p '/' = false) (cs ds : List Char) :
    (cs ++ '/' :: ds).takeWhile p = cs.takeWhile p := by
  induction cs with
  | nil => simp [stops]
  | cons c cs ih => rw [List.cons_append, List.takeWhile_cons, List.takeWhile_cons, ih]

theorem drop_slash (p : Char → Bool) (cs ds : List Char) :
    (cs ++ '/' :: ds).drop (cs.takeWhile p).length =
      cs.drop (cs.takeWhile p).length ++ '/' :: ds :=
  List.drop_append_of_le_length (List.takeWhile_prefix p).length_le

/-- Networks only allow more zeros in front. -/
theorem takeDecimal_slash {sp : Spelling} {most bound : Nat}
    (taken : takeDecimal sp most bound cs = some (n, rest)) (ds : List Char) :
    takeDecimal .network most bound (cs ++ '/' :: ds) = some (n, rest ++ '/' :: ds) := by
  unfold takeDecimal at taken ⊢
  rw [takeWhile_slash (by decide)]
  dsimp only at taken ⊢
  rw [drop_slash]
  split at taken
  · cases taken
  next inside =>
    rw [if_neg inside]
    split at taken
    · cases taken
    · cases taken
      rfl

theorem takeOctets_slash {sp : Spelling} {value count : Nat}
    (taken : takeOctets sp value count cs = some (n, rest)) (ds : List Char) :
    takeOctets .network value count (cs ++ '/' :: ds) = some (n, rest ++ '/' :: ds) := by
  fun_induction takeOctets sp value count cs with
  | case1 => cases taken; rfl
  | case2 value count inner m later decimal ih =>
    rw [List.cons_append, takeOctets, takeDecimal_slash decimal]
    exact ih taken
  | case3 => cases taken
  | case4 => cases taken

theorem takeV4_slash {sp : Spelling} (taken : takeV4 sp cs = some (n, rest)) (ds : List Char) :
    takeV4 .network (cs ++ '/' :: ds) = some (n, rest ++ '/' :: ds) := by
  unfold takeV4 at taken ⊢
  split at taken
  next decimal =>
    rw [takeDecimal_slash decimal]
    exact takeOctets_slash taken ds
  next => cases taken

theorem takeGroup_slash (cs ds : List Char) : takeGroup (cs ++ '/' :: ds) =
    (takeGroup cs).map fun (n, rest) => (n, rest ++ '/' :: ds) := by
  unfold takeGroup
  rw [takeWhile_slash (by decide)]
  dsimp only
  rw [drop_slash]
  split <;> rfl

/-- At most four hexadecimal digits are a group, whatever else follows them. -/
theorem takeGroup_append {front : List Char}
    (digits : ∀ c ∈ front, (Text.hexValue? c).isSome = true) (nonempty : front ≠ [])
    (short : front.length ≤ 4) {c : Char} (stops : Text.hexValue? c = none) (more : List Char) :
    ∃ n, takeGroup (front ++ c :: more) = some (n, c :: more) := by
  have taken : (front ++ c :: more).takeWhile (fun c => (Text.hexValue? c).isSome) = front := by
    rw [List.takeWhile_append_of_pos digits, List.takeWhile_cons_of_neg (by simp [stops]),
      List.append_nil]
  unfold takeGroup
  rw [taken]
  dsimp only
  rw [if_neg (by simp [nonempty, Nat.not_lt.mpr short]), List.drop_left]
  exact ⟨_, rfl⟩

/-- The first number of an IPv4 address is a group, and a dot follows it. -/
theorem takeGroup_of_v4 {sp : Spelling} (taken : takeV4 sp (cs ++ '/' :: ds) = some (n, rest)) :
    ∃ m more, takeGroup cs = some (m, '.' :: more) := by
  have digits : ∀ c ∈ cs.takeWhile Char.isDigit, (Text.hexValue? c).isSome = true :=
    fun c member => hex_of_isDigit (List.mem_takeWhile_imp member)
  have parts : cs = cs.takeWhile Char.isDigit ++ cs.drop (cs.takeWhile Char.isDigit).length :=
    (List.prefix_iff_eq_append.mp (List.takeWhile_prefix _)).symm
  unfold takeV4 takeDecimal at taken
  dsimp only at taken
  rw [takeWhile_slash (by decide), drop_slash] at taken
  generalize cs.takeWhile Char.isDigit = front at digits parts taken
  generalize cs.drop front.length = later at parts taken
  split at taken
  next m rest' decimal =>
    split at decimal
    · cases decimal
    next fits =>
      simp only [Bool.or_eq_true, not_or, Bool.not_eq_true, List.isEmpty_eq_false_iff,
        decide_eq_false_iff_not, Nat.not_lt] at fits
      obtain ⟨⟨nonempty, short⟩, -⟩ := fits
      split at decimal
      · cases decimal
      · cases decimal
        cases later with
        | nil => cases taken
        | cons c more =>
          have dot : c = '.' := by
            by_contra other
            rw [List.cons_append, takeOctets.eq_3 _ _ _ _ (by simpa using other)] at taken
            cases taken
          subst dot
          rw [parts]
          have stops : Text.hexValue? '.' = none := by decide
          obtain ⟨n, group⟩ := takeGroup_append digits nonempty (by omega) stops more
          exact ⟨n, more, group⟩
  next => cases taken

theorem takeV4_eq_none {sp : Spelling} (noDot : ∀ m more, takeGroup cs ≠ some (m, '.' :: more))
    (ds : List Char) : takeV4 sp (cs ++ '/' :: ds) = none := by
  rw [Option.eq_none_iff_forall_ne_some]
  intro found taken
  obtain ⟨m, more, group⟩ := takeGroup_of_v4 taken
  exact noDot m more group

theorem takeColon_append {first : Bool} {inner : List Char}
    (taken : takeColon first cs = some inner) (tail : List Char) :
    takeColon first (cs ++ tail) = some (inner ++ tail) := by
  unfold takeColon at taken ⊢
  split at taken
  next isFirst =>
    cases taken
    rw [if_pos isFirst]
  next later =>
    rw [if_neg later]
    split at taken
    · cases taken
      rfl
    · cases taken

/-- One more group: the last two as an IPv4 address, or one, or none. -/
theorem takeGroups_succ {sp : Spelling} {first : Bool} {limit : Nat} {inner : List Char}
    (colon : takeColon first cs = some inner) :
    takeGroups sp first (limit + 1) cs =
      match (if limit == 0 then none else takeV4 sp inner), takeGroup inner with
      | some (n, rest), _ => ([n / 65536, n % 65536], true, rest)
      | none, some (n, rest) =>
          let later := takeGroups sp false limit rest
          (n :: later.1, later.2.1, later.2.2)
      | none, none => ([], false, cs) := by
  rw [takeGroups, colon]
  dsimp only
  cases (if limit == 0 then none else takeV4 sp inner) with
  | some found => rfl
  | none => cases takeGroup inner <;> rfl

/-- No group starts with a slash or a dot. -/
theorem takeGroups_stop {c : Char} (stop : c = '/' ∨ c = '.') (sp : Spelling) (first : Bool)
    (limit : Nat) (more : List Char) :
    takeGroups sp first limit (c :: more) = ([], false, c :: more) := by
  cases limit with
  | zero => rfl
  | succ limit => rcases stop with rfl | rfl <;> cases first <;> cases limit <;> cases sp <;> rfl

/-- Groups are read alike by the rules for networks, which may allow more of them, if what follows
    them is nothing or starts with a colon. -/
theorem takeGroups_slash {first : Bool} {limit limit' : Nat} {groups : List Nat} {v4 : Bool}
    (taken : takeGroups .plain first limit cs = (groups, v4, rest))
    (ends : rest = [] ∧ limit ≤ limit' ∨ rest.head? = some ':' ∧ limit = limit')
    (ds : List Char) :
    takeGroups .network first limit' (cs ++ '/' :: ds) = (groups, v4, rest ++ '/' :: ds) := by
  induction limit generalizing first limit' cs groups v4 rest with
  | zero =>
    cases taken
    rcases ends with ⟨rfl, -⟩ | ⟨colon, rfl⟩
    · exact takeGroups_stop (.inl rfl) _ _ _ _
    · rfl
  | succ limit ih =>
    obtain ⟨limit', rfl⟩ : ∃ more, limit' = more + 1 := ⟨limit' - 1, by omega⟩
    cases colon : takeColon first cs with
    | none =>
      rw [takeGroups, colon] at taken
      cases taken
      rcases ends with ⟨rfl, -⟩ | ⟨starts, -⟩
      · exact takeGroups_stop (.inl rfl) _ _ _ _
      · obtain ⟨more, rfl⟩ := List.head?_eq_some_iff.mp starts
        cases first <;> cases colon
    | some inner =>
      rw [takeGroups_succ colon] at taken
      rw [takeGroups_succ (takeColon_append colon _), takeGroup_slash]
      cases plain : (if limit == 0 then none else takeV4 .plain inner) with
      | some found =>
        obtain ⟨more, v4⟩ := Option.ite_none_left_eq_some.mp plain
        have room : (limit' == 0) = false := by
          rw [beq_eq_false_iff_ne]
          rw [beq_iff_eq] at more
          omega
        rw [plain] at taken
        cases taken
        rw [takeV4_slash v4, room]
        rfl
      | none =>
        rw [plain] at taken
        -- An IPv4 address that only networks may spell so would leave a dot.
        have noDot (m more) : takeGroup inner ≠ some (m, '.' :: more) := by
          intro group
          rw [group] at taken
          dsimp only at taken
          rw [takeGroups_stop (.inr rfl)] at taken
          cases taken
          rcases ends with ⟨empty, -⟩ | ⟨starts, -⟩
          · cases empty
          · cases starts
        have noV4 :
            (if limit' == 0 then none else takeV4 .network (inner ++ '/' :: ds)) = none := by
          rw [takeV4_eq_none noDot, ite_self]
        rw [noV4]
        cases group : takeGroup inner with
        | none =>
          rw [group] at taken
          cases taken
          rfl
        | some found =>
          rw [group] at taken
          cases later : takeGroups .plain false limit found.2 with
          | mk groups' read =>
            dsimp only at taken
            rw [later] at taken
            cases taken
            have next := ih later (ends.imp (And.imp_right Nat.le_of_succ_le_succ)
              (And.imp_right Nat.succ.inj))
            simp only [Option.map_some, next]

/-- An address is read alike in front of the slash of a network. -/
theorem takeV6_slash (taken : takeV6 .plain cs = some (n, [])) (ds : List Char) :
    takeV6 .network (cs ++ '/' :: ds) = some (n, '/' :: ds) := by
  unfold takeV6 at taken ⊢
  cases found : takeGroups .plain true 8 cs with
  | mk head read =>
    obtain ⟨v4, rest⟩ := read
    rw [found] at taken
    dsimp only at taken
    split at taken
    next full =>
      cases taken
      rw [takeGroups_slash found (.inl ⟨rfl, Nat.le_refl 8⟩) ds]
      dsimp only
      rw [if_pos full]
      rfl
    next notFull =>
      split at taken
      · cases taken
      next noV4 =>
        split at taken
        next back =>
          rw [takeGroups_slash found (.inr ⟨rfl, rfl⟩) ds]
          dsimp only
          rw [if_neg notFull, if_neg noV4]
          cases later : takeGroups .plain true (7 - head.length) back with
          | mk tail read' =>
            obtain ⟨v4', rest'⟩ := read'
            rw [show (if Spelling.plain.emptyGap = true then 8 - head.length else
              7 - head.length) = 7 - head.length from rfl, later] at taken
            cases taken
            have wide : 7 - head.length ≤ 8 - head.length := by omega
            show (let read := takeGroups .network true (8 - head.length) (back ++ '/' :: ds)
              some (groupsValue (head ++ List.replicate (8 - head.length - read.1.length) 0 ++
                read.1), read.2.2)) = _
            rw [takeGroups_slash later (.inl ⟨rfl, wide⟩) ds]
            rfl
        next => cases taken

/-- An IPv6 address is not taken for an IPv4 one: it would go on after the first number with a
    colon. -/
theorem takeV4_of_v6 (taken : takeV6 .plain cs = some (n, [])) (ds : List Char) :
    takeV4 .network (cs ++ '/' :: ds) = none := by
  refine takeV4_eq_none (fun m more group => ?_) ds
  unfold takeV6 at taken
  rw [takeGroups_succ (by rfl : takeColon true cs = _), group] at taken
  cases v4 : takeV4 .plain cs with
  | some found =>
    have first : (if (7 : Nat) == 0 then none else takeV4 .plain cs) = some found := v4
    rw [first] at taken
    cases taken
  | none =>
    have first : (if (7 : Nat) == 0 then none else takeV4 .plain cs) = none := v4
    rw [first] at taken
    dsimp only at taken
    rw [takeGroups_stop (.inr rfl)] at taken
    cases taken

end

end Verdict.Address

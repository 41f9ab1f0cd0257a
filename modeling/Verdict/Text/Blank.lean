/-!
# Blank characters and trimming

The characters with the Unicode property `White_Space`, and the removal of such characters at
either end of a text.  `trim` keeps everything between the first and the last non-blank
character; it is the reading applied to field names, numbers, flags and list members.
-/

namespace Verdict.Text

/-- The characters with the Unicode property `White_Space`. -/
def isBlank (c : Char) : Bool :=
  let n := c.toNat
  (9 ≤ n && n ≤ 13) || n == 0x20 || n == 0x85 || n == 0xa0 || n == 0x1680 ||
    (0x2000 ≤ n && n ≤ 0x200a) || n == 0x2028 || n == 0x2029 || n == 0x202f || n == 0x205f ||
    n == 0x3000

/-- Drops blank characters at the end. -/
def dropBlankEnd (cs : List Char) : List Char :=
  (cs.reverse.dropWhile isBlank).reverse

/-- Drops blank characters at both ends. -/
def trimChars (cs : List Char) : List Char :=
  dropBlankEnd (cs.dropWhile isBlank)

/-- Drops blank characters at both ends of a text. -/
def trim (s : String) : String :=
  String.ofList (trimChars s.toList)

/-- A text of blank characters only, the empty one included. -/
def isAllBlank (s : String) : Bool :=
  s.toList.all isBlank

/-- The lower-case form of an ASCII capital; every other character as it is. -/
def asciiLower (c : Char) : Char :=
  if 'A' ≤ c && c ≤ 'Z' then Char.ofNat (c.toNat + 32) else c

/-- Lower-cases the ASCII capitals of a text and leaves the rest alone. -/
def toAsciiLower (s : String) : String :=
  String.ofList (s.toList.map asciiLower)

/-- Equality of texts up to the case of ASCII letters. -/
def eqIgnoringAsciiCase (s t : String) : Bool :=
  s.toList.map asciiLower == t.toList.map asciiLower

theorem dropWhile_of_visible {cs : List Char} (visible : ∀ c ∈ cs, isBlank c = false) :
    cs.dropWhile isBlank = cs := by
  cases cs with
  | nil => rfl
  | cons c rest => rw [List.dropWhile_cons_of_neg (by simp [visible c List.mem_cons_self])]

/-- What stands behind visible characters is trimmed at its end only. -/
theorem trimChars_append {front : List Char} (rest : List Char) (some_front : front ≠ [])
    (visible : ∀ c ∈ front, isBlank c = false) :
    trimChars (front ++ rest) = front ++ dropBlankEnd rest := by
  have start : (front ++ rest).dropWhile isBlank = front ++ rest := by
    obtain ⟨c, more, rfl⟩ := List.exists_cons_of_ne_nil some_front
    rw [List.cons_append, List.dropWhile_cons_of_neg (by simp [visible c List.mem_cons_self])]
  have back : front.reverse.dropWhile isBlank = front.reverse :=
    dropWhile_of_visible fun c member => visible c (List.mem_reverse.mp member)
  rw [trimChars, start, dropBlankEnd, dropBlankEnd, List.reverse_append, List.dropWhile_append,
    back]
  cases rest.reverse.dropWhile isBlank with
  | nil => simp
  | cons c kept => simp

theorem any_isBlank_eq_false {cs : List Char} :
    cs.any isBlank = false ↔ ∀ c ∈ cs, isBlank c = false := by
  simp

/-- Nothing is trimmed off a text without blanks. -/
theorem trimChars_of_visible {cs : List Char} (visible : ∀ c ∈ cs, isBlank c = false) :
    trimChars cs = cs := by
  rw [trimChars, dropBlankEnd, dropWhile_of_visible visible, dropWhile_of_visible,
    List.reverse_reverse]
  exact fun c member => visible c (List.mem_reverse.mp member)

/-- Letters are not blank, of either case. -/
theorem isBlank_asciiLower (c : Char) : isBlank (asciiLower c) = isBlank c := by
  have letters : ∀ n < 26, isBlank (Char.ofNat (65 + n)) = false ∧
      isBlank (Char.ofNat (65 + n + 32)) = false := by
    decide
  unfold asciiLower
  split
  next capital =>
    simp only [Bool.and_eq_true, decide_eq_true_eq] at capital
    have above : 65 ≤ c.toNat := Char.le_def.mp capital.1
    have below : c.toNat ≤ 90 := Char.le_def.mp capital.2
    obtain ⟨visible, visible'⟩ := letters (c.toNat - 65) (by omega)
    have same : 65 + (c.toNat - 65) = c.toNat := by omega
    rw [same] at visible visible'
    rw [Char.ofNat_toNat] at visible
    rw [visible, visible']
  next => rfl

/-- The case of letters does not matter for what is trimmed. -/
theorem dropBlankEnd_map_asciiLower (cs : List Char) :
    dropBlankEnd (cs.map asciiLower) = (dropBlankEnd cs).map asciiLower := by
  rw [dropBlankEnd, dropBlankEnd, ← List.map_reverse, List.dropWhile_map, ← List.map_reverse]
  congr 3
  exact funext isBlank_asciiLower

theorem eqIgnoringAsciiCase_self (s : String) : eqIgnoringAsciiCase s s = true := by
  simp [eqIgnoringAsciiCase]

theorem eqIgnoringAsciiCase_comm (s t : String) :
    eqIgnoringAsciiCase s t = eqIgnoringAsciiCase t s := by
  simp [eqIgnoringAsciiCase, Bool.beq_comm]

theorem eqIgnoringAsciiCase_trans {s t u : String} (first : eqIgnoringAsciiCase s t = true)
    (second : eqIgnoringAsciiCase t u = true) : eqIgnoringAsciiCase s u = true := by
  unfold eqIgnoringAsciiCase at *
  rw [beq_iff_eq] at *
  exact first.trans second

end Verdict.Text

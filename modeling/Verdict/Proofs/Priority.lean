import Verdict.Entity
import Mathlib.Data.List.Basic

/-!
# Order by priority

`DescendingOrder` says what it is to order items by priority without saying how: higher priorities
come first, and the items of one priority stand as they stood.  There is exactly one such order of
a list, and `sortByPriority` finds it (`descendingOrder_iff`).
-/

namespace Verdict

variable {α : Type} {priority : α → Int}

/-- `sorted` are the items with higher priorities first, those of one priority as they stood. -/
structure DescendingOrder (priority : α → Int) (items sorted : List α) : Prop where
  descending : sorted.Pairwise fun a b => priority b ≤ priority a
  stable : ∀ p, sorted.filter (fun a => priority a == p) = items.filter fun a => priority a == p

theorem pairwise_of_same_priority (items : List α) (p : Int) :
    (items.filter fun a => priority a == p).Pairwise
      fun a b => decide (priority b ≤ priority a) = true := by
  apply List.Pairwise.imp_of_mem (R := fun _ _ => True)
  · intro a b ha hb _
    have hpa : priority a = p := by simpa using (List.mem_filter.mp ha).2
    have hpb : priority b = p := by simpa using (List.mem_filter.mp hb).2
    simp [hpa, hpb]
  · exact List.pairwise_of_forall fun _ _ => trivial

/-- Sorting by priority leaves the items of each priority as they stood. -/
theorem filter_sortByPriority (items : List α) (p : Int) :
    (sortByPriority priority items).filter (fun a => priority a == p) =
      items.filter fun a => priority a == p := by
  have within : List.Sublist (items.filter fun a => priority a == p)
      (sortByPriority priority items) := by
    apply List.sublist_mergeSort
    · intro a b c hab hbc
      simp only [decide_eq_true_eq] at hab hbc ⊢
      omega
    · intro a b
      simp only [Bool.or_eq_true, decide_eq_true_eq]
      omega
    · exact pairwise_of_same_priority items p
    · exact List.filter_sublist
  have kept := within.filter fun a => priority a == p
  rw [List.filter_filter] at kept
  simp only [Bool.and_self] at kept
  refine (kept.eq_of_length ?_).symm
  exact (((List.mergeSort_perm items _).filter _).length_eq).symm

theorem descendingOrder_sortByPriority (items : List α) :
    DescendingOrder priority items (sortByPriority priority items) where
  descending := by
    have sorted : (sortByPriority priority items).Pairwise
        fun a b => decide (priority b ≤ priority a) = true := by
      apply List.pairwise_mergeSort
      · intro a b c hab hbc
        simp only [decide_eq_true_eq] at hab hbc ⊢
        omega
      · intro a b
        simp only [Bool.or_eq_true, decide_eq_true_eq]
        omega
    exact sorted.imp fun h => by simpa using h
  stable := filter_sortByPriority items

theorem mem_of_same {s t : List α}
    (same : ∀ p, s.filter (fun a => priority a == p) = t.filter fun a => priority a == p) {a : α}
    (ha : a ∈ s) : a ∈ t := by
  have found : a ∈ s.filter fun b => priority b == priority a :=
    List.mem_filter.mpr ⟨ha, by simp⟩
  rw [same] at found
  exact (List.mem_filter.mp found).1

/-- The first item of a descending list has the highest priority of any list that holds the same. -/
theorem head_le_of_same {a b : α} {s t : List α}
    (ha : ∀ c ∈ s, priority c ≤ priority a)
    (same : ∀ p, (b :: t).filter (fun a => priority a == p) =
      (a :: s).filter fun a => priority a == p) :
    priority b ≤ priority a := by
  rcases List.mem_cons.mp (mem_of_same same List.mem_cons_self) with equal | member
  · exact equal ▸ Int.le_refl _
  · exact ha b member

/-- Lists that descend are determined by what they hold at each priority. -/
theorem eq_of_descending {s t : List α} (hs : s.Pairwise fun a b => priority b ≤ priority a)
    (ht : t.Pairwise fun a b => priority b ≤ priority a)
    (same : ∀ p, s.filter (fun a => priority a == p) = t.filter fun a => priority a == p) :
    s = t := by
  induction s generalizing t with
  | nil => exact (List.eq_nil_iff_forall_not_mem.mpr fun b hb =>
      List.not_mem_nil (mem_of_same (fun p => (same p).symm) hb)).symm
  | cons a s ih =>
    cases t with
    | nil => exact absurd (mem_of_same same List.mem_cons_self) List.not_mem_nil
    | cons b t =>
      obtain ⟨ha, restOfS⟩ := List.pairwise_cons.mp hs
      obtain ⟨hb, restOfT⟩ := List.pairwise_cons.mp ht
      have hab : priority a = priority b :=
        Int.le_antisymm (head_le_of_same hb same) (head_le_of_same ha fun p => (same p).symm)
      -- both heads are the first item of the highest priority
      have heads := same (priority a)
      rw [List.filter_cons_of_pos (by simp), List.filter_cons_of_pos (by simp [hab])] at heads
      obtain ⟨equal, -⟩ := List.cons.inj heads
      subst equal
      have tails : s = t := by
        apply ih restOfS restOfT
        intro p
        have whole := same p
        by_cases hp : priority a = p
        · rw [List.filter_cons_of_pos (by simp [hp]), List.filter_cons_of_pos (by simp [hp])]
            at whole
          exact (List.cons.inj whole).2
        · rwa [List.filter_cons_of_neg (by simp [hp]), List.filter_cons_of_neg (by simp [hp])]
            at whole
      rw [tails]

/-- Sorting by priority gives the only order there is. -/
theorem descendingOrder_iff {items sorted : List α} :
    DescendingOrder priority items sorted ↔ sorted = sortByPriority priority items := by
  constructor
  · intro h
    have found : DescendingOrder priority items (sortByPriority priority items) :=
      descendingOrder_sortByPriority items
    exact eq_of_descending h.descending found.descending
      fun p => (h.stable p).trans (found.stable p).symm
  · rintro rfl
    exact descendingOrder_sortByPriority items

/-- A list that descends is in order already. -/
theorem sortByPriority_of_descending {items : List α}
    (descending : items.Pairwise fun a b => priority b ≤ priority a) :
    sortByPriority priority items = items :=
  (descendingOrder_iff.mp ⟨descending, fun _ => rfl⟩).symm

/-- What is kept for its priority holds all items of a priority that is kept, and none of others. -/
theorem filter_of_priority (items : List α) (keeps : Int → Bool) (q : Int) :
    (items.filter fun a => keeps (priority a)).filter (fun a => priority a == q) =
      if keeps q = true then items.filter fun a => priority a == q else [] := by
  rw [List.filter_filter]
  split
  next kept =>
    refine List.filter_congr fun a _ => ?_
    by_cases equal : priority a = q <;> simp [equal, kept]
  next dropped =>
    simp only [List.filter_eq_nil_iff, Bool.and_eq_true, beq_iff_eq]
    rintro a - ⟨rfl, kept⟩
    exact dropped kept

/-- Items above a priority, at it and below it descend if those above and those below do. -/
theorem descending_of_levels {high same low : List α} {p : Int}
    (highAbove : ∀ a ∈ high, p < priority a) (sameLevel : ∀ a ∈ same, priority a = p)
    (lowBelow : ∀ a ∈ low, priority a < p)
    (above : high.Pairwise fun a b => priority b ≤ priority a)
    (below : low.Pairwise fun a b => priority b ≤ priority a) :
    (high ++ (same ++ low)).Pairwise fun a b => priority b ≤ priority a := by
  rw [List.pairwise_append, List.pairwise_append]
  refine ⟨above, ⟨?_, below, ?_⟩, ?_⟩
  · refine List.pairwise_of_forall_mem_list fun a first b second => ?_
    exact Int.le_of_eq ((sameLevel b second).trans (sameLevel a first).symm)
  · intro a first b second
    have level := sameLevel a first
    have lower := lowBelow b second
    omega
  · intro a first b second
    have higher := highAbove a first
    rcases List.mem_append.mp second with here | later
    · have level := sameLevel b here
      omega
    · have lower := lowBelow b later
      omega

/-- Items of one priority have their place in the order: behind those of a higher priority and
    those of their own that stand in front of them, and before all others. -/
theorem descendingOrder_around (front : List α) {middle : List α} (back : List α) {p : Int}
    (level : ∀ a ∈ middle, priority a = p) :
    let others := front ++ back
    DescendingOrder priority (front ++ middle ++ back)
      ((sortByPriority priority (others.filter fun a => p < priority a) ++
          front.filter fun a => priority a == p) ++ middle ++
        ((back.filter fun a => priority a == p) ++
          sortByPriority priority (others.filter fun a => priority a < p))) := by
  intro others
  have above : DescendingOrder priority _ _ :=
    descendingOrder_sortByPriority (others.filter fun a => p < priority a)
  have below : DescendingOrder priority _ _ :=
    descendingOrder_sortByPriority (others.filter fun a => priority a < p)
  generalize sortByPriority priority (others.filter fun a => p < priority a) = high at above ⊢
  generalize sortByPriority priority (others.filter fun a => priority a < p) = low at below ⊢
  constructor
  · have highAbove : ∀ a ∈ high, p < priority a := fun a member => by
      simpa using (List.mem_filter.mp (mem_of_same above.stable member)).2
    have lowBelow : ∀ a ∈ low, priority a < p := fun a member => by
      simpa using (List.mem_filter.mp (mem_of_same below.stable member)).2
    have within : ∀ a ∈ (front.filter fun a => priority a == p) ++
        (middle ++ back.filter fun a => priority a == p), priority a = p := by
      simp only [List.mem_append, List.mem_filter, beq_iff_eq]
      rintro a (⟨-, same⟩ | member | ⟨-, same⟩)
      exacts [same, level a member, same]
    rw [List.append_assoc, List.append_assoc, ← List.append_assoc middle,
      ← List.append_assoc (front.filter _)]
    exact descending_of_levels highAbove within lowBelow above.descending below.descending
  · intro q
    have highAt := (above.stable q).trans (filter_of_priority others (p < ·) q)
    have lowAt := (below.stable q).trans (filter_of_priority others (· < p) q)
    have frontAt := @filter_of_priority α priority front (· == p) q
    have backAt := @filter_of_priority α priority back (· == p) q
    have elsewhere (other : q ≠ p) : middle.filter (fun a => priority a == q) = [] := by
      simp only [List.filter_eq_nil_iff, beq_iff_eq]
      exact fun a member equal => other (equal.symm.trans (level a member))
    simp only [List.filter_append, highAt, lowAt, frontAt, backAt, others, decide_eq_true_eq,
      beq_iff_eq]
    -- the items of priority `q` are all in one of the three parts
    rcases Int.lt_trichotomy q p with less | rfl | greater
    · have other := Int.ne_of_lt less
      simp only [elsewhere other, other, less, Int.not_lt.mpr (Int.le_of_lt less), if_true,
        if_false, List.nil_append, List.append_nil]
    · simp only [Int.lt_irrefl, if_true, if_false, List.nil_append, List.append_nil,
        List.append_assoc]
    · have other := Int.ne_of_gt greater
      simp only [elsewhere other, other, greater, Int.not_lt.mpr (Int.le_of_lt greater), if_true,
        if_false, List.append_nil]

/-- An item that is put into a list has its place between two parts of the others in their order. -/
theorem exists_sortByPriority_insert (priority : α → Int) (front back : List α) (a : α) :
    ∃ before after, sortByPriority priority (front ++ back) = before ++ after ∧
      sortByPriority priority (front ++ a :: back) = before ++ a :: after := by
  have none : ∀ b ∈ [], priority b = priority a := fun b member => nomatch member
  have one : ∀ b ∈ [a], priority b = priority a := by simp
  have without : _ = sortByPriority priority (front ++ [] ++ back) :=
    descendingOrder_iff.mp (descendingOrder_around front back none)
  have inserted : _ = sortByPriority priority (front ++ [a] ++ back) :=
    descendingOrder_iff.mp (descendingOrder_around front back one)
  rw [List.append_nil, List.append_nil] at without
  rw [List.append_assoc _ [a], List.append_assoc _ [a], List.singleton_append,
    List.singleton_append] at inserted
  exact ⟨_, _, without.symm, inserted.symm⟩

end Verdict

import Verdict.Proofs.Context.Parts

/-!
# Finding the fields of a request

A field that addresses a part finds what that part holds.  A bare name is looked for in one part
after the other, until one holds it (`FindsBare`, `searched?_eq_some_iff`).  Nothing else is found
(`resolve_finds`), so that a field depends on the part it addresses, or on the parts up to the one
where it is found (`searched?_congr`).
-/

namespace Verdict.Context

/-- What a search for a bare name finds: what a part holds, none before it holding anything. -/
structure FindsBare (ctx : Context) (name : String) (part : Part) (v : Value) : Prop where
  searched : part.Searched
  holds : ctx.Holds part name v
  first : ∀ earlier : Part, earlier.Precedes part → ∀ w, ¬ ctx.Holds earlier name w

/-- The value of a name in the first of the searched parts that has it. -/
def searched? (ctx : Context) (name : String) : Option Value :=
  bareParts.findSome? fun part => ctx.inPart? part name

theorem bare?_eq (ctx : Context) (name : String) :
    ctx.bare? name = (ctx.fixed? name).or (ctx.searched? name) := rfl

section

variable {ctx other : Context} {part : Part} {name : String} {v : Value}

theorem findsBare_of_searched? (found : ctx.searched? name = some v) :
    ∃ part, ctx.FindsBare name part v := by
  obtain ⟨before, part, after, split, here, nowhere⟩ := List.findSome?_eq_some_iff.mp found
  refine ⟨part, ?_, holds_of_inPart? here, ?_⟩
  · rw [← Part.mem_bareParts, split]
    simp
  · intro earlier precedes
    exact inPart?_eq_none_iff.mp (nowhere earlier ((Part.mem_before_iff split).mpr precedes))

/-- The search finds what the first part holds, where that is one value. -/
theorem FindsBare.searched?_eq (finds : ctx.FindsBare name part v)
    (only : ∀ w, ctx.Holds part name w → w = v) : ctx.searched? name = some v := by
  obtain ⟨before, after, split⟩ := List.append_of_mem (Part.mem_bareParts.mpr finds.searched)
  refine List.findSome?_eq_some_iff.mpr ⟨before, part, after, split, ?_, ?_⟩
  · obtain ⟨w, found⟩ := finds.holds.exists_inPart?
    rw [found, only w (holds_of_inPart? found)]
  · intro earlier member
    exact inPart?_eq_none_iff.mpr (finds.first earlier ((Part.mem_before_iff split).mp member))

theorem searched?_eq_some_iff (distinct : ctx.HeadersDistinct) :
    ctx.searched? name = some v ↔ ∃ part, ctx.FindsBare name part v := by
  constructor
  · exact findsBare_of_searched?
  · rintro ⟨part, finds⟩
    exact finds.searched?_eq fun w holds => holds.unique distinct finds.holds

/-- The search finds nothing exactly if no searched part holds anything. -/
theorem searched?_eq_none_iff :
    ctx.searched? name = none ↔ ∀ part : Part, part.Searched → ∀ v, ¬ ctx.Holds part name v := by
  simp only [searched?, List.findSome?_eq_none_iff, Part.mem_bareParts, inPart?_eq_none_iff]

/-- The search in another request ends with the same result where each part holds the same under the
    name or stands behind the part that is found. -/
theorem searched?_congr (distinct : ctx.HeadersDistinct)
    (agree : ∀ part : Part, part.Searched →
      (∀ v, other.Holds part name v ↔ ctx.Holds part name v) ∨
        ∃ found v, ctx.FindsBare name found v ∧ found.Precedes part) :
    other.searched? name = ctx.searched? name := by
  cases found : ctx.searched? name with
  | none =>
    rw [searched?_eq_none_iff] at found ⊢
    intro part searched v holds
    rcases agree part searched with same | ⟨first, w, finds, -⟩
    · exact found part searched v ((same v).mp holds)
    · exact found first finds.searched w finds.holds
  | some v =>
    obtain ⟨part, finds⟩ := findsBare_of_searched? found
    -- nothing is found before the part that is found, so that the others must agree
    have upTo : ∀ earlier : Part, earlier.Searched → (earlier = part ∨ earlier.Precedes part) →
        ∀ w, other.Holds earlier name w ↔ ctx.Holds earlier name w := by
      intro earlier searched place
      rcases agree earlier searched with same | ⟨first, w, finds', precedes⟩
      · exact same
      · exfalso
        have before : first.Precedes part := by
          rcases place with rfl | before
          · exact precedes
          · exact precedes.trans before
        exact finds.first first before w finds'.holds
    have finds' : other.FindsBare name part v := by
      refine ⟨finds.searched, (upTo part finds.searched (.inl rfl) v).mpr finds.holds, ?_⟩
      intro earlier before w holds
      exact finds.first earlier before w
        ((upTo earlier before.searched (.inr before) w).mp holds)
    refine finds'.searched?_eq fun w holds => ?_
    exact ((upTo part finds.searched (.inl rfl) w).mp holds).unique distinct finds.holds

/-- Headers are found by any spelling of their names. -/
theorem inPart?_headers_congr (distinct : ctx.HeadersDistinct) {name' : String}
    (alike : Text.eqIgnoringAsciiCase name name' = true) :
    ctx.inPart? .headers name = ctx.inPart? .headers name' := by
  have renamed {name name' : String} (alike : Text.eqIgnoringAsciiCase name name' = true)
      {v : Value} (holds : ctx.Holds .headers name v) : ctx.Holds .headers name' v := by
    cases holds with
    | header entry named => exact .header entry (Text.eqIgnoringAsciiCase_trans named alike)
  ext v
  rw [inPart?_eq_some_iff distinct, inPart?_eq_some_iff distinct]
  constructor
  · exact renamed alike
  · rw [Text.eqIgnoringAsciiCase_comm] at alike
    exact renamed alike

end

/-- A field that addresses a part finds what the part holds, and any other name that is not of a
    fixed field finds what the first part holds that has it.  So a field depends on the part that it
    addresses only, and a bare name on what the parts hold under it up to the one where it is found;
    and the name of a header may be spelled in either case. -/
theorem resolve_finds {ctx : Context} (distinct : ctx.HeadersDistinct) :
    (∀ field name, canonicalField (Text.trim field) = name → name ∉ fixedNames →
      (∀ (part : Part) (inner : String), part.Addressed inner name →
        (∀ v, ctx.resolve field = some v ↔ ctx.Holds part inner v) ∧
          ∀ other, ctx.SameIn other part → other.resolve field = ctx.resolve field) ∧
      ((∀ (part : Part) (inner : String), ¬ part.Addressed inner name) →
        (∀ v, ctx.resolve field = some v ↔ ∃ part, ctx.FindsBare name part v) ∧
          ∀ other : Context,
            (∀ part : Part, part.Searched →
              (∀ v, other.Holds part name v ↔ ctx.Holds part name v) ∨
                ∃ found v, ctx.FindsBare name found v ∧ found.Precedes part) →
            other.resolve field = ctx.resolve field)) ∧
    ∀ lead header header', Part.ofName? lead = some .headers →
      Text.eqIgnoringAsciiCase header header' = true →
      ctx.resolve (lead ++ "." ++ header) = ctx.resolve (lead ++ "." ++ header') := by
  refine ⟨?_, ?_⟩
  · rintro field _ rfl free
    refine ⟨?_, ?_⟩
    · intro part inner addressed
      refine ⟨fun v => ?_, fun other same => ?_⟩
      · rw [resolve_of_addressed ctx addressed, inPart?_eq_some_iff distinct]
      · rw [resolve_of_addressed ctx addressed, resolve_of_addressed other addressed,
          inPart?_of_sameIn same]
    · intro bare
      have searched (ctx : Context) :
          ctx.resolve field = ctx.searched? (canonicalField (Text.trim field)) := by
        rw [resolve_of_bare ctx bare, bare?_eq, fixed?_eq_none ctx free, Option.none_or]
      refine ⟨fun v => ?_, fun other agree => ?_⟩
      · rw [searched, searched?_eq_some_iff distinct]
      · rw [searched, searched, searched?_congr distinct agree]
  · intro lead header header' known alike
    rw [resolve_append ctx known, resolve_append ctx known]
    apply inPart?_headers_congr distinct
    unfold Text.eqIgnoringAsciiCase at alike ⊢
    rw [beq_iff_eq] at alike ⊢
    rw [String.toList_ofList, String.toList_ofList, ← Text.dropBlankEnd_map_asciiLower, alike,
      Text.dropBlankEnd_map_asciiLower]

/-- A header is found before an entry of the metadata, which is found where it is addressed. -/
theorem resolve_finds_header_over_metadata :
    let headers : KeyMap String := .ofList [("X-Tier", "gold")]
    let metadata : KeyMap Json := .ofList [("x-tier", .str "silver")]
    let ctx : Context := { headers, metadata, timestamp := default }
    ctx.HeadersDistinct ∧
      ({ headers, timestamp := default } : Context).resolve " x-tier" = some (.text "gold") ∧
      ({ metadata, timestamp := default } : Context).resolve "meta.x-tier" =
        some (.text "silver") ∧
      ctx.resolve ("headers" ++ "." ++ "X-TIER") = ctx.resolve ("headers" ++ "." ++ "x-tier") := by
  intro headers metadata ctx
  have distinct : ctx.HeadersDistinct := List.pairwise_singleton _ _
  obtain ⟨found, renamed⟩ := resolve_finds distinct
  have addressed : Part.Addressed .metadata "x-tier" "meta.x-tier" :=
    ⟨"meta", by decide +kernel, by decide, rfl⟩
  have bare : ∀ (part : Part) (inner : String), ¬ part.Addressed inner "x-tier" :=
    namespaced?_eq_none_iff.mp (by decide +kernel)
  obtain ⟨-, kept⟩ :=
    (found "meta.x-tier" "meta.x-tier" (by decide +kernel) (by decide)).1 _ _ addressed
  obtain ⟨first, unseen⟩ := (found " x-tier" "x-tier" (by decide +kernel) (by decide)).2 bare
  have spellings := renamed "headers" "X-TIER" "x-tier" rfl (by decide)
  refine ⟨distinct, ?_, ?_, spellings⟩
  · have finds : ctx.FindsBare "x-tier" .headers (.text "gold") := by
      refine ⟨by decide, .header (List.mem_singleton.mpr rfl) (by decide), ?_⟩
      intro earlier precedes
      exfalso
      revert precedes
      cases earlier <;> decide
    rw [unseen, (first _).mpr ⟨.headers, finds⟩]
    intro other searched
    by_cases changed : other = .metadata
    · exact .inr ⟨.headers, _, finds, changed ▸ by decide⟩
    · refine .inl fun v => holds_of_sameIn ?_
      cases other <;> first | rfl | exact absurd rfl changed
  · rw [kept { metadata, timestamp := default } rfl]
    rfl

end Verdict.Context

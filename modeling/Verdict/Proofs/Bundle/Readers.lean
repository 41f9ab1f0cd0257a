import Verdict.Proofs.Bundle.Spelling
import Verdict.Proofs.Json.Reading

/-!
# Two readers of bundles

`Bundle.read` reads a bundle from the text as it stands, `RuleFile.read` from the plain value of
the text.  They give the same for every document that repeats no name and, in YAML, is spelled as
the shape of a bundle asks for (`Bundle.readers_agree`).  Of other texts either reader may refuse
what the other one accepts (`Bundle.readers_differ_unquotedSample`).
-/

namespace Verdict

namespace Datum

/-- The only document of a text, in the format that it shows. -/
def document? (content : String) : Option Datum :=
  match Format.detect content with
  | .json => ofJsonText? content
  | .yaml => ofYamlText? content

/-- The value of a document with the members of its objects as the text gives them, if all its parts
    have a value. -/
def raw? : Datum → Option Json
  | .json j => if j.isSound then some j else none
  | .yaml n => n.json?

theorem json?_eq_raw? (d : Datum) : d.json? = d.raw?.map Json.normal := by
  cases d with
  | json j =>
    rw [json?, raw?]
    split <;> rfl
  | yaml n => rfl

theorem raw?_json {j j' : Json} : (json j).raw? = some j' ↔ j.isSound = true ∧ j = j' := by
  simp [raw?]

theorem isSound_of_raw? {d : Datum} {j : Json} (value : d.raw? = some j) : j.isSound = true := by
  cases d with
  | json j' =>
    obtain ⟨sound, rfl⟩ := raw?_json.mp value
    exact sound
  | yaml n => exact Yaml.Node.isSound_of_json? value

/-- Whether a document is a mapping that says which layout it has. -/
def isVersioned : Datum → Bool
  | .json (.obj members) => members.any fun m => m.1 == "format_version"
  | .yaml (.map _ entries) => entries.any fun e => e.1 == some "format_version"
  | _ => false

/-- Whether a YAML document is spelled as a shape asks for. -/
def suits (s : Shape) : Datum → Bool
  | .json _ => true
  | .yaml n => s.suits n

end Datum

/-- What a bundle contributes as a rule file. -/
def RuleFile.ofBundle (b : Bundle) : RuleFile where
  holdings := b.holdings
  checksum := some b.checksum

section

variable {content : String} {d : Datum} {j : Json}

/-- A document is versioned if a member of its value has that name. -/
theorem Datum.versioned_of_raw? (value : d.raw? = some j) (versioned : d.isVersioned = true) :
    ∃ ms, j = .obj ms ∧ ∃ v, ("format_version", v) ∈ ms := by
  match d, versioned with
  | .json (.obj ms), versioned =>
    obtain ⟨-, rfl⟩ := Datum.raw?_json.mp value
    obtain ⟨⟨name, v⟩, member, same⟩ := List.any_eq_true.mp versioned
    obtain rfl := eq_of_beq same
    exact ⟨ms, rfl, v, member⟩
  | .yaml (.map tag es), versioned =>
    cases Yaml.Node.means_of_json? value with
    | @map _ _ ms entries =>
      obtain ⟨e, member, same⟩ := List.any_eq_true.mp versioned
      have keys : es.map Prod.fst = ms.map fun m => some m.1 :=
        map_eq_of_forall₂ (entries.imp fun _ _ => And.left)
      have key : some "format_version" ∈ ms.map fun m => some m.1 :=
        keys ▸ eq_of_beq same ▸ List.mem_map_of_mem member
      obtain ⟨⟨name, v⟩, there, same⟩ := List.mem_map.mp key
      obtain rfl := Option.some.inj same
      exact ⟨ms, rfl, v, there⟩

theorem Bundle.read_of_document (now : Instant) (only : Datum.document? content = some d) :
    (Bundle.read now content).toOption = Bundle.ofDatum? now d := by
  rw [Bundle.read]
  rw [Datum.document?] at only
  generalize Format.detect content = format at only
  cases format with
  | json =>
    have only : Datum.ofJsonText? content = some d := only
    rw [Datum.readText, Datum.readJson, only, Option.bind_some]
    cases Bundle.ofDatum? now d <;> rfl
  | yaml =>
    have only : Datum.ofYamlText? content = some d := only
    rw [Datum.readText, Datum.readYaml, only, Option.bind_some]
    cases Bundle.ofDatum? now d <;> rfl

/-- The plain value of a versioned object is read as a bundle. -/
theorem RuleFile.ofJson_of_versioned (now : Instant) {ms : List (String × Json)} {v : Json}
    (versioned : ("format_version", v) ∈ ms) :
    (RuleFile.ofJson now (.obj ms)).toOption =
      (Bundle.ofDatum? now (.json (.obj ms))).map .ofBundle := by
  have has : (ms.any fun m => m.1 == "format_version") = true :=
    List.any_eq_true.mpr ⟨_, versioned, rfl⟩
  rw [RuleFile.ofJson]
  dsimp only
  rw [if_pos has, RuleFile.convert]
  cases Bundle.ofDatum? now (.json (.obj ms)) <;> rfl

theorem RuleFile.read_of_document (now : Instant) (only : Datum.document? content = some d)
    (value : d.raw? = some j) (versioned : d.isVersioned = true) :
    (RuleFile.read now content).toOption =
      (Bundle.ofDatum? now (.json j.normal)).map .ofBundle := by
  obtain ⟨ms, rfl, v, member⟩ := Datum.versioned_of_raw? value versioned
  obtain ⟨last, found⟩ := lookup_reverse_isSome member
  have listed := Json.mem_normal_obj.mpr ⟨last, found, rfl⟩
  have same : RuleFile.read now content = RuleFile.ofJson now (Json.obj ms).normal := by
    rw [RuleFile.read]
    rw [Datum.document?] at only
    generalize Format.detect content = format at only
    cases format with
    | json =>
      obtain ⟨j, parsed, rfl⟩ := Option.map_eq_some_iff.mp only
      obtain ⟨sound, rfl⟩ := Datum.raw?_json.mp value
      rw [RuleFile.readAs, Json.read?_eq_some.mpr ⟨parsed, sound⟩]
    | yaml =>
      obtain ⟨n, parsed, rfl⟩ := Option.map_eq_some_iff.mp only
      have documents : Yaml.Node.readAll? content = some [n] := by
        rw [Yaml.Node.read?] at parsed
        split at parsed
        · cases parsed
          assumption
        · cases parsed
      have plain : (Datum.yaml n).json? = some (Json.obj ms).normal := by
        rw [Datum.json?_eq_raw?, value]
        rfl
      have values : RuleFile.yamlValues content = .ok [(Json.obj ms).normal] := by
        rw [RuleFile.yamlValues, documents, Option.bind_some, List.mapM_cons, List.mapM_nil, plain]
        rfl
      rw [RuleFile.readAs, values]
      rfl
  rw [same, Json.normal]
  exact RuleFile.ofJson_of_versioned now listed

/-- A text in JSON of which a part has no value is no rule file. -/
theorem RuleFile.read_of_unsound (now : Instant)
    (only : Datum.document? content = some (.json j)) (unsound : j.isSound = false) :
    (RuleFile.read now content).toOption = none := by
  rw [RuleFile.read]
  rw [Datum.document?] at only
  generalize Format.detect content = format at only
  cases format with
  | json =>
    obtain ⟨j', parsed, same⟩ := Option.map_eq_some_iff.mp only
    cases same
    have refused : Json.read? content = none := by
      rw [Json.read?, parsed]
      exact Option.filter_some_neg (by simp [unsound])
    rw [RuleFile.readAs, refused]
    rfl
  | yaml =>
    obtain ⟨n, -, same⟩ := Option.map_eq_some_iff.mp only
    cases same

/-! ## Agreement -/

/-- Whether a document has a plain value that repeats no name and, in YAML, is spelled as the shape
    of a bundle asks for. -/
def Bundle.isPlain (d : Datum) : Bool :=
  d.raw?.any (fun j => decide j.Unrepeated) && d.suits shape

/-- What a bundle is in a plain document does not depend on how the document is read. -/
theorem Bundle.ofDatum?_of_isPlain (now : Instant) (plain : isPlain d = true) :
    ∃ j, d.raw? = some j ∧ ofDatum? now d = ofDatum? now (.json j.normal) := by
  obtain ⟨value, suits⟩ := Bool.and_eq_true_iff.mp plain
  obtain ⟨j, value, unrepeated⟩ := (Option.any_eq_true ..).mp value
  have unrepeated : j.Unrepeated := of_decide_eq_true unrepeated
  have same : ofDatum? now d = ofDatum? now (.json j) := by
    cases d with
    | json j' =>
      obtain ⟨-, rfl⟩ := Datum.raw?_json.mp value
      rfl
    | yaml n => exact (shape.fits suits value unrepeated).read_eq (follows_shape now)
  have nested : shape.Alike (.json j) (.json j.normal) :=
    ⟨shape.below_normal j, shape.normal_below (Datum.isSound_of_raw? value) unrepeated⟩
  exact ⟨j, value, same.trans (nested.read_eq (follows_shape now))⟩

/-- Both readers give the same for each document with a version that is plain, and in JSON a bundle
    that is read as it stands is read by way of its plain value too, exactly if all parts of the
    text have a value. -/
theorem Bundle.readers_agree (now : Instant) (only : Datum.document? content = some d)
    (versioned : d.isVersioned = true) :
    (isPlain d = true →
      (RuleFile.read now content).toOption = (Bundle.read now content).toOption.map .ofBundle) ∧
    (∀ j b, d = .json j → Bundle.read now content = .ok b →
      (RuleFile.read now content = .ok (.ofBundle b) ↔ j.isSound = true)) := by
  refine ⟨fun plain => ?_, ?_⟩
  · obtain ⟨j, value, same⟩ := ofDatum?_of_isPlain now plain
    rw [RuleFile.read_of_document now only value versioned, read_of_document now only, same]
  · rintro j b rfl read
    have here : ofDatum? now (.json j) = some b := by
      rw [← read_of_document now only, read]
      rfl
    have nested : ofDatum? now (.json j.normal) = some b :=
      follows_shape now (shape.below_normal j) b here
    constructor
    · intro read'
      by_contra unsound
      have refused := RuleFile.read_of_unsound now only (Bool.eq_false_iff.mpr unsound)
      rw [read'] at refused
      cases refused
    · intro sound
      have read' := RuleFile.read_of_document now only (Datum.raw?_json.mpr ⟨sound, rfl⟩) versioned
      rw [nested] at read'
      match RuleFile.read now content, read' with
      | .ok _, rfl => rfl

end

/-- A bundle in YAML with one rule, its version in quotes. -/
def Bundle.quotedSample : String :=
  "format_version: \"1.0\"\nexported_at: 2024-01-01T00:00:00Z\nchecksum: abc\n" ++
    "rules:\n- id: night\n  name: Night\n  priority: 5\n"

theorem Bundle.readers_agree_quotedSample :
    (∃ d, Datum.document? quotedSample = some d ∧ d.isVersioned = true ∧ isPlain d = true) ∧
      (Bundle.read .epoch quotedSample).toOption.isSome = true ∧
      (RuleFile.read .epoch quotedSample).toOption =
        (Bundle.read .epoch quotedSample).toOption.map .ofBundle := by
  have fits : (Datum.document? quotedSample).any (fun d =>
      d.isVersioned && (isPlain d && (ofDatum? .epoch d).isSome)) = true := by
    decide +kernel
  obtain ⟨d, only, fits⟩ := (Option.any_eq_true ..).mp fits
  obtain ⟨versioned, fits⟩ := Bool.and_eq_true_iff.mp fits
  obtain ⟨plain, accepted⟩ := Bool.and_eq_true_iff.mp fits
  refine ⟨⟨d, only, versioned, plain⟩, ?_, (readers_agree .epoch only versioned).1 plain⟩
  rw [read_of_document .epoch only]
  exact accepted

/-- An empty bundle in YAML, its version as it is usually written. -/
def Bundle.unquotedSample : String :=
  "format_version: 1.0\nexported_at: 2024-01-01T00:00:00Z\nchecksum: abc\n"

/-- A version without quotes is a text where a bundle is read as it stands, and a number in its
    plain value, which is refused. -/
theorem Bundle.readers_differ_unquotedSample :
    (Datum.document? unquotedSample).any Datum.isVersioned = true ∧
      (Bundle.read .epoch unquotedSample).toOption.isSome = true ∧
      (RuleFile.read .epoch unquotedSample).toOption.isSome = false := by
  decide +kernel

/-- A bundle in JSON that repeats a name is refused as it stands, and in its plain value only the
    last member of that name is left. -/
example :
    let content := "\x7b\"format_version\": \"1.0\", \"exported_at\": \"2024-01-01T00:00:00Z\", " ++
      "\"checksum\": \"abc\", \"checksum\": \"def\"\x7d"
    (Bundle.read .epoch content).toOption.isSome = false ∧
      (RuleFile.read .epoch content).toOption.bind RuleFile.checksum = some "def" := by
  decide +kernel

/-- A member that no bundle has is skipped over where the bundle is read as it stands, though its
    value has half of a surrogate pair and a number that is too large. -/
example :
    let content := "\x7b\"format_version\": \"1.0\", \"exported_at\": \"2024-01-01T00:00:00Z\", " ++
      "\"checksum\": \"abc\", \"more\": [\"\\ud800\", 1e400]\x7d"
    (Bundle.read .epoch content).toOption.isSome = true ∧
      (RuleFile.read .epoch content).toOption.isSome = false := by
  decide +kernel

end Verdict

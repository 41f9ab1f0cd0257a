import Verdict.Bundle
import Verdict.Json.Reader

/-!
# Rule files

A rule file is YAML or JSON.  It holds a bundle, a list of rules, lists of entities by kind, or a
single rule; YAML files may hold several such documents.  `RuleFile.read` takes a file by way of
its plain value, `Bundle.read` reads a bundle as it stands.
-/

namespace Verdict

/-- A file format. -/
inductive Format where
  | yaml
  | json
  deriving Repr, DecidableEq

namespace Format

/-- The format that a file's name shows. -/
def ofPath? (path : String) : Option Format :=
  let lower := Text.toAsciiLower path
  if Text.endsWith lower ".yaml" || Text.endsWith lower ".yml" then some .yaml
  else if Text.endsWith lower ".json" then some .json
  else none

/-- The format that a text shows: JSON starts with a brace or a bracket. -/
def detect (content : String) : Format :=
  match content.toList.dropWhile Text.isBlank with
  | c :: _ => if c == '{' || c == '[' then .json else .yaml
  | [] => .yaml

end Format

namespace Datum

/-- The only document of a text in JSON, of which parts may have no value. -/
def ofJsonText? (content : String) : Option Datum :=
  (Json.scan? content).map .json

/-- The only document of a text in YAML. -/
def ofYamlText? (content : String) : Option Datum :=
  (Yaml.Node.read? content).map .yaml

/-- Reads a text in JSON as a value of a type. -/
def readJson {α : Type} (read : Datum → Option α) (content : String) : Except Failure α :=
  match (ofJsonText? content).bind read with
  | some a => .ok a
  | none => .error (.unserializable "malformed document")

/-- Reads a text in YAML as a value of a type. -/
def readYaml {α : Type} (read : Datum → Option α) (content : String) : Except Failure α :=
  match (ofYamlText? content).bind read with
  | some a => .ok a
  | none => .error (.unreadable .malformed)

/-- Reads a text in a format as a value of a type. -/
def readText {α : Type} (read : Datum → Option α) (format : Format) (content : String) :
    Except Failure α :=
  match format with
  | .json => readJson read content
  | .yaml => readYaml read content

end Datum

/-- What a rule file contributes, with the checksum if it was a bundle. -/
structure RuleFile where
  holdings : Holdings := {}
  checksum : Option String := none
  deriving Repr, BEq, Inhabited

namespace RuleFile

/-- The value of a type that a plain value stands for. -/
def convert {α : Type} (read : Datum → Option α) (j : Json) : Except Failure α :=
  match read (.json j) with
  | some a => .ok a
  | none => .error (.unreadable .malformed)

/-- What one document contributes. -/
def ofJson (now : Instant) (j : Json) : Except Failure RuleFile :=
  match j with
  | .null => .ok {}
  | .arr _ => do
      let rules ← convert (Datum.list? (Rule.ofDatum? now)) j
      return { holdings := { rules := rules } }
  | .obj members => do
      let has (name : String) : Bool := members.any fun (key, _) => key == name
      if has "format_version" then
        let b ← convert (Bundle.ofDatum? now) j
        return { holdings := b.holdings, checksum := some b.checksum }
      else if has "rules" || has "scoring_rules" || has "profiles" then
        let sections (d : Datum) :=
          (d.fields? Holdings.fieldNames).bind (Holdings.ofFields? now)
        return { holdings := ← convert sections j }
      else
        return { holdings := { rules := [← convert (Rule.ofDatum? now) j] } }
  | j => .error (.unreadable (.notRules j))

/-- The plain values of the documents of a text in YAML, without those that are null. -/
def yamlValues (content : String) : Except Failure (List Json) :=
  match (Yaml.Node.readAll? content).bind (List.mapM fun n => (Datum.yaml n).json?) with
  | some js => .ok (js.filter fun j => !j.isNull)
  | none => .error (.unreadable .malformed)

/-- The contributions of several documents together. -/
def join (files : List RuleFile) : RuleFile where
  holdings :=
    { rules := files.flatMap fun f => f.holdings.rules
      scoringRules := files.flatMap fun f => f.holdings.scoringRules
      profiles := files.flatMap fun f => f.holdings.profiles }

/-- Reads a rule file in a format. -/
def readAs (now : Instant) (format : Format) (content : String) : Except Failure RuleFile := do
  match format with
  | .json =>
      match Json.read? content with
      | some j => ofJson now j.normal
      | none => throw (.unserializable "malformed document")
  | .yaml =>
      match ← yamlValues content with
      | [j] => ofJson now j
      | js => return join (← js.mapM (ofJson now))

/-- Reads a rule file. -/
def read (now : Instant) (content : String) : Except Failure RuleFile :=
  readAs now (.detect content) content

/-- Accepts a rule file if nothing is wrong with its entities. -/
def validate (f : RuleFile) : Except Failure Unit :=
  accept f.holdings.issues ()

end RuleFile

/-- Reads a bundle, without looking at its checksum. -/
def Bundle.read (now : Instant) (content : String) : Except Failure Bundle :=
  Datum.readText (Bundle.ofDatum? now) (.detect content) content

end Verdict

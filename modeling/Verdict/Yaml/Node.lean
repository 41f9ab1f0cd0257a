import Verdict.Yaml.Token

/-!
# Nodes of YAML

`Node.readAll?` turns a text into its documents, each a tree of scalars, lists and maps.  An
alias stands for the node of the last anchor of its name; one that stands inside its own node
would unfold for ever and becomes `endless`.
-/

namespace Verdict.Yaml

/-- A node of a document.  The key of a map entry is the text of a scalar; a key of any other
    kind has none. -/
inductive Node where
  | void
  | endless
  | scalar (style : Style) (tag : Option String) (text : String)
  | list (tag : Option String) (items : List Node)
  | map (tag : Option String) (entries : List (Option String × Node))
  deriving Repr, Inhabited

namespace Node

/-- The empty scalar that stands where a node is left out. -/
def blank : Node := .scalar .plain none ""

/-- The text of a scalar. -/
def scalarText? : Node → Option String
  | .scalar _ _ text => some text
  | _ => none

end Node

/-- A node with the depth of its lists and maps and the number of aliases met on a walk over
    it. -/
structure Part where
  node : Node
  depth : Nat
  aliases : Nat
  deriving Inhabited

/-- What is known while a document is read: the tokens to come, the anchors so far, the last one
    first, the meaning of tag handles, and the number of signs read. -/
structure Outline where
  tokens : List Token
  anchors : List (Nat × String × Option Part)
  handles : List (String × String)
  events : Nat

/-- A step of reading. -/
abbrev Read := StateT Outline Option

namespace Read

/-- The next token. -/
def peek : Read (Option Token) := do
  return (← get).tokens.head?

/-- Moves over a token. -/
def advance : Read Unit :=
  modify fun o => { o with tokens := o.tokens.drop 1 }

/-- Counts signs of the document. -/
def count (n : Nat) : Read Unit :=
  modify fun o => { o with events := o.events + n }

/-- An empty scalar. -/
def blankPart : Read Part := do
  count 1
  return ⟨.blank, 0, 0⟩

/-- Whether the next token is one of the given ones. -/
def next? (ts : List Token) : Read Bool := do
  match ← peek with
  | some t => return ts.contains t
  | none => return false

/-- Takes the anchor and the tag before a node, in either order. -/
def properties : Read (Option String × Option (String × String)) := do
  match ← peek with
  | some (.anchor a) =>
      advance
      match ← peek with
      | some (.tag h s) => advance; return (some a, some (h, s))
      | _ => return (some a, none)
  | some (.tag h s) =>
      advance
      match ← peek with
      | some (.anchor a) => advance; return (some a, some (h, s))
      | _ => return (none, some (h, s))
  | _ => return (none, none)

/-- The full tag of a handle and a suffix; the handle must be known. -/
def fullTag : Option (String × String) → Read (Option String)
  | none => return none
  | some (handle, suffix) => do
      if handle.isEmpty then return some suffix
      match (← get).handles.lookup handle with
      | some lead => return some (lead ++ suffix)
      | none => failure

/-- Notes an anchor whose node is about to be read, and gives its number. -/
def openAnchor (name : Option String) : Read (Option Nat) := do
  match name with
  | none => return none
  | some name =>
      let o ← get
      let number := o.anchors.length
      set { o with anchors := (number, name, none) :: o.anchors }
      return some number

/-- Notes the node of an anchor. -/
def closeAnchor (number : Option Nat) (part : Part) : Read Unit := do
  match number with
  | none => return ()
  | some number =>
      modify fun o =>
        { o with
          anchors := o.anchors.map fun (i, name, old) =>
            (i, name, if i == number then some part else old) }

/-- The node of an alias. -/
def aliased (name : String) : Read Part := do
  count 1
  match (← get).anchors.find? fun (_, other, _) => other == name with
  | none => failure
  | some (_, _, none) => return ⟨.endless, 0, 0⟩
  | some (_, _, some part) => return { part with aliases := part.aliases + 1 }

/-- The depth of the deepest of some parts. -/
def deepest (parts : List Part) : Nat :=
  parts.foldl (fun d p => Nat.max d p.depth) 0

/-- The aliases in some parts. -/
def aliasCount (parts : List Part) : Nat :=
  parts.foldl (fun n p => n + p.aliases) 0

/-- A list made of parts. -/
def listPart (tag : Option String) (parts : List Part) : Part :=
  ⟨.list tag (parts.map Part.node), deepest parts + 1, aliasCount parts⟩

/-- A map made of parts. -/
def mapPart (tag : Option String) (parts : List (Part × Part)) : Part :=
  let all := parts.flatMap fun (k, v) => [k, v]
  ⟨.map tag (parts.map fun (k, v) => (k.node.scalarText?, v.node)), deepest all + 1,
    aliasCount all⟩

mutual

/-- Reads a node.  Block collections are allowed where `block` says so, and a list that is not
    indented where `flush` says so. -/
def node : Nat → Bool → Bool → Read Part
  | 0, _, _ => failure
  | fuel + 1, block, flush => do
      match ← peek with
      | some (.alias name) =>
          advance
          aliased name
      | _ =>
          let (anchor, short) ← properties
          let tag ← fullTag short
          let number ← openAnchor anchor
          let part ← content fuel block flush (anchor.isSome || short.isSome) tag
          closeAnchor number part
          return part

/-- Reads the content of a node after its anchor and tag. -/
def content : Nat → Bool → Bool → Bool → Option String → Read Part
  | 0, _, _, _, _ => failure
  | fuel + 1, block, flush, marked, tag => do
      match ← peek with
      | some .entry =>
          if flush then
            count 2
            return listPart tag (← flushItems fuel)
          else if marked then
            count 1
            return ⟨.scalar .plain tag "", 0, 0⟩
          else failure
      | some (.scalar style text) =>
          advance
          count 1
          return ⟨.scalar style (tag.filter fun t => t != "!") text, 0, 0⟩
      | some .flowList =>
          advance
          count 2
          return listPart tag (← flowItems fuel true)
      | some .flowMap =>
          advance
          count 2
          return mapPart tag (← flowEntries fuel true)
      | some .blockList =>
          if block then
            advance
            count 2
            return listPart tag (← blockItems fuel)
          else if marked then
            count 1
            return ⟨.scalar .plain tag "", 0, 0⟩
          else failure
      | some .blockMap =>
          if block then
            advance
            count 2
            return mapPart tag (← blockEntries fuel)
          else if marked then
            count 1
            return ⟨.scalar .plain tag "", 0, 0⟩
          else failure
      | _ =>
          if marked then
            count 1
            return ⟨.scalar .plain tag "", 0, 0⟩
          else failure

/-- Reads a node unless one of the given tokens comes next. -/
def nodeUnless : Nat → Bool → Bool → List Token → Read Part
  | 0, _, _, _ => failure
  | fuel + 1, block, flush, stops => do
      if ← next? stops then blankPart else node fuel block flush

/-- Reads the items of a block list. -/
def blockItems : Nat → Read (List Part)
  | 0 => failure
  | fuel + 1 => do
      match ← peek with
      | some .entry =>
          advance
          let item ← nodeUnless fuel true false [.entry, .blockEnd]
          return item :: (← blockItems fuel)
      | some .blockEnd => advance; return []
      | _ => failure

/-- Reads the items of a block list that is not indented. -/
def flushItems : Nat → Read (List Part)
  | 0 => failure
  | fuel + 1 => do
      match ← peek with
      | some .entry =>
          advance
          let item ← nodeUnless fuel true false [.entry, .key, .value, .blockEnd]
          return item :: (← flushItems fuel)
      | _ => return []

/-- Reads the entries of a block map. -/
def blockEntries : Nat → Read (List (Part × Part))
  | 0 => failure
  | fuel + 1 => do
      match ← peek with
      | some .key =>
          advance
          let stops := [Token.key, .value, .blockEnd]
          let key ← nodeUnless fuel true true stops
          let value ← (do
            if ← next? [.value] then
              advance
              nodeUnless fuel true true stops
            else blankPart)
          return (key, value) :: (← blockEntries fuel)
      | some .blockEnd => advance; return []
      | _ => failure

/-- Reads the items of a flow list. -/
def flowItems : Nat → Bool → Read (List Part)
  | 0, _ => failure
  | fuel + 1, first => do
      if ← next? [.flowListEnd] then
        advance
        return []
      if !first then
        if ← next? [.comma] then advance else failure
      match ← peek with
      | some .flowListEnd => advance; return []
      | some .key =>
          advance
          count 2
          let key ← (do
            if ← next? [.value, .comma, .flowListEnd] then
              advance
              blankPart
            else node fuel false false)
          let value ← (do
            if ← next? [.value] then
              advance
              nodeUnless fuel false false [.comma, .flowListEnd]
            else blankPart)
          return mapPart none [(key, value)] :: (← flowItems fuel false)
      | _ =>
          let item ← node fuel false false
          return item :: (← flowItems fuel false)

/-- Reads the entries of a flow map. -/
def flowEntries : Nat → Bool → Read (List (Part × Part))
  | 0, _ => failure
  | fuel + 1, first => do
      if ← next? [.flowMapEnd] then
        advance
        return []
      if !first then
        if ← next? [.comma] then advance else failure
      match ← peek with
      | some .flowMapEnd => advance; return []
      | some .key =>
          advance
          let key ← nodeUnless fuel false false [.value, .comma, .flowMapEnd]
          let value ← (do
            if ← next? [.value] then
              advance
              nodeUnless fuel false false [.comma, .flowMapEnd]
            else blankPart)
          return (key, value) :: (← flowEntries fuel false)
      | _ =>
          let key ← node fuel false false
          let value ← blankPart
          return (key, value) :: (← flowEntries fuel false)

end

/-- Reads the directives before a document: at most one version, which must be 1.1 or 1.2, and
    tag handles, each at most once. -/
def directives : Nat → Bool → List (String × String) → Read (List (String × String))
  | 0, _, _ => failure
  | fuel + 1, versioned, handles => do
      match ← peek with
      | some (.version major minor) =>
          if versioned || major != 1 || (minor != 1 && minor != 2) then failure
          advance
          directives fuel true handles
      | some (.tagHandle handle lead) =>
          if (handles.lookup handle).isSome then failure
          advance
          directives fuel versioned ((handle, lead) :: handles)
      | _ => return handles ++ [("!", "!"), ("!!", "tag:yaml.org,2002:")]

/-- The deepest nesting of lists and maps that is read. -/
def maxDepth : Nat := 128

/-- How often aliases may be met, for each sign of the document. -/
def aliasFactor : Nat := 100

/-- The node of a document, if it is not nested too deeply and its aliases do not multiply. -/
def checked (part : Part) : Read Node := do
  if part.depth ≤ maxDepth && part.aliases ≤ aliasFactor * (← get).events then return part.node
  else failure

/-- Reads a document's content.  A document whose start is written may be empty. -/
def document (written : Bool) (handles : List (String × String)) : Read Node := do
  modify fun o => { o with anchors := [], handles := handles, events := 0 }
  let fuel := 4 * (← get).tokens.length + 8
  let atEnd ← (do
    match ← peek with
    | none | some (.version ..) | some (.tagHandle ..) | some .documentStart
    | some .documentEnd => return true
    | _ => return false)
  let part ← if written && atEnd then blankPart else node fuel true false
  if ← next? [.documentEnd] then advance
  checked part

/-- Moves over signs of document ends. -/
def skipEnds : Nat → Read Unit
  | 0 => return ()
  | fuel + 1 => do
      if ← next? [.documentEnd] then
        advance
        skipEnds fuel

/-- Reads the documents after the first place where one may stand without a written start. -/
def documents : Nat → Read (List Node)
  | 0 => failure
  | fuel + 1 => do
      skipEnds (fuel + 1)
      if (← peek).isNone then return []
      let handles ← directives (fuel + 1) false []
      if ← next? [.documentStart] then advance else failure
      let n ← document true handles
      return n :: (← documents fuel)

/-- Reads all documents; the first needs no written start. -/
def stream : Read (List Node) := do
  let fuel := (← get).tokens.length + 1
  match ← peek with
  | none => return [.void]
  | some (.version ..) | some (.tagHandle ..) | some .documentStart => documents fuel
  | _ =>
      let n ← document false (← directives 1 false [])
      return n :: (← documents fuel)

end Read

/-- The documents of a text.  A text without any has one void document. -/
def Node.readAll? (text : String) : Option (List Node) := do
  let tokens ← Token.scan text.toList
  let (nodes, _) ← Read.stream.run ⟨tokens, [], [], 0⟩
  return nodes

/-- The only document of a text. -/
def Node.read? (text : String) : Option Node :=
  match Node.readAll? text with
  | some [n] => some n
  | _ => none

end Verdict.Yaml

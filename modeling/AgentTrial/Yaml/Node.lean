import AgentTrial.Document.Decode
import AgentTrial.Yaml.Token

/-!
# Node — tokens as a document

A document is a node: a scalar, a list or a record, in block or in flow style, with an anchor and a tag if it has them.
An alias stands for the node whose anchor has the number that the name had when the alias was read; the number of an
anchor is the number of names known before it.  Exactly one document is read.
-/

namespace AgentTrial.Yaml

/-- The state between two nodes. -/
structure Parser where
  tokens : List Token
  /-- The handles of tags and what they stand for. -/
  handles : List (String × String) := [("!", "!"), ("!!", "tag:yaml.org,2002:")]
  /-- The numbers of the anchors. -/
  anchors : List (String × Nat) := []
  /-- The nodes of the numbers. -/
  nodes : List (Nat × Datum) := []

/-- Reading with a state, or a refusal. -/
abbrev Parse (α : Type) := StateT Parser Option α

/-- The tags that make a scalar of whole lines stand for what its words say. -/
def valueTags : List String := ["int", "float", "bool"].map ("tag:yaml.org,2002:" ++ ·)

/-- A node with its tag. -/
def withTag (tag : Option String) (d : Datum) : Datum := tag.elim d (Datum.tagged · d)

/-- The datum of a scalar. -/
def scalarDatum (tag : Option String) (style : Style) (text : String) : Datum :=
  match style with
  | .plain => withTag tag (.plain text)
  | .literal => withTag tag (if tag.any valueTags.contains then .plain text else .text text)
  | _ => withTag tag (.text text)

/-- The empty scalar. -/
def emptyScalar : Datum := .plain ""

namespace Parser

/-- The next token. -/
def peek : Parse Token := do
  match (← get).tokens with
  | t :: _ => return t
  | [] => failure

/-- Drops the next token. -/
def skip : Parse Unit := modify fun p => { p with tokens := p.tokens.tail }

/-- Drops the next token, which has to be the given one. -/
def expect (t : Token) : Parse Unit := do
  if (← peek) = t then skip else failure

/-- The number for a new anchor. -/
def newAnchor (name : String) : Parse Nat := do
  let p ← get
  let n := p.anchors.length
  set { p with anchors := if p.anchors.any (·.1 = name)
    then p.anchors.map fun (k, m) => (k, if k = name then n else m)
    else (name, n) :: p.anchors }
  return n

/-- The node of an alias.  An alias inside the node that it names cannot be read. -/
def aliased (name : String) : Parse Datum := do
  let p ← get
  let n ← (p.anchors.find? (·.1 = name)).map (·.2)
  return (p.nodes.find? (·.1 = n)).elim (.refused .null) fun (_, d) => .repeated d.height d

/-- The tag of a handle and a suffix. -/
def resolveTag (handle suffix : String) : Parse String := do
  if handle.isEmpty then return suffix
  else
    let (_, start) ← (← get).handles.find? (·.1 = handle)
    return start ++ suffix

/-- The anchor and the tag in front of a node, in either order. -/
def properties : Parse (Option String × Option (String × String)) := do
  match ← peek with
  | .anchor name =>
    skip
    match ← peek with
    | .tag handle suffix =>
      skip
      return (some name, some (handle, suffix))
    | _ => return (some name, none)
  | .tag handle suffix =>
    skip
    match ← peek with
    | .anchor name =>
      skip
      return (some name, some (handle, suffix))
    | _ => return (none, some (handle, suffix))
  | _ => return (none, none)

/-- The deepest nesting that can be read. -/
def maxDepth : Nat := 128

/-- A collection at a depth. -/
def atDepth (depth : Nat) (d : Datum) : Datum := if depth ≤ maxDepth then d else .refused d

mutual

/-- A node.  In a block it may be a block collection, and after a key a list whose items are not indented. -/
def node (block unindented : Bool) (depth : Nat) : Nat → Parse Datum
  | 0 => failure
  | fuel + 1 => do
    match ← peek with
    | .alias name =>
      skip
      aliased name
    | _ =>
      let (anchor, tag) ← properties
      let number ← anchor.mapM newAnchor
      let tag ← tag.mapM fun (handle, suffix) => resolveTag handle suffix
      let tag := tag.filter fun t => !t.isEmpty
      let d ← content block unindented depth (anchor.isSome || tag.isSome) tag fuel
      match number with
      | some n =>
        modify fun p => { p with nodes := (n, d) :: p.nodes }
        return d
      | none => return d
termination_by structural fuel => fuel

/-- The content of a node; after an anchor or a tag it may be empty. -/
def content (block unindented : Bool) (depth : Nat) (mayBeEmpty : Bool) (tag : Option String) : Nat → Parse Datum
  | 0 => failure
  | fuel + 1 => do
    let collection (d : Parse Datum) : Parse Datum := return atDepth (depth + 1) (withTag tag (← d))
    match ← peek with
    | .entry =>
      if unindented then collection (.list .items <$> unindentedItems (depth + 1) fuel)
      else if mayBeEmpty then return withTag tag emptyScalar
      else failure
    | .scalar style text =>
      skip
      return scalarDatum (if tag = some "!" then none else tag) style text
    | .flowListStart =>
      skip
      collection (.list .items <$> flowItems true (depth + 1) fuel)
    | .flowRecordStart =>
      skip
      collection (.record <$> flowFields true (depth + 1) fuel)
    | .blockListStart =>
      if block then
        skip
        collection (.list .items <$> blockItems (depth + 1) fuel)
      else if mayBeEmpty then return withTag tag emptyScalar
      else failure
    | .blockRecordStart =>
      if block then
        skip
        collection (.record <$> blockFields (depth + 1) fuel)
      else if mayBeEmpty then return withTag tag emptyScalar
      else failure
    | _ => if mayBeEmpty then return withTag tag emptyScalar else failure
termination_by structural fuel => fuel

/-- The items of a block list. -/
def blockItems (depth : Nat) : Nat → Parse (List Datum)
  | 0 => failure
  | fuel + 1 => do
    match ← peek with
    | .entry =>
      skip
      let d ← match ← peek with
        | .entry => pure emptyScalar
        | .blockEnd => pure emptyScalar
        | _ => node true false depth fuel
      return d :: (← blockItems depth fuel)
    | .blockEnd =>
      skip
      return []
    | _ => failure
termination_by structural fuel => fuel

/-- The items of a list that is not indented. -/
def unindentedItems (depth : Nat) : Nat → Parse (List Datum)
  | 0 => failure
  | fuel + 1 => do
    match ← peek with
    | .entry =>
      skip
      let d ← match ← peek with
        | .entry => pure emptyScalar
        | .key => pure emptyScalar
        | .value => pure emptyScalar
        | .blockEnd => pure emptyScalar
        | _ => node true false depth fuel
      return d :: (← unindentedItems depth fuel)
    | _ => return []
termination_by structural fuel => fuel

/-- A key or a value of a block record, which is empty when the next mark follows at once. -/
def blockPart (depth : Nat) : Nat → Parse Datum
  | 0 => failure
  | fuel + 1 => do
    match ← peek with
    | .key => return emptyScalar
    | .value => return emptyScalar
    | .blockEnd => return emptyScalar
    | _ => node true true depth fuel
termination_by structural fuel => fuel

/-- The value of a block record, which may be missing. -/
def blockValue (depth : Nat) : Nat → Parse Datum
  | 0 => failure
  | fuel + 1 => do
    match ← peek with
    | .value =>
      skip
      blockPart depth fuel
    | _ => return emptyScalar
termination_by structural fuel => fuel

/-- The fields of a block record. -/
def blockFields (depth : Nat) : Nat → Parse (List (Datum × Datum))
  | 0 => failure
  | fuel + 1 => do
    match ← peek with
    | .key =>
      skip
      let k ← blockPart depth fuel
      let v ← blockValue depth fuel
      return (k, v) :: (← blockFields depth fuel)
    | .blockEnd =>
      skip
      return []
    | _ => failure
termination_by structural fuel => fuel

/-- The items of a flow list.  A key among them makes an item that is a record of one field. -/
def flowItems (first : Bool) (depth : Nat) : Nat → Parse (List Datum)
  | 0 => failure
  | fuel + 1 => do
    if (← peek) = .flowListEnd then
      skip
      return []
    else
      if !first then expect .comma
      match ← peek with
      | .flowListEnd =>
        skip
        return []
      | .key =>
        skip
        let (k, v) ← flowPair (depth + 1) fuel
        return atDepth (depth + 1) (.record [(k, v)]) :: (← flowItems false depth fuel)
      | _ =>
        let d ← node false false depth fuel
        return d :: (← flowItems false depth fuel)
termination_by structural fuel => fuel

/-- The field of an item that is a record.  A mark right after an empty key belongs to the key. -/
def flowPair (depth : Nat) : Nat → Parse (Datum × Datum)
  | 0 => failure
  | fuel + 1 => do
    let t ← peek
    let k ←
      if t = .value || t = .comma || t = .flowListEnd then do
        skip
        pure emptyScalar
      else node false false depth fuel
    match ← peek with
    | .value =>
      skip
      let t ← peek
      if t = .comma || t = .flowListEnd then return (k, emptyScalar)
      else return (k, ← node false false depth fuel)
    | _ => return (k, emptyScalar)
termination_by structural fuel => fuel

/-- The fields of a flow record. -/
def flowFields (first : Bool) (depth : Nat) : Nat → Parse (List (Datum × Datum))
  | 0 => failure
  | fuel + 1 => do
    if (← peek) = .flowRecordEnd then
      skip
      return []
    else
      if !first then expect .comma
      match ← peek with
      | .flowRecordEnd =>
        skip
        return []
      | .key =>
        skip
        let t ← peek
        let k ←
          if t = .value || t = .comma || t = .flowRecordEnd then pure emptyScalar
          else node false false depth fuel
        let v ← match ← peek with
          | .value => do
            skip
            let t ← peek
            if t = .comma || t = .flowRecordEnd then pure emptyScalar else node false false depth fuel
          | _ => pure emptyScalar
        return (k, v) :: (← flowFields false depth fuel)
      | _ =>
        let k ← node false false depth fuel
        return (k, emptyScalar) :: (← flowFields false depth fuel)
termination_by structural fuel => fuel

end

/-- The directives in front of a document: at most one version, of the first generation, and handles each once. -/
def directives : Nat → Bool → List String → Parse Unit
  | 0, _, _ => failure
  | fuel + 1, versioned, seen => do
    match ← peek with
    | .version major minor =>
      if versioned || major ≠ 1 || (minor ≠ 1 && minor ≠ 2) then failure
      else
        skip
        directives fuel true seen
    | .tagHandle handle start =>
      if seen.contains handle then failure
      else
        skip
        modify fun p => { p with handles := (handle, start) :: p.handles }
        directives fuel versioned (handle :: seen)
    | _ => return ()

/-- Drops the ends of documents. -/
def skipEnds : Nat → Parse Unit
  | 0 => failure
  | fuel + 1 => do
    if (← peek) = .documentEnd then
      skip
      skipEnds fuel
    else return ()

/-- The content of a document after its start mark, which may be empty. -/
def startedDocument (fuel : Nat) : Parse Datum := do
  match ← peek with
  | .version .. => return emptyScalar
  | .tagHandle .. => return emptyScalar
  | .documentStart => return emptyScalar
  | .documentEnd => return emptyScalar
  | .finish => return emptyScalar
  | _ => node true false 0 fuel

/-- The only document of a text; a text without one is empty. -/
def document (fuel : Nat) : Parse Datum := do
  let d ← match ← peek with
    | .finish => pure emptyScalar
    | .documentStart => do
      skip
      startedDocument fuel
    | .version .. => do
      directives fuel false []
      expect .documentStart
      startedDocument fuel
    | .tagHandle .. => do
      directives fuel false []
      expect .documentStart
      startedDocument fuel
    | _ => node true false 0 fuel
  skipEnds fuel
  expect .finish
  return d

end Parser

/-- The document of a text. -/
def read (s : String) : Option Datum := do
  let ts ← tokens s.toList
  let (d, _) ← (Parser.document (4 * ts.length + 8)).run { tokens := ts }
  return d

/-- Decodes the document of a text.  One that cannot be read is refused as malformed. -/
def ofText {α : Type} (decode : Datum → Except Cause α) (s : String) : Except Cause α :=
  match read s with
  | some d => decode d
  | none => .error .malformed

end AgentTrial.Yaml

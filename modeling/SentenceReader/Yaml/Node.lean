import SentenceReader.Yaml.Token

/-! The tree of a YAML text. A node that is named by an anchor stands in full wherever an alias
names it. -/
namespace SentenceReader.Yaml

/-- How the tag of a node is known. -/
inductive NodeTag where
  /-- It depends on the text of the scalar, or on the kind of collection. -/
  | implied
  /-- The scalar stands for its text. -/
  | quoted
  | named (tag : Text)
  deriving DecidableEq, Repr

inductive Node where
  | scalar (tag : NodeTag) (t : Text)
  | list (tag : NodeTag) (items : List Node)
  | mapping (tag : NodeTag) (entries : List (Node × Node))
  deriving Repr

/-- Where the reading of a tree stands. -/
structure NodeReader where
  tokens : List Token
  /-- What is wrong behind the last token, if anything is. -/
  fault : Option Fault := none
  /-- The handles of tags, with what they stand for. -/
  handles : List (Text × Text)
  /-- The nodes with anchors; a collection that is being read is an empty one so far. -/
  anchors : List (Text × Node) := []

namespace NodeReader

/-- Reading takes tokens, or fails. -/
abbrev Reading := StateT NodeReader (Except Fault)

/-- The namespace of the tags that YAML itself defines. -/
def coreTags : Text := "tag:yaml.org,2002:".toList

/-- The handles that are always there. -/
def standardHandles : List (Text × Text) := [(['!'], ['!']), (['!', '!'], coreTags)]

/-- Fails; the text is no YAML. -/
def fail {α : Type} : Reading α := throw .malformed

/-- The next token. What is wrong behind the last one counts only when that place is reached. -/
def peek : Reading Token := do
  let r ← get
  match r.tokens, r.fault with
  | t :: _, _ => return t
  | [], none => return .textEnd
  | [], some fault => throw fault

def skip : Reading Unit := modify fun r => { r with tokens := r.tokens.tail }

/-- Takes the next token if it is a given one. -/
def take (t : Token) : Reading Bool := do
  if (← peek) = t then
    skip
    return true
  else return false

def nothing : Node := .scalar .implied []

def takeAnchor? : Reading (Option Text) := do
  match ← peek with
  | .anchor name =>
    skip
    return some name
  | _ => return none

/-- Takes a tag, if there is one: its handle, and what follows that. -/
def takeTag? : Reading (Option (Option Text × Text)) := do
  match ← peek with
  | .tag handle suffix =>
    skip
    return some (handle, suffix)
  | _ => return none

/-- A tag with its handle replaced by what that stands for. -/
def resolve : Option (Option Text × Text) → Reading (Option Text)
  | none => return none
  | some (none, suffix) => return some suffix
  | some (some handle, suffix) => do
    match (← get).handles.lookup handle with
    | some start => return some (start ++ suffix)
    | none => fail

def collectionTag : Option Text → NodeTag
  | none => .implied
  | some t => if t = ['!'] then .implied else .named t

def scalarTag (plain : Bool) : Option Text → NodeTag
  | none => if plain then .implied else .quoted
  | some t => if t = ['!'] then .implied else .named t

def giveName (name : Option Text) (node : Node) : Reading Unit :=
  match name with
  | none => return ()
  | some name => modify fun r => { r with anchors := (name, node) :: r.anchors }

/-- Gives a name to a node that is about to be read; a name is not given twice. -/
def openName (name : Option Text) : Reading Unit := do
  match name with
  | none => return ()
  | some a => if ((← get).anchors.lookup a).isSome then fail else giveName name nothing

/-- Reads a collection. Inside it, its name stands for an empty one. -/
def collect {α : Type} (name : Option Text) (of : List α → Node)
    (read : Reading (List α)) : Reading Node := do
  giveName name (of [])
  let node := of (← read)
  giveName name node
  return node

def scalar (name : Option Text) (tag : NodeTag) (t : Text) : Reading Node := do
  giveName name (.scalar tag t)
  return .scalar tag t

def aliased (name : Text) : Reading Node := do
  match (← get).anchors.lookup name with
  | some node => return node
  | none => fail

mutual

/-- Reads a node; blocks and lists without indentation are not allowed everywhere. -/
def node (fuel : Nat) (block indentless : Bool) : Reading Node := do
  match fuel with
  | 0 => fail
  | fuel + 1 =>
    match ← peek with
    | .alias name =>
      skip
      aliased name
    | _ =>
      let first ← takeAnchor?
      let written ← takeTag?
      let second ← if first.isNone && written.isSome then takeAnchor? else pure none
      let tag ← resolve written
      let name := first <|> second
      let content ← peek
      openName name
      let named := name.isSome || tag.isSome
      let empty : Reading Node := if named then scalar name (scalarTag true tag) [] else fail
      match content with
      | .scalar plain t =>
        skip
        scalar name (scalarTag plain tag) t
      | .flowSequenceStart =>
        skip
        collect name (.list (collectionTag tag)) (flowItems fuel true)
      | .flowMappingStart =>
        skip
        collect name (.mapping (collectionTag tag)) (flowEntries fuel true)
      | .entry =>
        if indentless then collect name (.list (collectionTag tag)) (indentlessItems fuel)
        else empty
      | .sequenceStart =>
        if block then
          skip
          collect name (.list (collectionTag tag)) (blockItems fuel)
        else empty
      | .mappingStart =>
        if block then
          skip
          collect name (.mapping (collectionTag tag)) (blockEntries fuel)
        else empty
      | _ => empty

/-- Reads a node unless one of some tokens is next, where none is written. -/
def nodeUnless (fuel : Nat) (stops : List Token) (block indentless : Bool) : Reading Node := do
  match fuel with
  | 0 => fail
  | fuel + 1 =>
    if (← peek) ∈ stops then return nothing else node fuel block indentless

def blockItems (fuel : Nat) : Reading (List Node) := do
  match fuel with
  | 0 => fail
  | fuel + 1 =>
    if ← take .entry then
      let item ← nodeUnless fuel [.entry, .blockEnd] true false
      return item :: (← blockItems fuel)
    else if ← take .blockEnd then return []
    else fail

/-- Reads the items of a list that is no further in than the key in front of it. -/
def indentlessItems (fuel : Nat) : Reading (List Node) := do
  match fuel with
  | 0 => fail
  | fuel + 1 =>
    if ← take .entry then
      let item ← nodeUnless fuel [.entry, .key, .value, .blockEnd] true false
      return item :: (← indentlessItems fuel)
    else return []

def blockEntries (fuel : Nat) : Reading (List (Node × Node)) := do
  match fuel with
  | 0 => fail
  | fuel + 1 =>
    if ← take .key then
      let key ← nodeUnless fuel [.key, .value, .blockEnd] true true
      let value ←
        if ← take .value then nodeUnless fuel [.key, .value, .blockEnd] true true
        else pure nothing
      return (key, value) :: (← blockEntries fuel)
    else if ← take .blockEnd then return []
    else fail

/-- Reads the items of a list in brackets; one of them may be an entry of a mapping. -/
def flowItems (fuel : Nat) (first : Bool) : Reading (List Node) := do
  match fuel with
  | 0 => fail
  | fuel + 1 =>
    if ← take .flowSequenceEnd then return []
    if !first then
      if !(← take .flowEntry) then fail
    if ← take .key then
      let key ← nodeUnless fuel [.value, .flowEntry, .flowSequenceEnd] false false
      let value ←
        if ← take .value then nodeUnless fuel [.flowEntry, .flowSequenceEnd] false false
        else pure nothing
      return .mapping .implied [(key, value)] :: (← flowItems fuel false)
    else if ← take .flowSequenceEnd then return []
    else
      let item ← node fuel false false
      return item :: (← flowItems fuel false)

/-- Reads the entries of a mapping in brackets; a key may come without a value. -/
def flowEntries (fuel : Nat) (first : Bool) : Reading (List (Node × Node)) := do
  match fuel with
  | 0 => fail
  | fuel + 1 =>
    if ← take .flowMappingEnd then return []
    if !first then
      if !(← take .flowEntry) then fail
    if ← take .key then
      let key ← nodeUnless fuel [.value, .flowEntry, .flowMappingEnd] false false
      let value ←
        if ← take .value then nodeUnless fuel [.flowEntry, .flowMappingEnd] false false
        else pure nothing
      return (key, value) :: (← flowEntries fuel false)
    else if ← take .flowMappingEnd then return []
    else
      let key ← node fuel false false
      return (key, nothing) :: (← flowEntries fuel false)

end

/-- Takes the directives in front of a document; whether a version was given. -/
def directives : Nat → Bool → List (Text × Text) → Reading (List (Text × Text))
  | 0, _, found => return found
  | fuel + 1, versioned, found => do
    match ← peek with
    | .directive d =>
      skip
      match d with
      | .version major =>
        if versioned || major ≠ 1 then fail
        directives fuel true found
      | .handle handle start =>
        if (found.lookup handle).isSome then fail
        directives fuel versioned (found ++ [(handle, start)])
      | .unknown => directives fuel versioned found
    | _ => return found

def skipEnds : Nat → Reading Unit
  | 0 => return ()
  | fuel + 1 => do
    if ← take .documentEnd then skipEnds fuel

def atEdge : Reading Bool := do
  match ← peek with
  | .directive _ | .documentStart | .documentEnd | .textEnd => return true
  | _ => return false

def markedDocument (fuel : Nat) : Reading (Option Node) := do
  skipEnds fuel
  if (← peek) = .textEnd then return none
  let found ← directives fuel false []
  if !(← take .documentStart) then fail
  modify fun r => { r with handles := found ++ standardHandles }
  if ← atEdge then return some nothing else return some (← node fuel true false)

def document (fuel : Nat) : Reading (Option Node) := do
  let marked ←
    match ← peek with
    | .directive _ | .documentStart | .textEnd => pure true
    | _ => pure false
  let root ←
    if marked then markedDocument fuel
    else do pure (some (← node fuel true false))
  skipEnds fuel
  if (← peek) = .textEnd then return root
  let _ ← directives fuel false []
  let _ ← peek
  fail

end NodeReader

def Node.ofInput (input : Input) : Except Fault (Option Node) :=
  let (tokens, fault) := Token.ofInput input
  (NodeReader.document (3 * tokens.length + 6)).run'
    { tokens, fault, handles := NodeReader.standardHandles }

end SentenceReader.Yaml

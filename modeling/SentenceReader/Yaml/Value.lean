import SentenceReader.Encoding.Base64
import SentenceReader.Stream.Fault
import SentenceReader.Yaml.Node
import SentenceReader.Yaml.Scalar

/-! The data of a YAML text. Only the tags that YAML itself defines are known. The entries that are
merged into a mapping come before its own, which override them. Of several faults the one that is
least deep counts, and the first of those. -/
namespace SentenceReader.Yaml

namespace Node

/-- What kind of value the tag of a node asks for. -/
inductive ValueKind where
  | null
  | flag
  | whole
  | decimal
  | bytes
  | timestamp
  | ordered
  | pairs
  | set
  | text
  | list
  | mapping
  deriving DecidableEq, Repr

def knownTags : List (Text × ValueKind) :=
  [("null", ValueKind.null), ("bool", .flag), ("int", .whole), ("float", .decimal),
   ("binary", .bytes), ("timestamp", .timestamp), ("omap", .ordered), ("pairs", .pairs),
   ("set", .set), ("str", .text), ("seq", .list), ("map", .mapping)].map
    fun t => (NodeReader.coreTags ++ t.1.toList, t.2)

/-- The kind of value of a plain scalar, if it has one of its own. -/
def kindOfScalar? : ScalarKind → Option ValueKind
  | .null => some .null
  | .flag => some .flag
  | .whole => some .whole
  | .decimal => some .decimal
  | .timestamp => some .timestamp
  | .text => some .text
  | .merge | .value => none

def kind? : Node → Option ValueKind
  | scalar .implied t => kindOfScalar? (Scalar.kindOf t)
  | scalar .quoted _ => some .text
  | list .implied _ | list .quoted _ => some .list
  | mapping .implied _ | mapping .quoted _ => some .mapping
  | scalar (.named tag) _ | list (.named tag) _ | mapping (.named tag) _ => knownTags.lookup tag

/-- Whether a node is a plain scalar of a kind, or has the tag of that kind. -/
def isSpecial (kind : ScalarKind) (name : String) : Node → Bool
  | scalar .implied t => Scalar.kindOf t = kind
  | scalar (.named tag) _ | list (.named tag) _ | mapping (.named tag) _ =>
    tag = NodeReader.coreTags ++ name.toList
  | _ => false

/-- Whether a node is the key that merges. -/
def isMerge : Node → Bool := isSpecial .merge "merge"

def isValueKey : Node → Bool := isSpecial .value "value"

def entries? : Node → Option (List (Node × Node))
  | mapping _ entries => some entries
  | _ => none

/-- The entries that a node gives when it is merged: those of a mapping, or those of several
mappings, of which the earlier ones come last. -/
def merged? : Node → Option (List (Node × Node))
  | mapping _ entries => some entries
  | list _ items => (items.mapM entries?).map fun all => all.reverse.flatten
  | scalar _ _ => none

/-- The entries of a mapping with those that are merged in front of them. What cannot be merged
comes first of all, as the entry that it is. -/
def mergeEntries (entries : List (Node × Node)) : List (Node × Node) :=
  let merging := entries.filter fun e => isMerge e.1
  let own := entries.filter fun e => !isMerge e.1
  let bad := merging.filter fun e => (merged? e.2).isNone
  bad ++ (merging.filterMap fun e => merged? e.2).flatten ++ own

mutual

/-- The text that a scalar holds, or a mapping that stands for one. -/
def text? : Node → Option Text
  | scalar _ t => some t
  | list _ _ => none
  | mapping _ entries => textOfEntries? entries

def textOfEntries? : List (Node × Node) → Option Text
  | [] => none
  | (key, value) :: rest => if isValueKey key then text? value else textOfEntries? rest

end

mutual

/-- A tree in which all mappings are merged. -/
def merge : Node → Node
  | scalar tag t => scalar tag t
  | list tag items => list tag (mergeItems items)
  | mapping tag entries => mapping tag (mergeEntries (mergePairs entries))

def mergeItems : List Node → List Node
  | [] => []
  | n :: rest => merge n :: mergeItems rest

def mergePairs : List (Node × Node) → List (Node × Node)
  | [] => []
  | (key, value) :: rest => (merge key, merge value) :: mergePairs rest

end

def valueOf (kind : ValueKind) (t : Text) : Except Fault Data :=
  match kind with
  | .null => .ok .null
  | .flag => Scalar.flag t
  | .whole => Scalar.whole t
  | .decimal => Scalar.decimal t
  | .timestamp => Scalar.timestamp t
  | .text => .ok (.text t)
  | .bytes =>
    match Base64.decode? t with
    | some bytes =>
      if t.all (·.toNat < 0x80) then .ok (.bytes bytes) else .error .malformed
    | none => .error .malformed
  | .ordered | .pairs | .set | .list | .mapping => .error .malformed

/-- A value, with the faults that were met on the way and how deep they are. -/
abbrev Building := StateM (List (Nat × Fault))

/-- Notes a fault; the value does not count any more. -/
def blame (depth : Nat) (fault : Fault) : Building Data := do
  modify fun faults => faults ++ [(depth, fault)]
  return .null

/-- The value of a scalar, or of a mapping that stands for one. -/
def buildText (depth : Nat) (kind : ValueKind) (t : Option Text) : Building Data :=
  match t with
  | none => blame depth .malformed
  | some t =>
    match valueOf kind t with
    | .ok d => return d
    | .error fault => blame depth fault

/-- Notes that a value cannot be a key, if it cannot. -/
def checkKey (depth : Nat) (key : Data) : Building Unit := do
  if !key.isScalar then
    let _ ← blame depth .malformed

mutual

def build (depth : Nat) (node : Node) : Building Data :=
  match node, kind? node with
  | _, none => blame depth .malformed
  | list _ items, some .list => return .list (← buildItems (depth + 1) items)
  | list _ items, some .ordered | list _ items, some .pairs =>
    return .list (← buildPairs (depth + 1) items)
  | mapping _ entries, some .mapping => return .mapping (← buildEntries (depth + 1) [] entries)
  | mapping _ entries, some .set =>
    return .set ((← buildEntries (depth + 1) [] entries).map Prod.fst)
  | _, some .list | _, some .ordered | _, some .pairs | _, some .mapping | _, some .set =>
    blame (depth + 1) .malformed
  | mapping _ entries, some .timestamp =>
    blame depth (if (textOfEntries? entries).isSome then .dateOfMapping else .malformed)
  | node, some kind => buildText depth kind (text? node)

def buildItems (depth : Nat) : List Node → Building (List Data)
  | [] => return []
  | n :: rest => return (← build depth n) :: (← buildItems depth rest)

/-- The values of items that are mappings with one entry each. -/
def buildPairs (depth : Nat) : List Node → Building (List Data)
  | [] => return []
  | mapping _ [(key, value)] :: rest => do
    let pair := [← build depth key, ← build depth value]
    return .list pair :: (← buildPairs depth rest)
  | _ :: rest => do
    let d ← blame depth .malformed
    return d :: (← buildPairs depth rest)

/-- The values of entries, in place of those of the same keys. -/
def buildEntries (depth : Nat) (found : List (Data × Data)) :
    List (Node × Node) → Building (List (Data × Data))
  | [] => return found
  | (key, value) :: rest => do
    let k ← if isValueKey key then buildText depth .text (text? key) else build depth key
    checkKey depth k
    let v ← build depth value
    buildEntries depth (Data.setKey k v found) rest

end

def firstFault? (faults : List (Nat × Fault)) : Option Fault :=
  (faults.foldl (fun best f =>
    match best with
    | none => some f
    | some b => if f.1 < b.1 then some f else some b) none).map Prod.snd

def toData (node : Node) : Except Fault Data :=
  let (d, faults) := (build 0 (merge node)).run []
  match firstFault? faults with
  | none => .ok d
  | some fault => .error fault

end Node

/-- The data of a source. One without a document holds nothing. -/
def load (source : Source) : Except Fault Data := do
  match ← Node.ofInput (.ofSource source) with
  | none => return .null
  | some node => node.toData

end SentenceReader.Yaml

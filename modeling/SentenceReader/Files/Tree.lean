import SentenceReader.Files.Compressed
import SentenceReader.Host
import SentenceReader.Yaml.Value

/-! A host with some files: they are found by the names on the way to them. -/
namespace SentenceReader

/-- What a path can lead to. -/
inductive FileEntry where
  | bytes (content : List UInt8)
  | directory
  /-- A file that cannot be opened; holds what the system says of it. -/
  | barred (number : Nat) (words : String)
  deriving DecidableEq, Repr

/-- The files of a run, by the places where they are: the names on the way from the current
directory, or from a root, whose name is the first one then. -/
structure FileTree where
  entries : List (List Text × FileEntry) := []
  deriving DecidableEq, Repr

namespace FileTree

def startOf (path : Path) : List Text := if path.root.isEmpty then [] else [path.root]

/-- The name of the way back. -/
def back : Text := ['.', '.']

/-- Whether a place is the current directory, one above it, or a root. -/
def isAbove (place : List Text) : Bool :=
  place.all (· = back) || place.all fun name => name.head? = some '/'

/-- The entry at a place, a directory where only entries below it were given. -/
def entryAt? (tree : FileTree) (place : List Text) : Option FileEntry :=
  if isAbove place then some .directory
  else match tree.entries.reverse.lookup place with
    | some entry => some entry
    | none => if tree.entries.any fun e => place.isPrefixOf e.1 then some .directory else none

/-- Where a way from a place leads, step by step. -/
inductive Way where
  | found (entry : FileEntry)
  | missing
  | throughFile
  | tooLong

/-- How many bytes a text has where files are kept. -/
def sizeOfName (t : Text) : Nat := t.foldl (fun n c => n + c.utf8Size) 0

/-- The most bytes that a name on the way can have. -/
def nameLimit : Nat := 255

/-- The most bytes that a path can have. -/
def pathLimit : Nat := 4095

/-- The place of a name in a directory. The way back from a root leads to it again. -/
def step (place : List Text) (name : Text) : List Text :=
  if name ≠ back then place ++ [name]
  else if place.all (· = back) then place ++ [back]
  else if isAbove place then place
  else place.dropLast

def placeOf (path : Path) : List Text := path.parts.foldl step (startOf path)

def ofList (files : List (Text × FileEntry)) : FileTree :=
  ⟨files.map fun f => (placeOf (Path.ofText f.1), f.2)⟩

def follow (tree : FileTree) (place : List Text) : List Text → Way
  | [] => match tree.entryAt? place with
    | some entry => .found entry
    | none => .missing
  | name :: rest =>
    match tree.entryAt? place with
    | some .directory =>
      if nameLimit < sizeOfName name then .tooLong else follow tree (step place name) rest
    | some _ => .throughFile
    | none => .missing

def find (tree : FileTree) (path : Path) : Way :=
  if pathLimit < sizeOfName path.toText then .tooLong else tree.follow (startOf path) path.parts

def missing (path : Path) : SystemFault := ⟨2, "No such file or directory", path.toText⟩

def tooLong (path : Path) : SystemFault := ⟨36, "File name too long", path.toText⟩

/-- Whether something is at a path, which can be told only where no name is too long. -/
def contains (tree : FileTree) (path : Path) : Except SystemFault Bool :=
  match tree.find path with
  | .found _ => .ok true
  | .missing | .throughFile => .ok false
  | .tooLong => .error (tooLong path)

def openFile (tree : FileTree) (path : Path) : Except SystemFault Decoding.Content :=
  match tree.find path with
  | .found (.bytes bytes) => .ok { bytes }
  | .found .directory => .error ⟨21, "Is a directory", path.toText⟩
  | .found (.barred number words) => .error ⟨number, words, path.toText⟩
  | .missing => .error (missing path)
  | .throughFile => .error ⟨20, "Not a directory", path.toText⟩
  | .tooLong => .error (tooLong path)

/-- A host with the files of a tree. It has no further encodings, and every line can be written. -/
def host (tree : FileTree) : Host where
  contains := tree.contains
  openFile := tree.openFile
  expand := .expand
  decoder name := .error ("unknown encoding: ".toList ++ name)
  yaml := Yaml.load
  refusal? _ := none

end FileTree

end SentenceReader

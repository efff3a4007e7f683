import SentenceReader.Data.Basic
import SentenceReader.Files.Path
import SentenceReader.Yaml.Fault
import SentenceReader.Yaml.Source

/-! What a run relies on: the files that it can see, the decoders and the decompression that it can use,
the reading of YAML, and the output. Whatever they give, a run deals with it in the same way. -/
namespace SentenceReader

/-- What the system says of a path: the number of the fault, and its words. -/
structure SystemFault where
  number : Nat
  words : String
  path : Text
  deriving DecidableEq, Repr

def SystemFault.message (f : SystemFault) : Text :=
  "[Errno ".toList ++ Text.ofNat f.number ++ "] ".toList ++ f.words.toList ++ ':' :: ' '
    :: Text.quoted f.path

/-- Why a document cannot be opened. -/
inductive OpenFault where
  | system (fault : SystemFault)
  /-- There is no decoder of that name; holds what is said of it. -/
  | unknownEncoding (words : Text)
  /-- The path holds a character that ends a path. -/
  | nulInPath
  /-- The name of the encoding holds a character that ends a name. -/
  | nulInEncoding
  deriving DecidableEq, Repr

namespace OpenFault

def message : OpenFault → Text
  | system fault => fault.message
  | unknownEncoding words => words
  | nulInPath => "embedded null byte".toList
  | nulInEncoding => "embedded null character".toList

/-- Whether what was asked for is no path or no encoding at all. -/
def isMisuse : OpenFault → Bool
  | nulInPath | nulInEncoding => true
  | system _ | unknownEncoding _ => false

end OpenFault

/-- What a run relies on. -/
structure Host where
  /-- Whether something is at a path, if that can be told. -/
  contains : Path → Except SystemFault Bool
  openFile : Path → Except SystemFault Decoding.Content
  /-- What is inside a compressed document. -/
  expand : Decoding.Content → Decoding.Content
  /-- The decoder of a name that is none of the encodings known here, or what is said of the name. -/
  decoder : Text → Except Text Decoder
  /-- The data that YAML stands for. -/
  yaml : Yaml.Source → Except Yaml.Fault Data
  /-- What is said of a line that cannot be written, if it cannot. -/
  refusal? : Text → Option Text

structure OpenFile where
  start : Decoding
  content : Decoding.Content

namespace Host

variable (host : Host)

def decoding (name : Text) : Except OpenFault Decoding :=
  if name.contains '\x00' then .error .nulInEncoding
  else match Encoding.named? name with
    | some encoding => .ok (.ofEncoding encoding)
    | none =>
      match host.decoder name with
      | .ok decoder => .ok (.foreign decoder [])
      | .error words => .error (.unknownEncoding words)

/-- What can be read of the document at a path, whose name says whether it is kept in compressed form. -/
def contentAt (path : Path) (content : Decoding.Content) : Decoding.Content :=
  if path.isCompressed then host.expand content else content

/-- Opens the document at a path in an encoding. A missing file is reported before an unknown
encoding; that the encoding has no name at all is reported first, unless the document is compressed. -/
def openDocument (path : Path) (encoding : Text) : Except OpenFault OpenFile := do
  if encoding.contains '\x00' && !path.isCompressed then throw .nulInEncoding
  if path.toText.contains '\x00' then throw .nulInPath
  let content ← (host.openFile path).mapError .system
  let start ← host.decoding encoding
  return ⟨start, host.contentAt path content⟩

end Host

end SentenceReader

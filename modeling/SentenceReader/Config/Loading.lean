import SentenceReader.Config.Validation
import SentenceReader.Host

/-! Settings from YAML, in a text or in a file. -/
namespace SentenceReader

namespace Config

/-- Where settings are loaded from. -/
inductive Place where
  | text
  | file (path : Path)
  deriving DecidableEq, Repr

/-- Why settings could not be loaded. -/
inductive LoadFault where
  | notFound (path : Path)
  /-- It cannot be told whether there is a file. -/
  | unreachable (cause : SystemFault)
  | unopened (path : Path) (cause : SystemFault)
  /-- There is no mapping, and not nothing; holds what there is. -/
  | notAMapping (place : Place) (kind : String)
  | invalid (refusal : Refusal)
  /-- The YAML cannot be read, is not well-formed, or a value in it is wrong. -/
  | yaml (place : Place) (fault : Yaml.Fault)

namespace LoadFault

/-- The words for the file at a path that cannot be read. -/
def unreadableMessage (path : Path) (cause : Text) : Text :=
  "Cannot read config file ".toList ++ path.toText ++ ':' :: ' ' :: cause

def message : LoadFault → Text
  | notFound path => "Config file not found: ".toList ++ path.toText
  | unreachable cause => cause.message
  | unopened path cause => unreadableMessage path cause.message
  | notAMapping place kind =>
    (match place with
      | .text => "Config content".toList
      | .file path => "Config file ".toList ++ path.toText)
      ++ " must contain a YAML mapping, got <class '".toList ++ kind.toList ++ "'>".toList
  | invalid refusal => "Config validation failed: ".toList ++ refusal.message
  | yaml .text .malformed => "Invalid YAML content".toList
  | yaml (.file path) .malformed => "Invalid YAML in ".toList ++ path.toText
  | yaml .text fault => fault.message
  | yaml (.file path) fault => unreadableMessage path fault.message

/-- Whether the YAML is not well-formed, which is told without the details. -/
def isMalformed : LoadFault → Bool
  | yaml _ .malformed => true
  | _ => false

end LoadFault

section Loading

variable [PatternHost]

/-- The settings that some data asks for. Nothing asks for the usual ones. -/
def ofData (place : Place) (d : Data) : Except LoadFault Config :=
  let checked := fun args : Arguments => (ofArguments args).mapError .invalid
  match d with
  | .null => checked []
  | .mapping entries => checked (.ofEntries entries)
  | d => .error (.notAMapping place d.kind)

def ofYaml (host : Host) (place : Place) (source : Yaml.Source) : Except LoadFault Config :=
  match host.yaml source with
  | .error fault => .error (.yaml place fault)
  | .ok d => ofData place d

def loadText (host : Host) (t : Text) : Except LoadFault Config := ofYaml host .text (.text t)

def loadFile (host : Host) (written : Text) : Except LoadFault Config :=
  let path := Path.ofText written
  if path.toText.contains '\x00' then .error (.notFound path)
  else match host.contains path with
  | .error cause => .error (.unreachable cause)
  | .ok false => .error (.notFound path)
  | .ok true =>
    match host.openFile path with
    | .error cause => .error (.unopened path cause)
    | .ok content =>
      ofYaml host (.file path)
        (.file (Decoding.read (.blocks Yaml.Source.blockSize) (.ofEncoding .utf8) content))

end Loading

end Config

end SentenceReader

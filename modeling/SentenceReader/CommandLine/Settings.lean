import SentenceReader.CommandLine.Request
import SentenceReader.Config.Loading
import SentenceReader.Sentence.Segmenter

/-! The settings that a command line asks for: those of its file, if it names one, with those of its
switches in their place. -/
namespace SentenceReader.CommandLine

/-- Why there are no settings to read documents with. -/
inductive SettingsFault where
  | unloaded (fault : Config.LoadFault)
  | wrong (refusal : Config.Refusal)
  | unusable (fault : Fault)

namespace SettingsFault

def message : SettingsFault → Text
  | unloaded fault => fault.message
  | wrong refusal => refusal.message
  | unusable fault => fault.message

/-- Whether a run tells about a fault and ends; that a pattern is too large or too deep, or that it cannot
be told whether there is a file, is not foreseen. -/
def isForeseen : SettingsFault → Bool
  | wrong (.tooLarge _) => false
  | unloaded (.unreachable _) => false
  | _ => true

/-- Whether the message breaks off in front of what is wrong with a file. -/
def breaksOff : SettingsFault → Bool
  | unloaded fault => fault.isMalformed
  | _ => false

end SettingsFault

namespace Request

def updates (r : Request) : Arguments :=
  let given := fun (name : Text) (d : Data) => (ArgumentKey.name name, Argument.data d)
  let running := given Config.FieldName.tokenizer (.text TokenizerChoice.running.name)
  let options := given Config.FieldName.tokenizerOptions
  let tokens : Arguments :=
    if r.suppressEscaping then [running, options (.text "ptb3Escaping=false".toList)]
    else match r.tokenizerOptions with
      | some value => [running, options value]
      | none =>
        if r.printRawText then [running, options (.text "invertible=true".toList)]
        else if r.whitespaceTokenization then
          [given Config.FieldName.tokenizer (.text TokenizerChoice.tokenized.name),
           given Config.FieldName.sentenceDelimiters
            (.list ((({} : Config).sentenceDelimiters ++ [newlineWord]).map .text))]
        else []
  (r.xml.map (given Config.FieldName.elementFilter)).toList
    ++ (if r.noTokenization then [given Config.FieldName.explicitDelimiter (.text ['\n'])] else [])
    ++ (r.tag.map (given Config.FieldName.tagDelimiter)).toList
    ++ (if r.keepEmptySentences then [given Config.FieldName.keepEmptySentences (.bool true)]
        else [])
    ++ tokens

/-- The settings of the file that is named, or the usual ones. An empty name is none. -/
def baseSettings [PatternHost] (r : Request) (host : Host) : Except SettingsFault Config :=
  match r.config with
  | some (.text (c :: rest)) => (Config.loadFile host (c :: rest)).mapError .unloaded
  | _ => .ok {}

/-- The settings that are asked for. The options of a tokenizer are looked at right away. -/
def settings [PatternHost] (r : Request) (host : Host) : Except SettingsFault Config := do
  let base ← r.baseSettings host
  let config ← (base.override r.updates).mapError .wrong
  if config.tokenizerMaker.isNone then
    let _ ← config.makeTokenizer.mapError .unusable
  return config

def documentKind (r : Request) : DocumentKind := if r.xml.isSome then .markup else .plain

end Request

end SentenceReader.CommandLine

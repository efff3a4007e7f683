import SentenceReader.CommandLine.Switch
import SentenceReader.Data.Basic

/-! What a command line asks for. Files are named in one run of words; the values of switches stand
behind them or are written to them. -/
namespace SentenceReader.CommandLine

/-- What is asked for. A switch whose value is the mark itself has an empty list for a value. -/
structure Request where
  files : List Text := []
  /-- The names of elements to read, of a document with markup. -/
  xml : Option Data := none
  encoding : Data := .text "utf-8".toList
  printSentenceLengths : Bool := false
  noTokenization : Bool := false
  tag : Option Data := none
  keepEmptySentences : Bool := false
  /-- The file with settings. -/
  config : Option Data := none
  verbose : Bool := false
  suppressEscaping : Bool := false
  tokenizerOptions : Option Data := none
  printRawText : Bool := false
  whitespaceTokenization : Bool := false
  deriving Repr

namespace Request

def set (r : Request) (value : Data) : Switch → Request
  | .help => r
  | .xml => { r with xml := some value }
  | .encoding => { r with encoding := value }
  | .printSentenceLengths => { r with printSentenceLengths := true }
  | .noTokenization => { r with noTokenization := true }
  | .tag => { r with tag := some value }
  | .keepEmptySentences => { r with keepEmptySentences := true }
  | .config => { r with config := some value }
  | .verbose => { r with verbose := true }
  | .suppressEscaping => { r with suppressEscaping := true }
  | .tokenizerOptions => { r with tokenizerOptions := some value }
  | .printRawText => { r with printRawText := true }
  | .whitespaceTokenization => { r with whitespaceTokenization := true }

end Request

/-- Why a command line gives no request. -/
inductive Refusal where
  /-- It asks for help. -/
  | help
  | misused (fault : UsageFault)
  deriving DecidableEq, Repr

/-- Where the reading of a command line stands. -/
structure RequestReader where
  request : Request := {}
  /-- The alternatives that were set. -/
  chosen : List Switch := []
  /-- Whether the run of files has begun. -/
  begun : Bool := false
  /-- Whether the run of files has ended. -/
  ended : Bool := false
  /-- The words that mean nothing. -/
  unknown : List Text := []

namespace RequestReader

def set (r : RequestReader) (s : Switch) (value : Data) : Except Refusal RequestReader :=
  let others := Switch.alternatives.filter fun o => o ≠ s && r.chosen.contains o
  match Switch.alternatives.contains s, others with
  | true, other :: _ => .error (.misused (.notWith s other))
  | isAlternative, _ =>
    if s = .help then .error .help
    else .ok { r with
      request := r.request.set value s
      chosen := if isAlternative then s :: r.chosen else r.chosen }

def setAll : RequestReader → List Switch → Except Refusal RequestReader
  | r, [] => .ok r
  | r, s :: rest => (r.set s .null).bind fun r => setAll r rest

def valueOf (t : Text) : Data := if t = Word.markText then .list [] else .text t

/-- The switches of one letter each that are written behind each other. -/
def bundle (s : Switch) : Text → Except UsageFault (List Switch)
  | [] => .ok [s]
  | c :: rest =>
    match Switch.named? ['-', c] with
    | none => .error (.unwantedValue s (c :: rest))
    | some next => (bundle next rest).map (s :: ·)

/-- Sets a switch with the value that is written to it, if that can be. -/
def setWritten (r : RequestReader) (s : Switch) (short : Bool) (value : Text) :
    Except Refusal RequestReader :=
  if s.takesValue then r.set s (valueOf value)
  else if short && !value.isEmpty then
    match bundle s value with
    | .error fault => .error (.misused fault)
    | .ok switches => r.setAll switches
  else .error (.misused (.unwantedValue s value))

/-- Takes a plain word or the mark, for a file if it is in the run of files. -/
def takeFile (r : RequestReader) (file : Option Text) : RequestReader :=
  if r.ended then { r with unknown := r.unknown ++ [file.getD Word.markText] }
  else
    { r with
      begun := true
      request := { r.request with files := r.request.files ++ file.toList } }

def endFiles (r : RequestReader) : RequestReader := { r with ended := r.ended || r.begun }

def take : RequestReader → List Word → Except Refusal RequestReader
  | r, [] => .ok r
  | r, .plain t :: rest => take (r.takeFile (some t)) rest
  | r, .mark :: rest => take (r.takeFile none) rest
  | r, .unknown t :: rest =>
    let r := r.endFiles
    take { r with unknown := r.unknown ++ [t] } rest
  | r, .switch s short (some value) :: rest =>
    (r.endFiles.setWritten s short value).bind fun r => take r rest
  | r, .switch s _ none :: rest =>
    if s.takesValue then
      match rest with
      | .plain t :: rest => (r.endFiles.set s (valueOf t)).bind fun r => take r rest
      | _ => .error (.misused (.missingValue s))
    else (r.endFiles.set s .null).bind fun r => take r rest

end RequestReader

def Request.ofWords (words : List Text) : Except Refusal Request :=
  match Word.ofTexts words with
  | .error fault => .error (.misused fault)
  | .ok words =>
    match ({} : RequestReader).take words with
    | .error refusal => .error refusal
    | .ok r =>
      if r.unknown.isEmpty then .ok r.request else .error (.misused (.unknown r.unknown))

example : ((Request.ofWords ["-v".toList, "a".toList]).toOption.map Request.files) =
    some [['a']] := by decide +kernel

end SentenceReader.CommandLine

import SentenceReader.CommandLine.Settings
import SentenceReader.Document.Basic

/-! A run of the program: the sentences of its documents, one in a line, and what it tells beside
them. A run ends at the first document that cannot be read. -/
namespace SentenceReader.CommandLine

/-- What a run has written and done so far, the last of each kind first, and how many sentences it has
written. -/
structure Transcript where
  output : List Text := []
  notes : List Text := []
  sentences : Nat := 0
  /-- What it has tried to open: the files that are named, or the standard input. -/
  tried : List (Option Text) := []
  /-- The documents that it has opened, as it has left them. -/
  left : List Document := []

namespace Transcript

def print (t : Transcript) (line : Text) : Transcript :=
  { t with output := (line ++ ['\n']) :: t.output }

def note (t : Transcript) (line : Text) : Transcript :=
  { t with notes := (line ++ ['\n']) :: t.notes }

/-- The transcript with the entries of a log beside the output, if they are wanted. -/
def log (t : Transcript) (wanted : Bool) (events : List Event) : Transcript :=
  if wanted then (events.filterMap Event.log?).foldl (fun t e => t.note e.line) t else t

def attempt (t : Transcript) (source : Option Text) : Transcript :=
  { t with tried := source :: t.tried }

def leave (t : Transcript) (d : Document) : Transcript := { t with left := d.close :: t.left }

def outputText (t : Transcript) : Text := t.output.reverse.flatten

/-- All that was written beside the output. -/
def notesText (t : Transcript) : Text := t.notes.reverse.flatten

@[simp] theorem outputText_print (t : Transcript) (line : Text) :
    (t.print line).outputText = t.outputText ++ line ++ ['\n'] := by
  simp [print, outputText]

@[simp] theorem notesText_note (t : Transcript) (line : Text) :
    (t.note line).notesText = t.notesText ++ line ++ ['\n'] := by
  simp [note, notesText]

end Transcript

/-- What stands ready to be read where no files are named: bytes, or a text. -/
inductive StandardInput where
  | bytes (content : Decoding.Content)
  | text (t : Text)
  deriving DecidableEq, Repr

/-- Why a run ends early. -/
inductive RunFault where
  | document (fault : DocumentFault)
  /-- The standard input cannot be read in the encoding that is asked for. -/
  | unknownEncoding (cause : OpenFault)
  /-- What is given for an encoding is no name at all; holds what asked for it. -/
  | notAnEncoding (caller : String)
  /-- There are no settings to read documents with. -/
  | settings (fault : SettingsFault)
  /-- A line cannot be written; holds what is said of it. -/
  | unwritable (words : Text)

namespace RunFault

def message : RunFault → Text
  | document fault => fault.message
  | unknownEncoding cause => cause.message
  | notAnEncoding caller =>
    (caller ++ "() argument 'encoding' must be str or None, not list").toList
  | settings fault => fault.message
  | unwritable words => words

/-- Whether a run tells about a fault and ends; other faults are not foreseen. -/
def isForeseen : RunFault → Bool
  | document (.ofSequence (.misused _)) => false
  | document (.ofSequence (.notATokenizerMaker _)) => false
  | document (.unopened _ cause) => !cause.isMisuse
  | document _ => true
  | unknownEncoding _ | notAnEncoding _ | unwritable _ => false
  | settings fault => fault.isForeseen

end RunFault

inductive Ending where
  | done
  | failed
  | refused (refusal : Refusal)
  | stopped (fault : RunFault)

namespace Request

section Documents

variable (r : Request) (config : Config) (host : Host)

def standardDocument (input : StandardInput) : Except RunFault Document :=
  let ofSource := fun source : Decoding.Manner → TextStream =>
    (Document.ofSource Strategies.standard (.text r.documentKind.name) config
      fun manner => .ok (source manner)).mapError .document
  match input, r.encoding with
  | .text t, _ => ofSource fun _ => .ofText t
  | .bytes content, .text name =>
    match host.decoding name with
    | .ok start => ofSource fun manner => OpenFile.toStream manner ⟨start, content⟩
    | .error cause => .error (.unknownEncoding cause)
  | .bytes _, _ => .error (.notAnEncoding "TextIOWrapper")

def fileDocument (written : Text) : Except RunFault Document :=
  match r.encoding with
  | .text name =>
    (Document.ofPath Strategies.standard (.text r.documentKind.name) config host written name).mapError
      .document
  | _ =>
    let path := Path.ofText written
    if !path.isCompressed then .error (.notAnEncoding "open")
    else match host.openFile path with
      | .error cause => .error (.document (.unopened path.toText (.system cause)))
      | .ok _ => .error (.notAnEncoding "TextIOWrapper")

/-- Opens a document: the one in a file, or the one on the standard input. -/
def openSource (input : StandardInput) : Option Text → Except RunFault Document
  | none => r.standardDocument config host input
  | some written => r.fileDocument config host written

end Documents

/-- What a run reads: the files that are named, or else the standard input. -/
def sources (r : Request) : List (Option Text) :=
  if r.files.isEmpty then [none] else r.files.map some

def lineOf (r : Request) (s : Sentence) : Text :=
  if r.printRawText then s.rawLine else s.wordLine

/-- Tells how many tokens a sentence has, if that is asked for. -/
def tellLength (r : Request) (t : Transcript) (s : Sentence) : Transcript :=
  if r.printSentenceLengths then t.note ("Length:\t".toList ++ Text.ofNat s.length) else t

/-- Writes a sentence, and its length if that is asked for. -/
def write (r : Request) (t : Transcript) (s : Sentence) : Transcript :=
  (r.tellLength { t with sentences := t.sentences + 1 } s).print (r.lineOf s)

def tryWrite (r : Request) (host : Host) (t : Transcript) (s : Sentence) :
    Except RunFault Unit × Transcript :=
  match host.refusal? (r.lineOf s) with
  | some words => (.error (.unwritable words), r.tellLength t s)
  | none => (.ok (), r.write t s)

/-- Writes the sentences of a document, so many of them at most. -/
def writeSentences (r : Request) (host : Host) :
    Nat → Document → Transcript → Except RunFault Unit × Document × Transcript
  | 0, d, t => (.ok (), d, t)
  | fuel + 1, d, t =>
    let answer := d.next
    let t := t.log r.verbose answer.events
    match answer.result with
    | .ok s =>
      match r.tryWrite host t s with
      | (.ok (), t) => writeSentences r host fuel answer.document t
      | (.error fault, t) => (.error fault, answer.document, t)
    | .error (.ofSequence .exhausted) => (.ok (), answer.document, t)
    | .error fault => (.error (.document fault), answer.document, t)

section Run

variable [PatternHost] (r : Request) (host : Host)

/-- Writes all sentences of a document. There are no more of them than it has characters. -/
def writeAll (d : Document) (t : Transcript) : Except RunFault Unit × Document × Transcript :=
  let answer := d.read
  let t := t.log r.verbose answer.events
  match answer.result with
  | .error fault => (.error (.document fault), answer.document, t)
  | .ok _ =>
    r.writeSentences host (answer.document.reader.stream.rest.length + 1) answer.document t

/-- Writes the sentences of a document and leaves it, however that goes. -/
def writeDocument (d : Document) (t : Transcript) : Except RunFault Unit × Transcript :=
  let (result, d, t) := r.writeAll host d t
  (result, t.leave d)

def endWith (t : Transcript) (fault : RunFault) : Ending × Transcript :=
  if fault.isForeseen then (.failed, t.note ("Error: ".toList ++ fault.message))
  else (.stopped fault, t)

/-- The line at the end of a run that went well. -/
def summary (sentences : Nat) : Text :=
  "Read in ".toList ++ Text.ofNat sentences ++ " sentences.".toList

def writeDocuments (openSource : Option Text → Except RunFault Document) :
    List (Option Text) → Transcript → Ending × Transcript
  | [], t => (.done, t.note (summary t.sentences))
  | source :: rest, t =>
    let t := t.attempt source
    match openSource source with
    | .error fault => endWith t fault
    | .ok d =>
      match r.writeDocument host d t with
      | (.error fault, t) => endWith t fault
      | (.ok (), t) => writeDocuments openSource rest t

/-- Follows a request. -/
def run (input : StandardInput) : Ending × Transcript :=
  match r.settings host with
  | .error fault =>
    let words := "Error: ".toList ++ fault.message
    if fault.isForeseen then
      (.failed, { notes := [if fault.breaksOff then words else words ++ ['\n']] })
    else (.stopped (.settings fault), {})
  | .ok config => r.writeDocuments host (r.openSource config host input) r.sources {}

end Run

end Request

/-- Follows a command line. -/
def run [PatternHost] (words : List Text) (host : Host) (input : StandardInput) :
    Ending × Transcript :=
  match Request.ofWords words with
  | .error refusal => (.refused refusal, {})
  | .ok request => request.run host input

namespace Ending

def programName : Text := "docsegment".toList

/-- The number that a run gives back, unless it ends in a way that is not foreseen. -/
def code? : Ending → Option Nat
  | done => some 0
  | failed => some 1
  | refused .help => some 0
  | refused (.misused _) => some 2
  | stopped _ => none

/-- The line about a command line that cannot be followed. -/
def usageLine (fault : UsageFault) : Text :=
  programName ++ ": error: ".toList ++ fault.message

end Ending

end SentenceReader.CommandLine

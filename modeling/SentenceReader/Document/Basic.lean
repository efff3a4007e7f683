import SentenceReader.Document.Opening
import SentenceReader.Sentence.Regions

/-! Documents. A document is read once: its settings can change until its sentences are asked for,
and from then on the sequence of its sentences owns its stream. -/
namespace SentenceReader

/-- How the sentences of a document are found. -/
inductive Strategy where
  /-- In all of its text. -/
  | wholeText
  /-- In its regions, one by one. -/
  | regions
  deriving DecidableEq, Repr

/-- How the text is asked for: where all of it counts line by line, and in blocks otherwise. -/
def Strategy.manner : Strategy → Decoding.Manner
  | wholeText => .lines
  | regions => .blocks TextStream.blockLimit

abbrev Strategies := DocumentKind → Option Strategy

namespace Strategies

/-- Plain documents are read whole, and marked-up ones by regions. -/
def standard : Strategies
  | .plain => some .wholeText
  | .markup => some .regions

def set (strategies : Strategies) (kind : DocumentKind) (s : Option Strategy) : Strategies :=
  fun k => if k = kind then s else strategies k

end Strategies

/-- What is read from a document: its stream at first, and then its sentences. -/
inductive DocumentReader where
  | waiting (stream : TextStream)
  | wholeText (sentences : Segmenter)
  | regions (sentences : RegionSegmenter)

namespace DocumentReader

def stream : DocumentReader → TextStream
  | waiting stream => stream
  | wholeText s => s.stream
  | regions s => s.stream

def mapStream (f : TextStream → TextStream) : DocumentReader → DocumentReader
  | waiting stream => waiting (f stream)
  | wholeText s => wholeText (s.mapStream f)
  | regions s => regions (s.mapStream f)

@[simp] theorem stream_mapStream (f : TextStream → TextStream) (r : DocumentReader) :
    (r.mapStream f).stream = f r.stream := by
  cases r with
  | waiting s => rfl
  | wholeText s => simp [mapStream, stream, Segmenter.mapStream, Segmenter.stream]
  | regions s => simp [mapStream, stream, RegionSegmenter.mapStream, RegionSegmenter.stream]

end DocumentReader

structure Document where
  kind : DocumentKind
  strategy : Strategy
  config : Config
  reader : DocumentReader
  /-- Whether its sentences were asked for. -/
  started : Bool := false

namespace Document

/-- What a call on a document gives: its result, the document afterwards, and what happened. -/
structure Answer (α : Type) where
  result : Except DocumentFault α
  document : Document
  events : List Event := []

def kindOf (d : Data) : Except DocumentFault DocumentKind :=
  match d with
  | .text t =>
    match DocumentKind.named? t with
    | some kind => .ok kind
    | none => .error (.unknownKind d.shown)
  | d => .error (.unknownKind d.shown)

/-- A document over a stream that can be had, or not, for the way in which it is read; what is wrong
with the kind counts first. -/
def ofSource (strategies : Strategies) (kind : Data) (config : Config)
    (source : Decoding.Manner → Except DocumentFault TextStream) : Except DocumentFault Document := do
  let kind ← kindOf kind
  match strategies kind with
  | none => throw (.noStrategy kind)
  | some strategy =>
    return { kind, strategy, config, reader := .waiting (← source strategy.manner) }

def ofStream (strategies : Strategies) (kind : Data) (config : Config) :
    Option TextStream → Except DocumentFault Document
  | none => .error (.ofSequence .noSource)
  | some stream => ofSource strategies kind config fun _ => .ok stream

def ofPath (strategies : Strategies) (kind : Data) (config : Config) (host : Host)
    (written encoding : Text) : Except DocumentFault Document :=
  ofSource strategies kind config fun manner =>
    (host.openPath written encoding).map (OpenFile.toStream manner)

def isClosed (d : Document) : Bool := d.reader.stream.closed

/-- Replaces settings, as long as the sentences were not asked for. -/
def configure [PatternHost] (d : Document) (updates : Arguments) : Answer Config :=
  if (updates.find? "self".toList).isSome then ⟨.error .takenName, d, []⟩
  else if d.started then ⟨.error .started, d, []⟩
  else match d.config.override updates with
    | .error refusal => ⟨.error (.settings refusal), d, []⟩
    | .ok config => ⟨.ok config, { d with config }, []⟩

def sentences [PatternHost] (d : Document) : Except Fault DocumentReader × List Event :=
  match d.strategy with
  | .wholeText =>
    let (result, events) := Segmenter.ofStream d.config d.reader.stream
    (result.map .wholeText, events)
  | .regions => ((RegionSegmenter.ofStream d.config d.reader.stream).map .regions, [])

/-- Asks for the sentences, which can be done once, whether it goes well or not. -/
def read [PatternHost] (d : Document) : Answer Strategy :=
  if d.started then ⟨.error .alreadyRead, d, []⟩
  else
    let (result, events) := d.sentences
    let d := { d with started := true }
    let events := .documentOpened d.kind :: events
    match result with
    | .error fault => ⟨.error (.ofSequence fault), d, events⟩
    | .ok reader => ⟨.ok d.strategy, { d with reader }, events⟩

def answer {σ α : Type} (d : Document) (f : σ → DocumentReader) (r : Reply σ α) : Answer α where
  result := r.result.mapError .ofSequence
  document := { d with reader := f r.state }
  events := r.events

def hasNext (d : Document) : Answer Bool :=
  match d.reader with
  | .waiting _ => ⟨.error .notRead, d, []⟩
  | .wholeText s => d.answer .wholeText s.hasNext
  | .regions s => d.answer .regions s.hasNext

def next (d : Document) : Answer Sentence :=
  match d.reader with
  | .waiting _ => ⟨.error .notRead, d, []⟩
  | .wholeText s => d.answer .wholeText s.next
  | .regions s => d.answer .regions s.next

def isReading (d : Document) : Bool :=
  match d.reader with
  | .waiting _ => false
  | _ => true

def close (d : Document) : Document :=
  if d.isClosed then d else { d with reader := d.reader.mapStream TextStream.release }

/-- A document that was closed has a closed stream. -/
theorem isClosed_close (d : Document) : d.close.isClosed = true := by
  unfold close
  split
  · assumption
  · simp [isClosed]

end Document

end SentenceReader

import SentenceReader.Fault
import SentenceReader.Record.Log

/-! What happens while a document is read, in the order in which it happens. An event may show in a
log, in counts and measures, or in both. -/
namespace SentenceReader

inductive DocumentKind where
  | plain
  | markup
  deriving DecidableEq, Repr, Inhabited

namespace DocumentKind

def name : DocumentKind → Text
  | plain => "plain".toList
  | markup => "xml".toList

def named? (t : Text) : Option DocumentKind :=
  [plain, markup].find? fun k => k.name == t

end DocumentKind

/-- Something that happens while a document is read. -/
inductive Event where
  | documentOpened (kind : DocumentKind)
  /-- A region was taken up; holds its number from one, and the length of its text. -/
  | regionOpened (index length : Nat)
  /-- A sentence was finished; holds how many tokens it has. -/
  | sentenceFinished (length : Nat)
  /-- The stream could not be read; holds the regions taken up so far, where there are regions. -/
  | readFailed (message : Text) (regions : Option Nat)
  /-- The stream was closed at the end; holds the regions taken up, where there are regions. -/
  | streamReleased (regions : Option Nat)
  /-- A maker of tokenizers was asked for one, with these options. -/
  | tokenizerAsked (options : Text)
  deriving DecidableEq, Repr

/-- A count that went up, or a value that was measured. -/
inductive Measure where
  | count (name : Text) (amount : Nat)
  | value (name : Text) (value : Nat)
  deriving DecidableEq, Repr

namespace Event

def regionsDetail (regions : Option Nat) : List (Text × Data) :=
  (regions.map fun n => ("regions".toList, Data.int n)).toList

def log? : Event → Option LogEntry
  | documentOpened kind =>
    some ⟨.info, "document_opened".toList, [("doc_type".toList, .text kind.name)]⟩
  | regionOpened index length =>
    some ⟨.info, "region_opened".toList,
      [("index".toList, .int index), ("length".toList, .int length)]⟩
  | sentenceFinished _ => none
  | readFailed message regions =>
    some ⟨.error, "Read failed".toList, ("error".toList, .text message) :: regionsDetail regions⟩
  | streamReleased regions => some ⟨.info, "stream_released".toList, regionsDetail regions⟩
  | tokenizerAsked _ => none

def measures : Event → List Measure
  | regionOpened _ _ => [.count "docsegment.regions".toList 1]
  | sentenceFinished length =>
    [.count "docsegment.sentences".toList 1, .value "docsegment.sentence_length".toList length]
  | _ => []

end Event

/-- What a call on a sequence gives: its result, the sequence afterwards, and what happened. -/
structure Reply (σ α : Type) where
  result : Except Fault α
  state : σ
  events : List Event := []

namespace Reply

variable {σ τ α β : Type}

/-- The reply of a sequence that is part of another one. -/
def mapState (f : σ → τ) (r : Reply σ α) : Reply τ α := ⟨r.result, f r.state, r.events⟩

def after (events : List Event) (r : Reply σ α) : Reply σ α := { r with events := events ++ r.events }

/-- A call that is made when another one went well. -/
def andThen (r : Reply σ α) (next : α → σ → Reply σ β) : Reply σ β :=
  match r.result with
  | .error fault => ⟨.error fault, r.state, r.events⟩
  | .ok a => (next a r.state).after r.events

end Reply

end SentenceReader

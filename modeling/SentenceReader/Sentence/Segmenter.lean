import SentenceReader.Config.Basic
import SentenceReader.Record.Event
import SentenceReader.Token.Tagged
import SentenceReader.Token.Tokenizer

/-! Sentences from tokens. A sentence ends at a delimiter and takes the closing marks behind it;
the first token behind these is carried over to the next sentence. With one delimiter that is given
explicitly nothing follows it, and a sentence ends right there. -/
namespace SentenceReader

/-- Where sentences end, and what they hold. -/
structure SentenceRules where
  /-- The words that end a sentence. -/
  delimiters : List Text
  /-- The words that belong to the sentence that ends in front of them. -/
  followers : List Text
  /-- The word of the tokens that stand for newlines. -/
  newlineMark : Text
  tagDelimiter : Option Text
  keepEmpty : Bool
  deriving DecidableEq, Repr

namespace SentenceRules

/-- The closing brackets and quotes that follow the end of a sentence. -/
def closingMarks : List Text :=
  [[')'], [']'], ['"'], ['\''], ['\'', '\''], "-RRB-".toList, "-RSB-".toList, "-RCB-".toList,
   ['”'], ['’']]

def ends (r : SentenceRules) (t : Token) : Bool := r.delimiters.contains t.word

/-- Whether a token belongs to the sentence that ends in front of it. -/
def follows (r : SentenceRules) (t : Token) : Bool := r.followers.contains t.word

/-- Whether a token is part of a sentence: white space and newlines are not. -/
def isContent (r : SentenceRules) (t : Token) : Bool :=
  !(Text.isBlankText t.word || t.isNewline || t.word == r.newlineMark)

def mark (r : SentenceRules) (t : Token) : Token := Tagged.mark r.tagDelimiter t

def newlinesEnd (explicit : Option Text) : Bool := explicit.any Text.isBlankText

def delimitersOf (c : Config) : List Text :=
  match c.explicitDelimiter with
  | some d => [d]
  | none => c.sentenceDelimiters

def followersOf (c : Config) : List Text :=
  if c.explicitDelimiter.isSome then [] else closingMarks

/-- The rules of some settings, for tokens with a given word for newlines that may end sentences. -/
def ofConfig (c : Config) (newlinesEnd : Bool) (newlineMark : Text) : SentenceRules where
  delimiters := if newlinesEnd then newlineMark :: delimitersOf c else delimitersOf c
  followers := followersOf c
  newlineMark := newlineMark
  tagDelimiter := c.tagDelimiter
  keepEmpty := c.keepEmptySentences

/-- Takes tokens to the end of a sentence, behind those taken in reverse order; `ended` says that
its delimiter was met. Gives the tokens of the sentence and the one to carry over. -/
def gather (r : SentenceRules) (source : TokenSource) (taken : List Token) (ended : Bool) :
    Except Fault (Sentence × Option Token) × TokenSource :=
  match _h : source.next? with
  | (.error fault, source) => (.error fault, source)
  | (.ok none, source) => (.ok (taken.reverse, none), source)
  | (.ok (some t), next) =>
    let t := r.mark t
    if ended && !r.ends t && !r.follows t then (.ok (taken.reverse, some t), next)
    else
      let taken := if r.isContent t then t :: taken else taken
      let ended := ended || r.ends t
      if ended && r.followers.isEmpty then
        if !taken.isEmpty || r.keepEmpty then (.ok (taken.reverse, none), next)
        else gather r next taken false
      else gather r next taken ended
termination_by (source.stream.rest.length, source.waiting)
decreasing_by all_goals
  rcases TokenSource.nearer_of_next? _h with h | ⟨h, h'⟩
  · exact Prod.Lex.left _ _ h
  · rw [h]
    exact Prod.Lex.right _ h'

end SentenceRules

/-- The tokenizer that settings ask for; tokenized text as it is needs none. -/
def Config.makeTokenizer (c : Config) : Except Fault (Option Tokenizer) :=
  match c.tokenizer with
  | .running => (Tokenizer.ofRunning c.tokenizerOptions).map some
  | .spaced => (Tokenizer.ofSpaced c.tokenizerOptions).map some
  | .tokenized => .ok none

/-- The sentences of a stream, one by one. -/
structure Segmenter where
  rules : SentenceRules
  escaper : Option Escaper := none
  source : TokenSource
  /-- The token that starts the next sentence, where one was read already. -/
  carried : Option Token := none
  /-- The next sentence, where it was looked for already. -/
  ready : Option Sentence := none
  /-- Whether no sentences are left, or reading has failed; the stream is closed then. -/
  finished : Bool := false

namespace Segmenter

def ofSource (c : Config) (newlinesEnd : Bool) (source : TokenSource) : Segmenter where
  rules := .ofConfig c newlinesEnd source.newlineMark
  escaper := c.escaper
  source := source

/-- The tokens of a stream, as some settings ask for; newlines are tokens where they end
sentences. -/
def tokensOf (c : Config) (stream : TextStream) (newlinesEnd : Bool) : Except Fault TokenSource := do
  match ← c.makeTokenizer with
  | some tokenizer => tokenizer.tokensOf stream (if newlinesEnd then "tokenizeNLs".toList else [])
  | none => return .spaced { stream, newlines := newlinesEnd }

/-- Whether newlines end sentences under some settings. Tokenized text as it is has them end
sentences where a newline is a delimiter, all other text where the explicit delimiter is blank. -/
def newlinesEnd (c : Config) : Bool :=
  if c.tokenizerMaker.isNone && c.tokenizer = .tokenized then
    (SentenceRules.delimitersOf c).contains newlineWord
  else SentenceRules.newlinesEnd c.explicitDelimiter

/-- A segmenter over a stream, or the fault of its settings, and what happens at that. -/
def ofStream (c : Config) (stream : TextStream) : Except Fault Segmenter × List Event :=
  match c.tokenizerMaker with
  | some (.given tokens mark) =>
    (.ok (ofSource c (newlinesEnd c) (.given tokens mark stream)),
      [.tokenizerAsked (if newlinesEnd c then "tokenizeNLs".toList else [])])
  | some (.unusable kind) => (.error (.notATokenizerMaker kind), [])
  | none => ((tokensOf c stream (newlinesEnd c)).map (ofSource c (newlinesEnd c)), [])

def stream (s : Segmenter) : TextStream := s.source.stream

def mapStream (f : TextStream → TextStream) (s : Segmenter) : Segmenter :=
  { s with source := s.source.mapStream f }

def finish (s : Segmenter) : Segmenter := { s.mapStream TextStream.release with finished := true }

/-- Takes the tokens of the next sentence, if there is one. Tokens that were taken when reading
fails are lost. -/
def build (s : Segmenter) : Except Fault (Option Sentence) × Segmenter :=
  let start : Except Fault Bool × TokenSource :=
    if s.carried.isSome then (.ok true, s.source) else s.source.hasNext
  match start with
  | (.error fault, source) => (.error fault, { s with source })
  | (.ok false, source) => (.ok none, { s with source })
  | (.ok true, source) =>
    match s.rules.gather source s.carried.toList false with
    | (.error fault, source) => (.error fault, { s with source, carried := none })
    | (.ok (sentence, carried), source) =>
      let isNone := sentence.isEmpty && carried.isNone && !s.rules.keepEmpty
      (.ok (if isNone then none else some sentence), { s with source, carried })

def escape (s : Segmenter) (sentence : Sentence) : Sentence :=
  match s.escaper with
  | none => sentence
  | some e => e.apply sentence

/-- Looks for the next sentence unless it was found already. At the end, and where reading fails,
the stream is closed. -/
def fill (s : Segmenter) : Reply Segmenter Unit :=
  if s.ready.isSome || s.finished then ⟨.ok (), s, []⟩
  else match s.build with
    | (.error fault, s) =>
      if fault.isUnreadable then
        ⟨.error fault, s.finish, [.readFailed fault.message none, .streamReleased none]⟩
      else ⟨.error fault, s, []⟩
    | (.ok none, s) => ⟨.ok (), s.finish, [.streamReleased none]⟩
    | (.ok (some sentence), s) =>
      let sentence := s.escape sentence
      ⟨.ok (), { s with ready := some sentence }, [.sentenceFinished sentence.length]⟩

def hasNext (s : Segmenter) : Reply Segmenter Bool :=
  s.fill.andThen fun _ s => ⟨.ok s.ready.isSome, s, []⟩

/-- The next sentence; that there is none is a fault. -/
def next (s : Segmenter) : Reply Segmenter Sentence :=
  s.fill.andThen fun _ s =>
    match s.ready with
    | none => ⟨.error .exhausted, s, []⟩
    | some sentence => ⟨.ok sentence, { s with ready := none }, []⟩

end Segmenter

end SentenceReader

import SentenceReader.Fault
import SentenceReader.Stream.Basic
import SentenceReader.Token.Escape
import SentenceReader.Token.Lexeme

/-! Tokens of running text, read line by line. A token is given out when the next one is known,
so that the white space behind it is complete. -/
namespace SentenceReader

/-- What the tokens of running text show. -/
structure LexedOptions where
  /-- Every newline is a token. -/
  newlines : Bool := false
  /-- Brackets and double quotes have their treebank spelling. -/
  escaping : Bool := true
  /-- Tokens keep their characters and the white space around them. -/
  invertible : Bool := false
  deriving DecidableEq, Repr

namespace LexedOptions

def known : List Text := ["tokenizeNLs", "ptb3Escaping", "invertible"].map String.toList

def ofTable (table : OptionTable) : LexedOptions where
  newlines := table.flag "tokenizeNLs".toList false
  escaping := table.flag "ptb3Escaping".toList true
  invertible := table.flag "invertible".toList false

def read (written : Text) : Except Fault LexedOptions :=
  match OptionTable.read known written with
  | .ok table => .ok (ofTable table)
  | .error key => .error (.unknownOption key known)

end LexedOptions

/-- The word of the tokens that stand for newlines in running text. -/
def newlineMark : Text := "*NL*".toList

/-- White space of a line, or a word of it with the characters that it comes from. -/
inductive LinePart where
  | space (run : Text)
  | word (word raw : Text) (isNewline : Bool)
  deriving DecidableEq, Repr

namespace LinePart

/-- How a lexeme is spelt. A straight double quote is spelt by what stands before it. -/
def spell (o : LexedOptions) (raw : Text) (opening : Bool) : Text :=
  if !o.escaping then raw
  else if raw = ['"'] then (if opening then Treebank.openQuote else Treebank.closeQuote)
  else if raw = ['“'] then Treebank.openQuote
  else if raw = ['”'] then Treebank.closeQuote
  else Treebank.escapeWord raw

/-- White space as its runs between newlines, with a word for each newline. -/
def ofBreaks : List Text → List LinePart
  | [] => []
  | [run] => [space run]
  | run :: rest => space run :: word newlineMark ['\n'] true :: ofBreaks rest

/-- White space, in which every newline is a word where newlines are tokens. -/
def ofGap (o : LexedOptions) (gap : Text) : List LinePart :=
  if o.newlines then ofBreaks (Text.fields '\n' gap) else [space gap]

/-- The words of a lexeme: its stem and its ending if it has one. -/
def ofRaw (o : LexedOptions) (raw : Text) (opening : Bool) : List LinePart :=
  match Lexeme.splitClitic? raw with
  | some (stem, ending) => [word stem stem false, word ending ending false]
  | none => [word (spell o raw opening) raw false]

def ofLine (o : LexedOptions) (line : Text) : List LinePart :=
  let found := Lexeme.ofLine line
  (found.1.flatMap fun l => ofGap o l.gap ++ ofRaw o l.raw l.opening) ++ ofGap o found.2

end LinePart

/-- The last token, behind which white space may still follow, and the runs of it so far, the last
one first. -/
structure OpenToken where
  last : Option Token := none
  runs : List Text := []
  deriving DecidableEq, Repr

namespace OpenToken

def gap (s : OpenToken) : Text := s.runs.reverse.flatten

def close (o : LexedOptions) (s : OpenToken) : List Token :=
  match s.last with
  | none => []
  | some t => [if o.invertible then { t with after := s.gap } else t]

def token (o : LexedOptions) (gap word raw : Text) (isNewline : Bool) : Token :=
  if o.invertible then { word, isNewline, raw := some raw, before := gap }
  else { word, isNewline }

def addParts (o : LexedOptions) : OpenToken → List LinePart → List Token × OpenToken
  | s, [] => ([], s)
  | s, .space run :: rest =>
    addParts o (if o.invertible then { s with runs := run :: s.runs } else s) rest
  | s, .word word raw isNewline :: rest =>
    let later := addParts o ⟨some (token o s.gap word raw isNewline), []⟩ rest
    (s.close o ++ later.1, later.2)

end OpenToken

/-- The tokens of the running text of a stream. -/
structure LexedSource where
  stream : TextStream
  options : LexedOptions
  /-- The tokens that are complete. -/
  ready : List Token := []
  pending : OpenToken := {}
  /-- Whether the end of the text was met. -/
  ended : Bool := false
  deriving Repr

namespace LexedSource

def addLine (s : LexedSource) (line : Text) (stream : TextStream) : LexedSource :=
  let added := s.pending.addParts s.options (LinePart.ofLine s.options line)
  { s with stream, ready := s.ready ++ added.1, pending := added.2 }

def finish (s : LexedSource) (stream : TextStream) : LexedSource :=
  { s with stream, ready := s.ready ++ s.pending.close s.options, pending := {}, ended := true }

/-- Reads lines until a token is complete or the text ends. -/
def fill (s : LexedSource) : Except ReadFault Unit × LexedSource :=
  if !s.ready.isEmpty || s.ended then (.ok (), s)
  else match _h : s.stream.readLine with
    | (.error fault, stream) => (.error fault, { s with stream })
    | (.ok [], stream) => (.ok (), s.finish stream)
    | (.ok (c :: rest), stream) => fill (s.addLine (c :: rest) stream)
termination_by s.stream.rest.length
decreasing_by
  have := TextStream.length_rest_of_readLine _h
  simp [addLine] at this ⊢
  omega

/-- The tokens that are waiting: those that are complete and the last one. -/
def waiting (s : LexedSource) : Nat := s.ready.length + (if s.pending.last.isSome then 1 else 0)

theorem waiting_finish (s : LexedSource) (stream : TextStream) :
    (s.finish stream).waiting = s.waiting := by
  cases h : s.pending.last <;> simp [waiting, finish, OpenToken.close, h]

/-- Filling reads on, or else adds nothing to the tokens that are waiting. -/
theorem fill_progress (s : LexedSource) :
    s.fill.2.stream.rest.length < s.stream.rest.length ∨
      (s.fill.2.stream.rest.length = s.stream.rest.length ∧ s.fill.2.waiting = s.waiting) := by
  fun_induction fill s with
  | case1 s h => simp
  | case2 s h fault stream hr =>
    right
    exact ⟨by simp [TextStream.rest_of_readLine_error hr], rfl⟩
  | case3 s h stream hr =>
    have hl := TextStream.length_rest_of_readLine hr
    right
    exact ⟨by simpa [finish] using hl, waiting_finish s stream⟩
  | case4 s h c rest stream hr ih =>
    have hl := TextStream.length_rest_of_readLine hr
    simp only [addLine, List.length_cons] at ih hl ⊢
    left
    rcases ih with ih | ih
    · omega
    · have := ih.1
      omega

end LexedSource

end SentenceReader

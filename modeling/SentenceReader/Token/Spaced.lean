import SentenceReader.Fault
import SentenceReader.Stream.Basic
import SentenceReader.Token.Basic

/-! Tokens of text that is tokenized already: what stands between white space. -/
namespace SentenceReader

/-- The word of the tokens that stand for newlines in tokenized text. -/
def newlineWord : Text := ['\n']

/-- The tokens of the tokenized text of a stream. -/
structure SpacedSource where
  stream : TextStream
  /-- Whether every newline is a token. -/
  newlines : Bool
  /-- The tokens that were read and not yet given out. -/
  ready : List Token := []
  /-- Whether the end of the text was met. -/
  ended : Bool := false
  deriving Repr

namespace SpacedSource

def known : List Text := ["tokenizeNLs".toList]

/-- Reads a written list of options, which tells whether newlines are tokens. -/
def readOptions (written : Text) : Except Fault Bool :=
  match OptionTable.read known written with
  | .ok table => .ok (table.flag "tokenizeNLs".toList false)
  | .error key => .error (.unknownOption key known)

def tokensOf (newlines : Bool) (line : Text) : List Token :=
  (Text.words line).map (fun w => { word := w, raw := some w })
    ++ if newlines && line.getLast? = some '\n' then
        [{ word := newlineWord, isNewline := true, raw := some newlineWord }]
      else []

/-- Reads lines until there is a token or the text ends. -/
def fill (s : SpacedSource) : Except ReadFault Unit × SpacedSource :=
  if !s.ready.isEmpty || s.ended then (.ok (), s)
  else match _h : s.stream.readLine with
    | (.error fault, stream) => (.error fault, { s with stream })
    | (.ok [], stream) => (.ok (), { s with stream, ended := true })
    | (.ok (c :: rest), stream) =>
      fill { s with stream, ready := tokensOf s.newlines (c :: rest) }
termination_by s.stream.rest.length
decreasing_by
  have := TextStream.length_rest_of_readLine _h
  simp at this ⊢
  omega

/-- Filling reads on, or else leaves the tokens that are ready. -/
theorem fill_progress (s : SpacedSource) :
    s.fill.2.stream.rest.length < s.stream.rest.length ∨
      (s.fill.2.stream.rest.length = s.stream.rest.length ∧ s.fill.2.ready = s.ready) := by
  fun_induction fill s with
  | case1 s h => simp
  | case2 s h fault stream hr =>
    right
    exact ⟨by simp [TextStream.rest_of_readLine_error hr], rfl⟩
  | case3 s h stream hr =>
    have hl := TextStream.length_rest_of_readLine hr
    right
    exact ⟨by simpa using hl, rfl⟩
  | case4 s h c rest stream hr ih =>
    have hl := TextStream.length_rest_of_readLine hr
    simp only [List.length_cons] at ih hl ⊢
    left
    rcases ih with ih | ih
    · omega
    · have := ih.1
      omega

end SpacedSource

end SentenceReader

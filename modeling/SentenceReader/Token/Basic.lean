import SentenceReader.Text.Basic

/-! Tokens and sentences, and the two ways of writing a sentence as a line of text. -/
namespace SentenceReader

/-- A word or a mark of punctuation, as it was read. -/
structure Token where
  /-- The word, in its escaped spelling if it has one. -/
  word : Text
  /-- The part of speech, for words that came with one. -/
  tag : Option Text := none
  /-- Whether the token stands for the end of a line. -/
  isNewline : Bool := false
  /-- The characters that the token was read from, where they were kept. -/
  raw : Option Text := none
  /-- The white space in front of the token, where it was kept. -/
  before : Text := []
  /-- The white space behind the token, where it was kept. -/
  after : Text := []
  deriving DecidableEq, Repr, Inhabited

/-- A sentence is the list of its tokens. -/
abbrev Sentence := List Token

namespace Token

/-- The characters of a token: the ones it was read from if they were kept, else its word. -/
def source (t : Token) : Text := t.raw.getD t.word

end Token

namespace Sentence

/-- The words of a sentence with a space between neighbours. -/
def wordLine (s : Sentence) : Text := Text.join [' '] (s.map Token.word)

/-- The characters that a sentence was read from, as far as its tokens kept them: the white space
in front of the first token, then every token with what follows it. -/
def rawLine : Sentence → Text
  | [] => []
  | t :: rest => t.before ++ (t :: rest).flatMap fun u => u.source ++ u.after

@[simp] theorem wordLine_nil : wordLine [] = [] := rfl
@[simp] theorem rawLine_nil : rawLine [] = [] := rfl

end Sentence

end SentenceReader

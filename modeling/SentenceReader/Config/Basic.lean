import SentenceReader.Pattern.Matching
import SentenceReader.Token.Escape

/-! The settings for reading the sentences of a document. -/
namespace SentenceReader

/-- Where the tokens come from. -/
inductive TokenizerChoice where
  /-- Running text, which is tokenized. -/
  | running
  /-- Tokenized text, through the options of its tokenizer. -/
  | spaced
  /-- Tokenized text as it is. -/
  | tokenized
  deriving DecidableEq, Repr, Inhabited

namespace TokenizerChoice

def name : TokenizerChoice → Text
  | running => "default".toList
  | spaced => "whitespace".toList
  | tokenized => "none".toList

def named? (t : Text) : Option TokenizerChoice :=
  [running, spaced, tokenized].find? fun c => c.name == t

end TokenizerChoice

/-- What is done to a finished sentence. -/
inductive Escaper where
  | treebank
  | custom (transform : Sentence → Sentence)

namespace Escaper

def apply : Escaper → Sentence → Sentence
  | treebank => Treebank.escape
  | custom transform => transform

end Escaper

/-- What makes a tokenizer in place of the built-in ones. -/
inductive TokenizerMaker where
  /-- Gives the same tokens for every stream, with its word for newlines. -/
  | given (tokens : List Token) (mark : Text)
  /-- Something that makes no tokenizers; holds what it is. -/
  | unusable (kind : String)
  deriving DecidableEq, Repr

/-- The settings. -/
structure Config where
  /-- The words that end a sentence. -/
  sentenceDelimiters : List Text := [['.'], ['?'], ['!']]
  /-- The one delimiter of text that is split into sentences already. -/
  explicitDelimiter : Option Text := none
  /-- What stands between a word and its tag. -/
  tagDelimiter : Option Text := none
  /-- The names of the elements to read from, as a pattern. -/
  elementFilter : Text := ['.', '*']
  /-- Whether the tags inside these elements are kept. -/
  keepInternalTags : Bool := false
  tokenizer : TokenizerChoice := .running
  /-- The options of the tokenizer, as they are written. -/
  tokenizerOptions : Text := []
  tokenizerMaker : Option TokenizerMaker := none
  escaper : Option Escaper := none
  /-- Whether sentences without tokens count. -/
  keepEmptySentences : Bool := false

instance : Inhabited Config := ⟨{}⟩

namespace Config

/-- What does not go together in the settings of delimiters. -/
inductive Issue where
  | emptyExplicit
  | emptyTag
  | sameDelimiters (delimiter : Text)
  deriving DecidableEq, Repr

def Issue.message : Issue → Text
  | emptyExplicit => "explicit_delimiter must not be empty".toList
  | emptyTag => "tag_delimiter must not be empty".toList
  | sameDelimiters d =>
    "tag_delimiter and explicit_delimiter are both '".toList ++ d ++ ['\'']

/-- What does not go together in the settings of two delimiters. -/
def issuesOf (explicit tag : Option Text) : List Issue :=
  (if explicit = some [] then [.emptyExplicit] else [])
    ++ (if tag = some [] then [.emptyTag] else [])
    ++ (match tag with
        | some d => if explicit = some d then [.sameDelimiters d] else []
        | none => [])

/-- What does not go together in some settings. -/
def issues (c : Config) : List Issue := issuesOf c.explicitDelimiter c.tagDelimiter

@[simp] theorem issuesOf_none : issuesOf none none = [] := rfl

/-- Settings without issues are those whose delimiters are not empty and differ. -/
theorem issuesOf_eq_nil_iff (explicit tag : Option Text) :
    issuesOf explicit tag = [] ↔
      explicit ≠ some [] ∧ tag ≠ some [] ∧ (tag = none ∨ explicit ≠ tag) := by
  unfold issuesOf
  by_cases h₁ : explicit = some []
  · simp [h₁]
  · by_cases h₂ : tag = some []
    · simp [h₂]
    · cases tag with
      | none => simp [h₁]
      | some d => by_cases h₃ : explicit = some d <;> simp_all

end Config

end SentenceReader

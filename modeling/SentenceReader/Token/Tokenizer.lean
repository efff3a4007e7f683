import SentenceReader.Token.Source

/-! Tokenizers: ways of finding the tokens of streams, with options that count for all of them. The
options of a tokenizer are checked when it is made, those of a stream when it is opened. -/
namespace SentenceReader

def TextStream.required : Option TextStream → Except Fault TextStream
  | some stream => .ok stream
  | none => .error .noSource

/-- A tokenizer with its options, as they are written. -/
inductive Tokenizer where
  /-- For running text. -/
  | running (options : Text)
  /-- For text that is tokenized already. -/
  | spaced (options : Text)
  deriving DecidableEq, Repr

namespace Tokenizer

def ofRunning (options : Text) : Except Fault Tokenizer :=
  (LexedOptions.read options).map fun _ => running options

def ofSpaced (options : Text) : Except Fault Tokenizer :=
  (SpacedSource.readOptions options).map fun _ => spaced options

def options : Tokenizer → Text
  | running options => options
  | spaced options => options

def tokensOf (t : Tokenizer) (stream : TextStream) (more : Text) : Except Fault TokenSource :=
  match t with
  | running options => TokenSource.ofText stream (OptionTable.merge [options, more])
  | spaced options => TokenSource.ofTokenized stream (OptionTable.merge [options, more])

/-- The tokens of a stream that may be missing. Running text misses its stream before it looks at
the options, and tokenized text afterwards. -/
def tokensOf? (t : Tokenizer) (stream : Option TextStream) (more : Text) :
    Except Fault TokenSource :=
  match t, stream with
  | _, some stream => t.tokensOf stream more
  | running _, none => .error .noSource
  | spaced options, none =>
    (SpacedSource.readOptions (OptionTable.merge [options, more])).bind fun _ => .error .noSource

end Tokenizer

end SentenceReader

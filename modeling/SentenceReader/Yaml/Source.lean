import SentenceReader.Encoding.Decoding

/-! Where YAML comes from. -/
namespace SentenceReader.Yaml

/-- A text that is there as a whole, or a file, as far as it can be read. -/
inductive Source where
  | text (t : Text)
  | file (reading : Decoding.Reading)
  deriving DecidableEq, Repr

/-- How many characters of a file are read at a time. -/
def Source.blockSize : Nat := 4096

end SentenceReader.Yaml

import SentenceReader.Text.CharName

/-! What the reading of patterns relies on: that characters have names, and that the groups of a pattern can
lie so deep in each other that it cannot be read. -/
namespace SentenceReader

class PatternHost where
  /-- The character with a name, if there is one. -/
  charNamed? : Text → Option Char
  /-- What is said of a written pattern with groups that is too deep, if it is. -/
  tooDeep? : Text → Option Text

/-- A host that knows the usual names, and reads patterns of any depth. -/
instance PatternHost.standard : PatternHost where
  charNamed? := CharName.char?
  tooDeep? _ := none

end SentenceReader

import SentenceReader.Yaml.Cursor
import SentenceReader.Yaml.Source

/-! The characters of a source of YAML. A text is there as a whole; a file is read in blocks of characters,
and what is wrong behind the first ones counts only when reading comes so far. -/
namespace SentenceReader.Yaml

/-- The characters that can be read, and the fault that is met behind them, if any is. -/
structure Input where
  text : Text
  fault : Option Fault := none
  deriving DecidableEq, Repr

namespace Input

/-- A text that is there as a whole. It may hold none but allowed characters. -/
def ofText (t : Text) : Input :=
  if t.all isAllowed then ⟨t, none⟩ else ⟨[], some .malformed⟩

/-- The characters of a file that can be looked at in front of one that cannot be read. Two blocks are
read before the first character is looked at. -/
def wholeBlocks (t : Text) : Text :=
  let blocks := t.length / Source.blockSize
  if blocks < 2 then [] else t.take (blocks * Source.blockSize)

def ofReading (r : Decoding.Reading) : Input :=
  let found : Input := match r.obstacle with
    | none => ⟨r.text, none⟩
    | some cause => ⟨wholeBlocks r.text, some (.unread cause)⟩
  let allowed := found.text.takeWhile isAllowed
  if allowed.length = found.text.length then found else ⟨wholeBlocks allowed, some .malformed⟩

def ofSource : Source → Input
  | .text t => ofText t
  | .file reading => ofReading reading

example : (ofText ['a', '\x01']).fault = some .malformed := by decide

end Input

end SentenceReader.Yaml

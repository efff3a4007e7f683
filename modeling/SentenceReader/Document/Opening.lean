import SentenceReader.Document.Fault
import SentenceReader.Stream.Basic

/-! Opening of documents: the stream over the text of a file. -/
namespace SentenceReader

namespace OpenFile

/-- The stream over the text of an opened file. It ends at the first bytes that are no text. -/
def toStream (manner : Decoding.Manner) (f : OpenFile) : TextStream :=
  let found := Decoding.read manner f.start f.content
  { rest := found.text, early := found.early, obstacle := found.obstacle, isFile := true }

def wholeText (f : OpenFile) : Except ReadFault Text := Decoding.wholeText f.start f.content

end OpenFile

namespace Host

variable (host : Host)

def openPath (written encoding : Text) : Except DocumentFault OpenFile :=
  let path := Path.ofText written
  (host.openDocument path encoding).mapError (.unopened path.toText)

/-- The whole text of the document at a path, if one is given. -/
def documentText (written : Option Text) (encoding : Text) : Except DocumentFault Text :=
  match written with
  | none => .error .noPath
  | some written =>
    match host.openPath written encoding with
    | .error fault => .error fault
    | .ok f => f.wholeText.mapError fun cause => .ofSequence (.misused cause)

end Host

end SentenceReader

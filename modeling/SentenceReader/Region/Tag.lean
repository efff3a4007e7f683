import SentenceReader.Text.Basic

/-! Tags of elements, read loosely: a name behind an angle bracket, perhaps with a slash in front of
it, and anything up to the first closing bracket, perhaps with a slash at its end. Comments,
declarations and instructions are no tags of elements. -/
namespace SentenceReader

/-- What a tag says: the name of its element, and on which side of its content it stands. -/
structure Tag where
  name : Text
  /-- The tag ends an element. -/
  closing : Bool
  /-- The element is empty, and the tag is all of it. -/
  selfClosing : Bool
  deriving DecidableEq, Repr

namespace Tag

/-- A character that the name of an element may hold. -/
def isNameChar (c : Char) : Bool := !isBlank c && !(c ∈ ['/', '>', '!', '?'])

/-- The name, and what is left of a tag, behind its opening bracket and a slash if it has one. -/
def body (t : Text) : Bool × Text :=
  match Text.trimStart t with
  | '/' :: rest => (true, Text.trimStart rest)
  | t => (false, t)

/-- Whether a tag ends behind some text: at the end, or in front of a newline at the end. -/
def endsAt (t : Text) : Bool := t.isEmpty || t == ['\n']

def ofText? : Text → Option Tag
  | '<' :: t =>
    let (closing, t) := body t
    let name := t.takeWhile isNameChar
    if name.isEmpty then none
    else
      match Text.cut '>' (t.dropWhile isNameChar) with
      | (attributes, some rest) =>
        if endsAt rest then
          some ⟨name, closing, (Text.trimEnd attributes).getLast? == some '/'⟩
        else none
      | (_, none) => none
  | _ => none

example : ofText? "<s id=\"1\">".toList = some ⟨['s'], false, false⟩ := by decide +kernel
example : ofText? "</ s >".toList = some ⟨['s'], true, false⟩ := by decide +kernel
example : ofText? "<br />".toList = some ⟨"br".toList, false, true⟩ := by decide +kernel
example : ofText? "<!-- s -->".toList = none := by decide +kernel

end Tag

end SentenceReader

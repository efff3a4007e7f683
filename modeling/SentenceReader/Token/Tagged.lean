import SentenceReader.Token.Basic

/-! Words that carry their part of speech behind a delimiter, as in a tagged corpus. The last
occurrence of the delimiter counts, so that a word may hold it too. -/
namespace SentenceReader

namespace Tagged

/-- What stands before and after the last occurrence of a delimiter in a text. -/
def cutLast? (delimiter : Text) : Text → Option (Text × Text)
  | [] => none
  | c :: rest =>
    match cutLast? delimiter rest with
    | some (head, tail) => some (c :: head, tail)
    | none => (Text.dropStart? delimiter (c :: rest)).map fun tail => ([], tail)

/-- The head and the tag of a word, or none for a word without tag. White space around the word
is left out; a delimiter with nothing behind it gives no tag. -/
def split? (delimiter word : Text) : Option (Text × Text) :=
  match cutLast? delimiter (Text.trim word) with
  | some (head, tag) => if tag.isEmpty then none else some (head, tag)
  | none => none

/-- The head and tag of a word as a list of two parts, or the word itself as a list of one.
There is no splitting at an empty delimiter. -/
def parts? (delimiter word : Text) : Option (List Text) :=
  if delimiter.isEmpty then none
  else match split? delimiter word with
    | some (head, tag) => some [head, tag]
    | none => some [word]

/-- A token whose word is split at a delimiter, if one is set and occurs in it. -/
def mark : Option Text → Token → Token
  | none, t => t
  | some delimiter, t =>
    match split? delimiter t.word with
    | some (head, tag) => { t with word := head, tag := some tag }
    | none => t

/-- The two sides of a last occurrence give the text back. -/
theorem eq_append_of_cutLast? {d t head tail : Text} (h : cutLast? d t = some (head, tail)) :
    t = head ++ d ++ tail := by
  induction t generalizing head with
  | nil => simp [cutLast?] at h
  | cons c rest ih =>
    rw [cutLast?] at h
    cases hr : cutLast? d rest with
    | some p =>
      simp [hr] at h
      have hp := @ih p.1 (by rw [hr, ← h.2])
      simp [← h.1, hp]
    | none =>
      simp [hr] at h
      simp [h.2, Text.eq_append_of_dropStart? h.1]

/-- A word is split where it is cut without the white space around it, if something is left behind. -/
theorem split?_eq_some_iff_cutLast? {d w head tag : Text} :
    split? d w = some (head, tag) ↔ cutLast? d (Text.trim w) = some (head, tag) ∧ tag ≠ [] := by
  rw [split?]
  cases cutLast? d (Text.trim w) with
  | none => simp
  | some p => grind

theorem trim_eq_append_of_split? {d w head tag : Text} (h : split? d w = some (head, tag)) :
    Text.trim w = head ++ d ++ tag :=
  eq_append_of_cutLast? (split?_eq_some_iff_cutLast?.1 h).1

example : split? ['_'] "dog_NN".toList = some ("dog".toList, "NN".toList) := by decide
example : split? ['/'] "1/2/CD".toList = some ("1/2".toList, "CD".toList) := by decide
example : split? ['_'] "dog_".toList = none := by decide

end Tagged

end SentenceReader

import SentenceReader.Data.Timestamp
import SentenceReader.Stream.Fault
import SentenceReader.Text.Numeral

/-! What can be wrong with a YAML text, or with a value in one. -/
namespace SentenceReader.Yaml

/-- What is wrong with a YAML text or with a value in it. -/
inductive Fault where
  /-- The text cannot be read any further. -/
  | unread (cause : ReadFault)
  /-- The text is not YAML, or asks for values that settings cannot hold. -/
  | malformed
  /-- A text should stand for a whole number in some base. -/
  | notWhole (base : Nat) (t : Text)
  /-- A text should stand for a whole number, and has more digits than are read. -/
  | tooLong (digits : Nat)
  /-- A text should stand for a number. -/
  | notANumber (t : Text)
  /-- A number is not written at all. -/
  | noNumber
  /-- A number has so many parts that one of them has too large a weight. -/
  | hugeNumber
  /-- A text should stand for a truth value. -/
  | notAFlag (t : Text)
  /-- A text should stand for a date. -/
  | notADate
  /-- A mapping should stand for a date. -/
  | dateOfMapping
  | impossibleDate (problem : Timestamp.Problem)
  /-- A character is asked for by a number that is too large for one. -/
  | noCharacter
  /-- A character is asked for by a number that is too large for any number of that kind. -/
  | hugeCharacter
  /-- Something else; holds what is said of it. -/
  | other (words : Text)
  deriving DecidableEq, Repr

namespace Fault

/-- The words for a fault. What is wrong with a malformed text is not told. -/
def message : Fault → Text
  | unread cause => cause.message.toList
  | malformed => []
  | notWhole base t =>
    "invalid literal for int() with base ".toList ++ Text.ofNat base ++ ':' :: ' '
      :: (Text.quoted t).take 200
  | tooLong digits => Numeral.tooLongMessage digits
  | notANumber t => "could not convert string to float: ".toList ++ Text.quoted t
  | noNumber => "string index out of range".toList
  | hugeNumber => "int too large to convert to float".toList
  | notAFlag t => Text.quoted t
  | notADate => "'NoneType' object has no attribute 'groupdict'".toList
  | dateOfMapping => "expected string or bytes-like object, got 'list'".toList
  | impossibleDate problem => problem.message
  | noCharacter => "chr() arg not in range(0x110000)".toList
  | hugeCharacter => "Python int too large to convert to C int".toList
  | other words => words

end Fault

end SentenceReader.Yaml

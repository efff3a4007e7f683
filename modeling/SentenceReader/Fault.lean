import SentenceReader.Pattern.Syntax
import SentenceReader.Stream.Fault
import SentenceReader.Token.Options

/-! What can go wrong while sentences are read. Each cause has its words; a read that failed is
told apart from a wrong use of the stream behind it. -/
namespace SentenceReader

/-- Why a call on a sequence of tokens, texts or sentences gave nothing. -/
inductive Fault where
  /-- There is no stream to read from. -/
  | noSource
  /-- There is nothing more. -/
  | exhausted
  /-- The stream could not be read. -/
  | unreadable (cause : ReadFault)
  /-- The stream was used in a wrong way. -/
  | misused (cause : ReadFault)
  /-- A tokenizer does not know an option. -/
  | unknownOption (key : Text) (known : List Text)
  /-- The pattern for the names of elements is not one. -/
  | badPattern (written : Text) (fault : PatternFault)
  /-- What was given as a maker of tokenizers is not one; holds what it is. -/
  | notATokenizerMaker (kind : String)
  deriving DecidableEq, Repr

namespace Fault

def ofRead (cause : ReadFault) : Fault :=
  if cause.isFailure then unreadable cause else misused cause

def isUnreadable : Fault → Bool
  | unreadable _ => true
  | _ => false

def message : Fault → Text
  | noSource => "Cannot read from null object!".toList
  | exhausted => []
  | unreadable cause => "Could not read from input: ".toList ++ cause.message.toList
  | misused cause => cause.message.toList
  | unknownOption key known =>
    "Unknown tokenizer option '".toList ++ key ++ "', expected one of ".toList
      ++ Text.quotedList (OptionTable.sortedKeys known)
  | badPattern written fault =>
    if fault.reason.gravity = .malformed then
      "Invalid element pattern '".toList ++ written ++ "': ".toList ++ fault.message written
    else fault.reason.message
  | notATokenizerMaker kind =>
    ("'" ++ kind ++ "' object has no attribute 'get_tokenizer'").toList

end Fault

end SentenceReader

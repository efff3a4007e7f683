import SentenceReader.Config.Validation
import SentenceReader.Fault
import SentenceReader.Host
import SentenceReader.Record.Event

/-! What can go wrong with a document as a whole. -/
namespace SentenceReader

/-- Why a call on a document gave nothing. -/
inductive DocumentFault where
  /-- The fault of a call on its sentences, or of its settings for them. -/
  | ofSequence (fault : Fault)
  /-- There is no path to open. -/
  | noPath
  /-- The path cannot be opened. -/
  | unopened (path : Text) (cause : OpenFault)
  /-- What was given as a kind of documents is not one; holds how messages show it. -/
  | unknownKind (shown : Text)
  /-- There is no way of reading this kind of documents. -/
  | noStrategy (kind : DocumentKind)
  /-- The settings are wrong. -/
  | settings (refusal : Config.Refusal)
  /-- A setting is given under the name of the document itself. -/
  | takenName
  /-- Settings cannot change any more. -/
  | started
  /-- The sentences were asked for before. -/
  | alreadyRead
  /-- The sentences were not asked for yet. -/
  | notRead

namespace DocumentFault

def message : DocumentFault → Text
  | ofSequence fault => fault.message
  | noPath => "Cannot open null document path!".toList
  | unopened path cause =>
    if cause.isMisuse then cause.message
    else "Could not open path ".toList ++ path ++ ": ".toList ++ cause.message
  | unknownKind shown => shown ++ " is not a valid DocType".toList
  | noStrategy kind =>
    "No sentence strategy registered for document type '".toList ++ kind.name ++ ['\'']
  | settings refusal => refusal.message
  | takenName =>
    "DocumentPreprocessor.configure() got multiple values for argument 'self'".toList
  | started => "Cannot change options once iteration has started".toList
  | alreadyRead => "Document has already been iterated; it can only be read once".toList
  | notRead => []

end DocumentFault

end SentenceReader

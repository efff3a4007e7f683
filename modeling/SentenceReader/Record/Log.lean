import SentenceReader.Data.Basic

/-! Entries of a log, and the lines that show them. -/
namespace SentenceReader

/-- How much an entry matters. -/
inductive LogLevel where
  | info
  | warning
  | error
  deriving DecidableEq, Repr

namespace LogLevel

def name : LogLevel → Text
  | info => "info".toList
  | warning => "warn".toList
  | error => "error".toList

def word : LogLevel → Text
  | info => "INFO".toList
  | warning => "WARN".toList
  | error => "ERROR".toList

end LogLevel

/-- An entry of a log: what happened, with named details. -/
structure LogEntry where
  level : LogLevel
  message : Text
  details : List (Text × Data) := []
  deriving Repr

namespace LogEntry

def line (e : LogEntry) : Text :=
  let details := Text.join [' '] (e.details.map fun d => d.1 ++ '=' :: d.2.plain)
  let front := e.level.word ++ ':' :: ' ' :: e.message
  if details.isEmpty then front else front ++ ' ' :: details

/-- The names of the parts of an entry, which its details cannot have. -/
def takenNames : List Text := ["self", "msg"].map String.toList

/-- Why an entry is not written: a detail has the name of a part of the entry. -/
structure NameClash where
  level : LogLevel
  name : Text
  deriving DecidableEq, Repr

def NameClash.message (c : NameClash) : Text :=
  "ConsoleLogger.".toList ++ c.level.name ++ "() got multiple values for argument ".toList
    ++ Text.quoted c.name

/-- What is written of an entry: its line, unless the name of a detail is taken. -/
def written (e : LogEntry) : Except NameClash Text :=
  match e.details.find? fun d => takenNames.contains d.1 with
  | some d => .error ⟨e.level, d.1⟩
  | none => .ok (e.line ++ ['\n'])

example : (line ⟨.info, "region_opened".toList, [("index".toList, .int 1)]⟩) =
    "INFO: region_opened index=1".toList := by decide +kernel

end LogEntry

end SentenceReader

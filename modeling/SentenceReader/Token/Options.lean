import SentenceReader.Text.Quoted

/-! Options of tokenizers, written as one text: keys with or without values, between commas. Where
a key comes twice, the last value counts, at the place of the first one. -/
namespace SentenceReader

/-- Keys with their values, in the order in which the keys came first. -/
abbrev OptionTable := List (Text × Text)

namespace OptionTable

/-- Sets the value of a key, at its place if it has one. -/
def set (key value : Text) : OptionTable → OptionTable
  | [] => [(key, value)]
  | entry :: rest => if entry.1 = key then (key, value) :: rest else entry :: set key value rest

/-- The items of a written list of options: what stands between its commas, if not blank. -/
def items (written : Text) : List Text :=
  ((Text.fields ',' written).map Text.trim).filter (!·.isEmpty)

/-- What a key without value stands for. -/
def defaultValue : Text := "true".toList

def entry (item : Text) : Text × Text :=
  match Text.cut '=' item with
  | (key, none) => (Text.trim key, defaultValue)
  | (key, some []) => (Text.trim key, defaultValue)
  | (key, some value) => (Text.trim key, Text.trim value)

/-- Adds items to a table; a key that is not known is the error. -/
def addItems (known : List Text) : OptionTable → List Text → Except Text OptionTable
  | table, [] => .ok table
  | table, item :: rest =>
    let e := entry item
    if e.1 ∈ known then addItems known (table.set e.1 e.2) rest else .error e.1

/-- Reads a written list of options; a key that is not known is the error. -/
def read (known : List Text) (written : Text) : Except Text OptionTable :=
  addItems known [] (items written)

/-- The values that turn an option on. -/
def trueValues : List Text := ["true", "1", "yes", "on"].map String.toList

/-- Whether an option is on, given whether it is when it does not occur. -/
def flag (table : OptionTable) (key : Text) (otherwise : Bool) : Bool :=
  match table.lookup key with
  | none => otherwise
  | some value => trueValues.contains (Text.lower value)

/-- Written lists of options as one, in which later ones override earlier ones. -/
def merge (written : List Text) : Text := Text.join [','] (written.filter (!·.isEmpty))

/-- Keys in order and each one once, as messages show them. -/
def sortedKeys (known : List Text) : List Text :=
  known.eraseDups.mergeSort fun a b => !Text.before b a

@[simp] theorem lookup_set (table : OptionTable) (key value k : Text) :
    (table.set key value).lookup k = if k = key then some value else table.lookup k := by
  induction table with
  | nil =>
    by_cases h : k = key
    · simp [set, h]
    · simp [set, h, beq_false_of_ne h]
  | cons e rest ih =>
    obtain ⟨a, b⟩ := e
    by_cases ha : a = key
    · subst ha
      by_cases h : k = a
      · simp [set, h]
      · simp [set, h, List.lookup_cons, beq_false_of_ne h]
    · simp only [set, ha, if_false, List.lookup_cons, ih]
      by_cases h : k = key
      · subst h
        simp [beq_false_of_ne (Ne.symm ha)]
      · simp [h]

example : (read ["a".toList, "b".toList] "a=1, b,,a=2".toList).toOption =
    some [("a".toList, "2".toList), ("b".toList, "true".toList)] := by decide +kernel

end OptionTable

end SentenceReader

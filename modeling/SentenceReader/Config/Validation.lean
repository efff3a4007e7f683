import SentenceReader.Config.Basic
import SentenceReader.Data.Basic
import SentenceReader.Encoding.Codec

/-! Settings from named arguments. Every argument is checked on its own, and all that is wrong is
reported together; what does not go together is looked at only when every argument is good. -/
namespace SentenceReader

/-- The name under which an argument is given, or what is given in place of a name. -/
inductive ArgumentKey where
  | name (t : Text)
  /-- A name in bytes, which is no name of a setting; with the form that messages show. -/
  | encodedName (t shown : Text)
  | notAName (shown : Text)
  deriving DecidableEq, Repr

/-- What an argument can be: plain data, or a part of the program. -/
inductive Argument where
  | data (d : Data)
  | escaper (e : Escaper)
  | maker (m : TokenizerMaker)

/-- Named arguments in the order in which they are given. -/
abbrev Arguments := List (ArgumentKey × Argument)

namespace Arguments

def find? (args : Arguments) (name : Text) : Option Argument :=
  args.lookup (.name name)

/-- Sets an argument, at its place if there is one of its name. -/
def set (key : ArgumentKey) (value : Argument) : Arguments → Arguments
  | [] => [(key, value)]
  | (k, v) :: rest => if k = key then (k, value) :: rest else (k, v) :: set key value rest

/-- Arguments with others in place of those of the same names, or behind them. -/
def update (args updates : Arguments) : Arguments :=
  updates.foldl (fun found u => found.set u.1 u.2) args

def decoded? (content : List UInt8) : Option Text :=
  ((Codec.utf8.decode true content).toOption).map Prod.fst

def keyOf : Data → ArgumentKey
  | .text t => .name t
  | .bytes content =>
    match decoded? content with
    | some t => .encodedName t (Quoted.bytes content)
    | none => .notAName (Quoted.bytes content)
  | .bool b => .notAName (if b then ['1'] else ['0'])
  | .int n =>
    .notAName (if Numeral.isTooLong n then "<unprintable int object>".toList else Text.ofInt n)
  | d => .notAName d.shown

def ofEntries (entries : List (Data × Data)) : Arguments :=
  entries.map fun e => (keyOf e.1, .data e.2)

theorem find?_set (args : Arguments) (key : ArgumentKey) (value : Argument) (name : Text) :
    (args.set key value).find? name =
      if key = .name name then some value else args.find? name := by
  induction args with
  | nil =>
    by_cases h : key = .name name
    · simp [set, find?, h]
    · have : (ArgumentKey.name name == key) = false := beq_false_of_ne (Ne.symm h)
      simp [set, find?, h, List.lookup_cons, this]
  | cons e rest ih =>
    obtain ⟨k, v⟩ := e
    simp only [find?] at ih
    by_cases hk : k = key
    · subst hk
      by_cases h : k = .name name
      · simp [set, find?, h]
      · have : (ArgumentKey.name name == k) = false := beq_false_of_ne (Ne.symm h)
        simp [set, find?, h, List.lookup_cons, this]
    · simp only [set, hk, if_false, find?, List.lookup_cons, ih]
      by_cases h : key = .name name
      · subst h
        have : (ArgumentKey.name name == k) = false := beq_false_of_ne (Ne.symm hk)
        simp [this]
      · simp [h]

end Arguments

namespace Config

/-- What is wrong with an argument, or with the settings as a whole. -/
inductive ProblemKind where
  | notText
  | notUnicode
  | notAList
  | unclearFlag
  | notAFlag
  | unknownTokenizer
  | unknownEscaper (name : Text)
  | notCallable
  | badPattern (written : Text) (fault : PatternFault)
  | badValue (reason : PatternReason)
  | issues (found : List Issue)
  | unknownName
  | notAName
  | frozen
  deriving DecidableEq, Repr

/-- A problem and where it is, if it is at one argument. -/
structure Problem where
  location : Option Text
  kind : ProblemKind
  deriving DecidableEq, Repr

def ProblemKind.message : ProblemKind → Text × String
  | notText => ("Input should be a valid string".toList, "string_type")
  | notUnicode =>
    ("Input should be a valid string, unable to parse raw data as a unicode string".toList,
      "string_unicode")
  | notAList => ("Input should be a valid tuple".toList, "tuple_type")
  | unclearFlag =>
    ("Input should be a valid boolean, unable to interpret input".toList, "bool_parsing")
  | notAFlag => ("Input should be a valid boolean".toList, "bool_type")
  | unknownTokenizer => ("Input should be 'default', 'whitespace' or 'none'".toList, "enum")
  | unknownEscaper name =>
    ("Value error, Unknown escaper '".toList ++ name ++ "', expected one of ".toList
      ++ Text.quotedList ["ptb".toList], "value_error")
  | notCallable => ("Input should be callable".toList, "callable_type")
  | badPattern written fault =>
    ("Value error, Invalid element filter pattern '".toList ++ written ++ "': ".toList
      ++ fault.message written, "value_error")
  | badValue reason => ("Value error, ".toList ++ reason.message, "value_error")
  | issues found =>
    ("Value error, Config validation issues: ".toList
      ++ Text.join "; ".toList (found.map Issue.message), "value_error")
  | unknownName => ("Extra inputs are not permitted".toList, "extra_forbidden")
  | notAName => ("Keys should be strings".toList, "invalid_key")
  | frozen => ("Instance is frozen".toList, "frozen_instance")

/-- The lines of a problem: its place, and what it is. -/
def Problem.lines (p : Problem) : List Text :=
  let (words, kind) := p.kind.message
  p.location.toList ++ ["  ".toList ++ words ++ " [type=".toList ++ kind.toList ++ [']']]

def problemsMessage (problems : List Problem) : Text :=
  let count := problems.length
  let head := Text.ofNat count ++ " validation error".toList
    ++ (if count = 1 then [] else ['s']) ++ " for PreprocessorConfig".toList
  Text.join ['\n'] (head :: problems.flatMap Problem.lines)

/-- The value of an argument, or one that stands in for it beside the problems. -/
structure Checked (α : Type) where
  value : α
  problems : List Problem := []

namespace Checked

def wrong {α : Type} (standIn : α) (location : Text) (kind : ProblemKind) : Checked α :=
  ⟨standIn, [⟨some location, kind⟩]⟩

/-- What a reader makes of an argument, and the value without it. -/
def argument {α : Type} (args : Arguments) (name : Text) (otherwise : α)
    (read : Argument → Except ProblemKind α) : Checked α :=
  match args.find? name with
  | none => ⟨otherwise, []⟩
  | some a =>
    match read a with
    | .ok value => ⟨value, []⟩
    | .error kind => wrong otherwise name kind

end Checked

def readText : Argument → Except ProblemKind Text
  | .data (.text t) => .ok t
  | .data (.bytes content) =>
    match Arguments.decoded? content with
    | some t => .ok t
    | none => .error .notUnicode
  | _ => .error .notText

def readText? : Argument → Except ProblemKind (Option Text)
  | .data .null => .ok none
  | a => (readText a).map some

def trueWords : List Text := ["true", "t", "yes", "y", "on", "1"].map String.toList

def falseWords : List Text := ["false", "f", "no", "n", "off", "0"].map String.toList

def flagOfWord (t : Text) : Except ProblemKind Bool :=
  if trueWords.contains (Text.lower t) then .ok true
  else if falseWords.contains (Text.lower t) then .ok false
  else .error .unclearFlag

/-- Whether a number has 64 binary digits at most, with its sign. The least of these numbers does
not count where it is not given as a whole one. -/
def isShort (d : Data) (n : Int) : Bool :=
  let least : Int := match d with
    | .float _ => -0x7FFFFFFFFFFFFFFF
    | _ => -0x8000000000000000
  least ≤ n && n < 0x8000000000000000

/-- Reads a truth value: one itself, a number for one, or a word for one. -/
def readFlag : Argument → Except ProblemKind Bool
  | .data (.text t) => flagOfWord t
  | .data (.bytes content) =>
    match Arguments.decoded? content with
    | some t => flagOfWord t
    | none => .error .unclearFlag
  | .data d =>
    match d.whole? with
    | some n =>
      if n = 1 then .ok true
      else if n = 0 then .ok false
      else .error (if isShort d n then .unclearFlag else .notAFlag)
    | none => .error .notAFlag
  | _ => .error .notAFlag

variable [PatternHost]

def readPattern (a : Argument) : Except ProblemKind Text := do
  let written ← readText a
  match Pattern.ofText written with
  | .ok _ => return written
  | .error fault =>
    if fault.reason.gravity = .malformed then throw (.badPattern written fault)
    else throw (.badValue fault.reason)

def readTokenizer (a : Argument) : Except ProblemKind TokenizerChoice :=
  match (readText a).toOption.bind TokenizerChoice.named? with
  | some choice => .ok choice
  | none => .error .unknownTokenizer

/-- Reads what makes tokenizers; anything may be given. -/
def readMaker : Argument → Except ProblemKind (Option TokenizerMaker)
  | .data .null => .ok none
  | .data d => .ok (some (.unusable d.kind))
  | .escaper _ => .ok (some (.unusable "function"))
  | .maker m => .ok (some m)

def readEscaper : Argument → Except ProblemKind (Option Escaper)
  | .data .null => .ok none
  | .data (.text t) =>
    if t = "ptb".toList then .ok (some .treebank) else .error (.unknownEscaper t)
  | .escaper e => .ok (some e)
  | _ => .error .notCallable

/-- Reads the words of a list, and reports those that are no texts by their places. -/
def checkWords (name : Text) : Nat → List Data → Checked (List Text)
  | _, [] => ⟨[], []⟩
  | n, d :: rest =>
    let later := checkWords name (n + 1) rest
    match readText (.data d) with
    | .ok t => ⟨t :: later.value, later.problems⟩
    | .error kind =>
      let place := name ++ '.' :: Text.ofNat n
      ⟨later.value, ⟨some place, kind⟩ :: later.problems⟩

def checkWordList (args : Arguments) (name : Text) (otherwise : List Text) :
    Checked (List Text) :=
  match args.find? name with
  | none => ⟨otherwise, []⟩
  | some (.data (.list items)) | some (.data (.set items)) => checkWords name 0 items
  | some _ => .wrong otherwise name .notAList

namespace FieldName

def sentenceDelimiters : Text := "sentence_delimiters".toList
def explicitDelimiter : Text := "explicit_delimiter".toList
def tagDelimiter : Text := "tag_delimiter".toList
def elementFilter : Text := "element_filter".toList
def keepInternalTags : Text := "keep_internal_tags".toList
def tokenizer : Text := "tokenizer".toList
def tokenizerOptions : Text := "tokenizer_options".toList
def tokenizerMaker : Text := "tokenizer_factory".toList
def escaper : Text := "escaper".toList
def keepEmptySentences : Text := "keep_empty_sentences".toList

def all : List Text :=
  [sentenceDelimiters, explicitDelimiter, tagDelimiter, elementFilter, keepInternalTags,
   tokenizer, tokenizerOptions, tokenizerMaker, escaper, keepEmptySentences]

end FieldName

/-- A name as the place of a problem; one with a point in it is set off. -/
def placeOf (name : Text) : Text :=
  if name.contains '.' then '\x60' :: name ++ ['\x60'] else name

def strangers (args : Arguments) : List Problem :=
  args.filterMap fun a =>
    match a.1 with
    | .name t => if FieldName.all.contains t then none else some ⟨some (placeOf t), .unknownName⟩
    | .encodedName t shown =>
      if FieldName.all.contains t && (args.find? t).isSome then none
      else some ⟨some (placeOf shown), .unknownName⟩
    | .notAName shown => some ⟨some (placeOf shown), .notAName⟩

def check (args : Arguments) : Checked Config :=
  let standard : Config := {}
  let delimiters := checkWordList args FieldName.sentenceDelimiters standard.sentenceDelimiters
  let explicit := Checked.argument args FieldName.explicitDelimiter none readText?
  let tag := Checked.argument args FieldName.tagDelimiter none readText?
  let filter := Checked.argument args FieldName.elementFilter standard.elementFilter readPattern
  let keepTags := Checked.argument args FieldName.keepInternalTags false readFlag
  let tokenizer := Checked.argument args FieldName.tokenizer standard.tokenizer readTokenizer
  let options := Checked.argument args FieldName.tokenizerOptions [] readText
  let maker := Checked.argument args FieldName.tokenizerMaker none readMaker
  let escaper := Checked.argument args FieldName.escaper none readEscaper
  let keepEmpty := Checked.argument args FieldName.keepEmptySentences false readFlag
  { value :=
      { sentenceDelimiters := delimiters.value
        explicitDelimiter := explicit.value
        tagDelimiter := tag.value
        elementFilter := filter.value
        keepInternalTags := keepTags.value
        tokenizer := tokenizer.value
        tokenizerOptions := options.value
        tokenizerMaker := maker.value
        escaper := escaper.value
        keepEmptySentences := keepEmpty.value }
    problems := delimiters.problems ++ explicit.problems ++ tag.problems ++ filter.problems
      ++ keepTags.problems ++ tokenizer.problems ++ options.problems ++ maker.problems
      ++ escaper.problems ++ keepEmpty.problems ++ strangers args }

/-- What does not go together in delimiters that were not checked, so that they may be any data. -/
def uncheckedIssues (explicit tag : Data) : List Issue :=
  (if explicit.same (.text []) then [.emptyExplicit] else [])
    ++ (if tag.same (.text []) then [.emptyTag] else [])
    ++ (if !tag.same .null && tag.same explicit then [.sameDelimiters tag.plain] else [])

/-- Why arguments make no settings. -/
inductive Refusal where
  | problems (found : List Problem)
  /-- A number in the pattern for elements is too large, or its depth is, so that nothing was checked to
  the end. -/
  | tooLarge (reason : PatternReason)
  deriving DecidableEq, Repr

def Refusal.message : Refusal → Text
  | problems found => problemsMessage found
  | tooLarge reason => reason.message

def tooLarge? (args : Arguments) : Option PatternReason :=
  match (args.find? FieldName.elementFilter).map readText with
  | some (.ok written) =>
    match Pattern.ofText written with
    | .error fault => if fault.reason.gravity = .tooLarge then some fault.reason else none
    | .ok _ => none
  | _ => none

/-- The settings that arguments ask for, or all that is wrong with them. -/
def ofArguments (args : Arguments) : Except Refusal Config :=
  let checked := check args
  match tooLarge? args with
  | some reason => .error (.tooLarge reason)
  | none =>
    if checked.problems ≠ [] then .error (.problems checked.problems)
    else if checked.value.issues ≠ [] then .error (.problems [⟨none, .issues checked.value.issues⟩])
    else .ok checked.value

def toArguments (c : Config) : Arguments :=
  let text? := fun t : Option Text => Argument.data (t.elim .null .text)
  [(.name FieldName.sentenceDelimiters, .data (.list (c.sentenceDelimiters.map .text))),
   (.name FieldName.explicitDelimiter, text? c.explicitDelimiter),
   (.name FieldName.tagDelimiter, text? c.tagDelimiter),
   (.name FieldName.elementFilter, .data (.text c.elementFilter)),
   (.name FieldName.keepInternalTags, .data (.bool c.keepInternalTags)),
   (.name FieldName.tokenizer, .data (.text c.tokenizer.name)),
   (.name FieldName.tokenizerOptions, .data (.text c.tokenizerOptions)),
   (.name FieldName.tokenizerMaker, c.tokenizerMaker.elim (.data .null) .maker),
   (.name FieldName.escaper, c.escaper.elim (.data .null) .escaper),
   (.name FieldName.keepEmptySentences, .data (.bool c.keepEmptySentences))]

/-- The settings with some replaced. -/
def override (c : Config) (updates : Arguments) : Except Refusal Config :=
  ofArguments (c.toArguments.update updates)

/-- Settings are never changed in place, whatever the name. -/
def assign (_ : Config) (name : Text) : Except Refusal Config :=
  .error (.problems [⟨some (placeOf name), .frozen⟩])

/-- Settings that were accepted have no issues. -/
theorem issues_of_ofArguments {args : Arguments} {c : Config}
    (h : ofArguments args = .ok c) :
    c.issues = [] := by
  unfold ofArguments at h
  dsimp only at h
  split at h
  · simp at h
  · split at h
    · simp at h
    · split at h
      · simp at h
      · next hi =>
        rw [Except.ok.injEq] at h
        subst h
        simpa using hi

end Config

end SentenceReader

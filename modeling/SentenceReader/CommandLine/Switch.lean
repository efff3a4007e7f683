import SentenceReader.Text.Quoted
import SentenceReader.Text.Digit

/-! The switches of the command line. A long name can be cut short as long as no other one starts
the same. -/
namespace SentenceReader.CommandLine

/-- A switch, which may take a value. -/
inductive Switch where
  | help
  | xml
  | encoding
  | printSentenceLengths
  | noTokenization
  | tag
  | keepEmptySentences
  | config
  | verbose
  | suppressEscaping
  | tokenizerOptions
  | printRawText
  | whitespaceTokenization
  deriving DecidableEq, Repr

namespace Switch

def all : List Switch :=
  [help, xml, encoding, printSentenceLengths, noTokenization, tag, keepEmptySentences, config,
   verbose, suppressEscaping, tokenizerOptions, printRawText, whitespaceTokenization]

def names (s : Switch) : List Text :=
  (match s with
    | help => ["-h", "--help"]
    | xml => ["--xml"]
    | encoding => ["--encoding"]
    | printSentenceLengths => ["--print-sentence-lengths"]
    | noTokenization => ["--no-tokenization"]
    | tag => ["--tag"]
    | keepEmptySentences => ["--keep-empty-sentences"]
    | config => ["--config"]
    | verbose => ["-v", "--verbose"]
    | suppressEscaping => ["--suppress-escaping"]
    | tokenizerOptions => ["--tokenizer-options"]
    | printRawText => ["--print-original-text"]
    | whitespaceTokenization => ["--whitespace-tokenization"]).map String.toList

def shown (s : Switch) : Text := Text.join ['/'] s.names

def takesValue : Switch → Bool
  | xml | encoding | tag | config | tokenizerOptions => true
  | _ => false

/-- The switches of which only one can be set: each is a way of finding tokens. -/
def alternatives : List Switch :=
  [suppressEscaping, tokenizerOptions, printRawText, whitespaceTokenization]

def table : List (Text × Switch) := all.flatMap fun s => s.names.map fun name => (name, s)

def named? (name : Text) : Option Switch := table.lookup name

end Switch

/-- Why a command line cannot be followed. -/
inductive UsageFault where
  | ambiguous (written : Text) (names : List Text)
  | missingValue (s : Switch)
  | unwantedValue (s : Switch) (value : Text)
  | notWith (s other : Switch)
  | unknown (words : List Text)
  deriving DecidableEq, Repr

namespace UsageFault

def atSwitch (s : Switch) (words : Text) : Text :=
  "argument ".toList ++ s.shown ++ ':' :: ' ' :: words

/-- The message about a command line that cannot be followed. -/
def message : UsageFault → Text
  | ambiguous written names =>
    "ambiguous option: ".toList ++ written ++ " could match ".toList ++ Text.join ", ".toList names
  | missingValue s => atSwitch s "expected one argument".toList
  | unwantedValue s value =>
    atSwitch s ("ignored explicit argument ".toList ++ Text.quoted value)
  | notWith s other => atSwitch s ("not allowed with argument ".toList ++ other.shown)
  | unknown words => "unrecognized arguments: ".toList ++ Text.join [' '] words

end UsageFault

/-- What a word of the command line is by its form. -/
inductive Word where
  /-- A switch under one of its names; holds the value that is written to it. -/
  | switch (s : Switch) (short : Bool) (value : Option Text)
  /-- The form of a switch, but none that there is. -/
  | unknown (t : Text)
  | plain (t : Text)
  /-- The mark behind which all words are plain. -/
  | mark
  deriving DecidableEq, Repr

namespace Word

/-- The mark behind which all words are plain. -/
def markText : Text := ['-', '-']

def isNegative (t : Text) : Bool :=
  let t := if t.getLast? = some '\n' then t.dropLast else t
  match t with
  | '-' :: rest =>
    match Text.cut '.' rest with
    | (digits, none) => !digits.isEmpty && digits.all isDigitChar
    | (digits, some more) => digits.all isDigitChar && !more.isEmpty && more.all isDigitChar
  | _ => false

/-- The switches with a name that starts as a word does, with their names and the value that is
written behind an equals sign. -/
def longMatches (t : Text) : List (Text × Word) :=
  let (front, value) := Text.cut '=' t
  (Switch.table.filter fun e => front.isPrefixOf e.1).map fun e => (e.1, switch e.2 false value)

/-- The switch of one letter that a word starts with; what stands behind it is its value. -/
def shortMatches (t : Text) : List (Text × Word) :=
  (Switch.table.filter fun e => e.1 = t.take 2).map fun e =>
    (e.1, switch e.2 true (some (t.drop 2)))

/-- What a word is that is no full name of a switch. -/
def ofPart (t : Text) : Except UsageFault Word :=
  match if markText.isPrefixOf t then longMatches t else shortMatches t with
  | [] =>
    if isNegative t || t.contains ' ' then .ok (plain t) else .ok (unknown t)
  | [(_, word)] => .ok word
  | several => .error (.ambiguous t (several.map Prod.fst))

def ofText (t : Text) : Except UsageFault Word :=
  match t with
  | '-' :: _ :: _ =>
    let isShort := fun name : Text => !markText.isPrefixOf name
    match Switch.named? t with
    | some s => .ok (switch s (isShort t) none)
    | none =>
      match Text.cut '=' t with
      | (name, some value) =>
        match Switch.named? name with
        | some s => .ok (switch s (isShort name) (some value))
        | none => ofPart t
      | (_, none) => ofPart t
  | t => .ok (plain t)

def ofTexts : List Text → Except UsageFault (List Word)
  | [] => .ok []
  | t :: rest =>
    if t = markText then .ok (mark :: rest.map plain)
    else match ofText t with
      | .error fault => .error fault
      | .ok word =>
        match ofTexts rest with
        | .error fault => .error fault
        | .ok words => .ok (word :: words)

example : (ofText "--enc=ascii".toList).toOption =
    some (switch .encoding false (some "ascii".toList)) := by decide +kernel
example : (ofText "-5".toList).toOption = some (plain "-5".toList) := by decide +kernel
example : (ofText "-x".toList).toOption = some (unknown "-x".toList) := by decide +kernel

end Word

end SentenceReader.CommandLine

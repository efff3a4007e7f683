import SentenceReader.Yaml.Input

/-! Tokens of a YAML text. Besides the signs that are written there are those that the layout
stands for: where a block begins or ends, and where a scalar turns out to be the key of an entry. -/
namespace SentenceReader.Yaml

/-- What a line with a percent sign at its start says. -/
inductive Directive where
  | version (major : Nat)
  | handle (handle start : Text)
  | unknown
  deriving DecidableEq, Repr

inductive Token where
  | directive (d : Directive)
  | documentStart
  | documentEnd
  | textEnd
  | sequenceStart
  | mappingStart
  | blockEnd
  | flowSequenceStart
  | flowSequenceEnd
  | flowMappingStart
  | flowMappingEnd
  | key
  | value
  | entry
  | flowEntry
  | alias (name : Text)
  | anchor (name : Text)
  | tag (handle : Option Text) (suffix : Text)
  | scalar (plain : Bool) (t : Text)
  deriving DecidableEq, Repr

/-- A token that may turn out to be the key of an entry: its number, and where it begins. -/
structure PossibleKey where
  number : Nat
  /-- Whether it must be a key, because of where it stands. -/
  required : Bool
  index : Nat
  line : Nat
  column : Nat
  deriving DecidableEq, Repr

/-- Where the search for tokens stands. -/
structure Scan where
  cursor : Cursor
  /-- The tokens so far, the last one first. -/
  found : List Token := []
  /-- How many tokens there are. -/
  count : Nat := 0
  /-- How many brackets are open. -/
  flowLevel : Nat := 0
  /-- The column of the current block, and those of the blocks around it. -/
  indent : Int := -1
  outer : List Int := []
  /-- Whether a key may begin here. -/
  keyAllowed : Bool := true
  /-- The tokens that may be keys, by the number of brackets around them. -/
  keys : List (Nat × PossibleKey) := []
  deriving Repr

namespace Scan

/-- Scanning changes where the search stands, and may fail there. -/
abbrev Scanning := ExceptT Fault (StateM Scan)

/-- Fails; the text is no YAML. -/
def fail {α : Type} : Scanning α := throw .malformed

def place : Scanning Cursor := return (← get).cursor

def goto (c : Cursor) : Scanning Unit := modify fun s => { s with cursor := c }

def now : Scanning Char := return (← get).cursor.now

def forward (n : Nat) : Scanning Unit := modify fun s => { s with cursor := s.cursor.forward n }

def takeWhile (inClass : Char → Bool) : Scanning Text := do
  let (t, c) := (← place).takeWhile inClass
  goto c
  return t

def takeBreak : Scanning Text := do
  let (t, c) := (← place).takeBreak
  goto c
  return t

def expect (inClass : Char → Bool) : Scanning Unit := do
  if !inClass (← now) then fail

def add (t : Token) : Scanning Unit :=
  modify fun s => { s with found := t :: s.found, count := s.count + 1 }

/-- Forgets the tokens that can be keys no more: a key is on one line and not too long. -/
def dropStaleKeys : Scanning Unit := do
  let s ← get
  let isStale := fun k : PossibleKey => k.line != s.cursor.line || s.cursor.index - k.index > 1024
  if s.keys.any fun k => isStale k.2 && k.2.required then fail
  set { s with keys := s.keys.filter fun k => !isStale k.2 }

/-- Forgets the token that may be a key inside the current brackets. -/
def dropKey : Scanning Unit := do
  let s ← get
  match s.keys.lookup s.flowLevel with
  | none => return ()
  | some k =>
    if k.required then fail
    set { s with keys := s.keys.filter (·.1 != s.flowLevel) }

/-- Notes that the next token may be a key. -/
def noteKey : Scanning Unit := do
  let s ← get
  if s.keyAllowed then
    dropKey
    let required := s.flowLevel = 0 && s.indent = (s.cursor.column : Int)
    let key := ⟨s.count, required, s.cursor.index, s.cursor.line, s.cursor.column⟩
    modify fun s => { s with keys := (s.flowLevel, key) :: s.keys }

/-- Ends the blocks that are further in than a column: those that are left, the column of the
innermost of them, and how many were ended. -/
def unwind (column : Int) : List Int → Int → List Int × Int × Nat
  | [], indent => ([], indent, 0)
  | o :: outer, indent =>
    if column < indent then
      let (left, indent, ended) := unwind column outer o
      (left, indent, ended + 1)
    else (o :: outer, indent, 0)

/-- Ends the blocks that are further in than a column, outside brackets. -/
def unwindTo (column : Int) : Scanning Unit := modify fun s =>
  if s.flowLevel ≠ 0 then s
  else
    let (outer, indent, ended) := unwind column s.outer s.indent
    { s with
      outer, indent, found := List.replicate ended .blockEnd ++ s.found, count := s.count + ended }

/-- Starts a block at a column unless it has started; whether it did. -/
def indentTo (column : Int) : Scanning Bool := do
  let s ← get
  if s.indent < column then
    set { s with indent := column, outer := s.indent :: s.outer }
    return true
  else return false

def allowKey (allowed : Bool) : Scanning Unit := modify fun s => { s with keyAllowed := allowed }

def skipComment : Scanning Unit := do
  if (← now) = '#' then
    let _ ← takeWhile (!isBreakOrEnd ·)

/-- Skips the rest of a line that holds nothing but a comment. -/
def skipLine : Scanning Unit := do
  let _ ← takeWhile (· == ' ')
  skipComment
  expect isBreakOrEnd
  let _ ← takeBreak

/-- Skips spaces, comments and line breaks up to the next token. -/
def skipToToken : Nat → Scanning Unit
  | 0 => return ()
  | fuel + 1 => do
    let c ← place
    if c.index = 0 && c.now = '\uFEFF' then forward 1
    let _ ← takeWhile (· == ' ')
    skipComment
    if !(← takeBreak).isEmpty then
      if (← get).flowLevel = 0 then allowKey true
      skipToToken fuel

def takeHex (n : Nat) : Scanning Nat := do
  let digits := (← place).ahead.take n
  if digits.length < n || !digits.all (Numeral.digitValue · < 16) then fail
  forward n
  return Numeral.valueOf 16 digits

/-- Takes bytes that are written as numbers behind percent signs. -/
def takeBytes : Nat → Scanning (List UInt8)
  | 0 => return []
  | fuel + 1 => do
    if (← now) = '%' then
      forward 1
      let b ← takeHex 2
      return UInt8.ofNat b :: (← takeBytes fuel)
    else return []

def takeUri : Nat → Scanning Text
  | 0 => return []
  | fuel + 1 => do
    let plain := fun c : Char =>
      c.isAlphanum || c ∈ ("-;/?:@&=+$,_.!~*'()[]".toList)
    let t ← takeWhile plain
    if (← now) = '%' then
      let bytes ← takeBytes (fuel + 1)
      match Codec.utf8.decode true bytes with
      | .ok (u, _) => return t ++ u ++ (← takeUri fuel)
      | .error _ => fail
    else return t

/-- Takes the characters of a tag, of which there must be some. -/
def takeSomeUri : Scanning Text := do
  let t ← takeUri ((← place).ahead.length + 1)
  if t.isEmpty then fail
  return t

/-- Takes the handle of a tag: an exclamation mark, or a name between two of them. -/
def takeHandle : Scanning Text := do
  expect (· == '!')
  forward 1
  if (← now) = ' ' then return ['!']
  let name ← takeWhile isNameChar
  expect (· == '!')
  forward 1
  return '!' :: name ++ ['!']

def takeNumber : Scanning Nat := do
  expect Char.isDigit
  let digits ← takeWhile Char.isDigit
  if Numeral.digitLimit < digits.length then throw (.tooLong digits.length)
  return Numeral.valueOf 10 digits

def takeDirective : Scanning Directive := do
  forward 1
  let name ← takeWhile isNameChar
  if name.isEmpty then fail
  expect isSpaceOrEnd
  if name = "YAML".toList then
    let _ ← takeWhile (· == ' ')
    let major ← takeNumber
    expect (· == '.')
    forward 1
    let _ ← takeNumber
    expect isSpaceOrEnd
    skipLine
    return .version major
  else if name = "TAG".toList then
    let _ ← takeWhile (· == ' ')
    let handle ← takeHandle
    expect (· == ' ')
    let _ ← takeWhile (· == ' ')
    let start ← takeSomeUri
    expect isSpaceOrEnd
    skipLine
    return .handle handle start
  else
    let _ ← takeWhile (!isBreakOrEnd ·)
    skipLine
    return .unknown

def takeAnchor : Scanning Text := do
  forward 1
  let name ← takeWhile isNameChar
  if name.isEmpty then fail
  expect fun c => isGapOrEnd c || c ∈ ['?', ':', ',', ']', '\x7d', '%', '@', '\x60']
  return name

def takeTag : Scanning Token := do
  let c ← place
  let second := c.peek 1
  let tag ←
    if second = '<' then do
      forward 2
      let suffix ← takeSomeUri
      expect (· == '>')
      forward 1
      pure (Token.tag none suffix)
    else if isGapOrEnd second then do
      forward 1
      pure (Token.tag none ['!'])
    else do
      let rest := (c.step.ahead).takeWhile fun x => !isSpaceOrEnd x
      if rest.contains '!' then
        let handle ← takeHandle
        let suffix ← takeSomeUri
        pure (Token.tag (some handle) suffix)
      else
        forward 1
        let suffix ← takeSomeUri
        pure (Token.tag (some ['!']) suffix)
  expect isSpaceOrEnd
  return tag

/-- What happens to the line breaks at the end of a block scalar. -/
inductive Chomping where
  | clip
  | strip
  | keep
  deriving DecidableEq, Repr

def chomping? : Char → Option Chomping
  | '+' => some .keep
  | '-' => some .strip
  | _ => none

/-- Takes a digit for the indentation of a block scalar, which is not zero. -/
def takeIndentDigit : Scanning (Option Nat) := do
  let c ← now
  if c.isDigit then
    if c = '0' then fail
    forward 1
    return some (c.toNat - 48)
  else return none

/-- Takes the signs behind the indicator of a block scalar, in either order. -/
def takeBlockSigns : Scanning (Chomping × Option Nat) := do
  match chomping? (← now) with
  | some chomping =>
    forward 1
    let increment ← takeIndentDigit
    expect isSpaceOrEnd
    return (chomping, increment)
  | none =>
    match ← takeIndentDigit with
    | none =>
      expect isSpaceOrEnd
      return (.clip, none)
    | some increment =>
      match chomping? (← now) with
      | some chomping =>
        forward 1
        expect isSpaceOrEnd
        return (chomping, some increment)
      | none =>
        expect isSpaceOrEnd
        return (.clip, some increment)

/-- Takes the blank lines at the start of a block scalar, behind others of which the last comes
first, and finds how far its lines are in. -/
def takeIndentation : Nat → List Text → Nat → Scanning (List Text × Nat)
  | 0, breaks, most => return (breaks.reverse, most)
  | fuel + 1, breaks, most => do
    let c ← now
    if c = ' ' then
      forward 1
      takeIndentation fuel breaks (max most (← place).column)
    else if isBreak c then
      let b ← takeBreak
      takeIndentation fuel (b :: breaks) most
    else return (breaks.reverse, most)

def skipIndent (column : Nat) : Nat → Scanning Unit
  | 0 => return ()
  | fuel + 1 => do
    let c ← place
    if c.column < column && c.now = ' ' then
      forward 1
      skipIndent column fuel

/-- Takes blank lines, behind others of which the last comes first, and the indentation of the line
behind them. -/
def takeBlankLines (column : Nat) : Nat → List Text → Scanning (List Text)
  | 0, breaks => return breaks.reverse
  | fuel + 1, breaks => do
    skipIndent column (column + 1)
    if isBreak (← now) then
      let b ← takeBreak
      takeBlankLines column fuel (b :: breaks)
    else return breaks.reverse

/-- Takes the lines of a block scalar, from the blank lines in front of one of them on. Gives its
parts, its last line break and the blank lines at its end. Of the parts so far the last comes first. -/
def takeBlockLines (folded : Bool) (column : Nat) :
    Nat → List Text → List Text → Scanning (List Text × Text × List Text)
  | 0, parts, breaks => return (parts.reverse, [], breaks)
  | fuel + 1, parts, breaks => do
    let c ← place
    if c.column = column && c.now ≠ endMark then
      let solid := !(c.now ∈ [' ', '\t'])
      let line ← takeWhile (!isBreakOrEnd ·)
      let lineBreak ← takeBreak
      let parts := line :: breaks.reverse ++ parts
      let breaks ← takeBlankLines column (fuel + 1) []
      let c ← place
      if c.column = column && c.now ≠ endMark then
        let join :=
          if folded && lineBreak = ['\n'] && solid && !(c.now ∈ [' ', '\t']) then
            if breaks.isEmpty then [' '] else []
          else lineBreak
        takeBlockLines folded column fuel (join :: parts) breaks
      else return (parts.reverse, lineBreak, breaks)
    else return (parts.reverse, [], breaks)

def takeBlockScalar (folded : Bool) : Scanning Text := do
  forward 1
  let (chomping, increment) ← takeBlockSigns
  skipLine
  let s ← get
  let fuel := s.cursor.ahead.length + 1
  let least := max 1 (s.indent + 1).toNat
  let (breaks, column) ←
    match increment with
    | none => do
      let (breaks, most) ← takeIndentation fuel [] 0
      pure (breaks, max least most)
    | some n => do
      let column := least + n - 1
      pure (← takeBlankLines column fuel [], column)
  let (parts, lineBreak, breaks) ← takeBlockLines folded column fuel [] breaks
  let ending :=
    match chomping with
    | .strip => []
    | .clip => [lineBreak]
    | .keep => lineBreak :: breaks
  return (parts ++ ending).flatten

/-- The character that a letter behind a backslash stands for. -/
def escaped? (c : Char) : Option Char :=
  [('0', '\x00'), ('a', '\x07'), ('b', '\x08'), ('t', '\t'), ('\t', '\t'), ('n', '\n'),
   ('v', '\x0B'), ('f', '\x0C'), ('r', '\r'), ('e', '\x1B'), (' ', ' '), ('"', '"'),
   ('\\', '\\'), ('/', '/'), ('N', '\u0085'), ('_', '\u00A0'), ('L', '\u2028'),
   ('P', '\u2029')].lookup c

/-- How many digits follow a letter that asks for a character by its number. -/
def codeLength? (c : Char) : Option Nat := [('x', 2), ('u', 4), ('U', 8)].lookup c

/-- Takes blank lines inside quotes, behind others of which the last comes first. -/
def takeQuotedBreaks : Nat → List Text → Scanning (List Text)
  | 0, breaks => return breaks.reverse
  | fuel + 1, breaks => do
    if (← place).seesSeparator then fail
    let _ ← takeWhile fun c => c == ' ' || c == '\t'
    if isBreak (← now) then
      let b ← takeBreak
      takeQuotedBreaks fuel (b :: breaks)
    else return breaks.reverse

/-- A part of what stands between quotes: a text, or one half of a character by its number. -/
inductive QuotedPart where
  | text (t : Text)
  | half (code : Nat)
  deriving DecidableEq, Repr

/-- The text of some parts, none of which is empty. Two halves that belong together are one
character, and any other half stands for none that can be shown. -/
def textOfParts : List QuotedPart → Text
  | [] => []
  | .text t :: rest => t ++ textOfParts rest
  | .half high :: .half low :: rest =>
    if high < 0xDC00 && 0xDC00 ≤ low then
      Char.ofNat (0x10000 + (high - 0xD800) * 0x400 + (low - 0xDC00)) :: textOfParts rest
    else '\uFFFD' :: textOfParts (.half low :: rest)
  | .half _ :: rest => '\uFFFD' :: textOfParts rest

/-- The character, or the half of one, of a number. -/
def charOf (code : Nat) : Scanning QuotedPart := do
  if 0xD800 ≤ code && code < 0xE000 then return .half code
  else if code < 0x110000 then return .text [Char.ofNat code]
  else if code < 0x80000000 then throw .noCharacter
  else throw .hugeCharacter

/-- Takes what a backslash inside double quotes stands for. -/
def takeEscape (fuel : Nat) : Scanning QuotedPart := do
  forward 1
  let c ← now
  match escaped? c, codeLength? c with
  | some x, _ =>
    forward 1
    return .text [x]
  | none, some n =>
    forward 1
    charOf (← takeHex n)
  | none, none =>
    if isBreak c then
      let _ ← takeBreak
      return .text (← takeQuotedBreaks fuel []).flatten
    else fail

/-- Takes spaces and line breaks inside quotes. A single line break stands for a space. -/
def takeQuotedSpaces (fuel : Nat) : Scanning Text := do
  let spaces ← takeWhile fun c => c == ' ' || c == '\t'
  let c ← now
  if c = endMark then fail
  else if isBreak c then
    let lineBreak ← takeBreak
    let breaks ← takeQuotedBreaks fuel []
    let join := if lineBreak ≠ ['\n'] then lineBreak else if breaks.isEmpty then [' '] else []
    return join ++ breaks.flatten
  else return spaces

/-- Takes what stands between quotes, behind its parts so far, the last of which comes first. -/
def takeQuoted (double : Bool) : Nat → List QuotedPart → Scanning Text
  | 0, _ => fail
  | fuel + 1, parts => do
    let more := fun part : QuotedPart =>
      takeQuoted double fuel (if part = .text [] then parts else part :: parts)
    let c ← place
    let solid := fun c : Char => !(isGapOrEnd c || c ∈ ['\'', '"', '\\'])
    if solid c.now then more (.text (← takeWhile solid))
    else if !double && c.now = '\'' && c.peek 1 = '\'' then
      forward 2
      more (.text ['\''])
    else if c.now = (if double then '"' else '\'') then
      forward 1
      return textOfParts parts.reverse
    else if c.now ∈ ['\'', '"'] || (!double && c.now = '\\') then
      forward 1
      more (.text [c.now])
    else if c.now = '\\' then more (← takeEscape (fuel + 1))
    else more (.text (← takeQuotedSpaces (fuel + 1)))

/-- Takes blank lines inside a plain scalar, behind others of which the last comes first, or nothing
where a document ends. -/
def takePlainBreaks : Nat → List Text → Scanning (Option (List Text))
  | 0, breaks => return some breaks.reverse
  | fuel + 1, breaks => do
    let c ← now
    if c = ' ' then
      forward 1
      takePlainBreaks fuel breaks
    else if isBreak c then
      let b ← takeBreak
      if (← place).seesSeparator then return none
      takePlainBreaks fuel (b :: breaks)
    else return some breaks.reverse

/-- Takes spaces and line breaks inside a plain scalar, if there are any and it may go on. -/
def takePlainSpaces (fuel : Nat) : Scanning (Option Text) := do
  let spaces ← takeWhile (· == ' ')
  if isBreak (← now) then
    let lineBreak ← takeBreak
    allowKey true
    if (← place).seesSeparator then return none
    match ← takePlainBreaks fuel [] with
    | none => return none
    | some breaks =>
      let join := if lineBreak ≠ ['\n'] then lineBreak else if breaks.isEmpty then [' '] else []
      return some (join ++ breaks.flatten)
  else return if spaces.isEmpty then none else some spaces

/-- How many characters of a plain scalar come next. -/
def plainLength (inFlow : Bool) : Text → Nat
  | [] => 0
  | c :: rest =>
    let next := rest.headD endMark
    let stops := isGapOrEnd c
      || (c == ':' && (isGapOrEnd next || (inFlow && next ∈ [',', '[', ']', '\x7b', '\x7d'])))
      || (inFlow && c ∈ [',', '?', '[', ']', '\x7b', '\x7d'])
    if stops then 0 else plainLength inFlow rest + 1

/-- Takes a plain scalar, behind its parts so far and the spaces behind them. -/
def takePlain (column : Int) : Nat → List Text → Text → Scanning Text
  | 0, parts, _ => return parts.reverse.flatten
  | fuel + 1, parts, spaces => do
    let s ← get
    let length := if s.cursor.now = '#' then 0
      else plainLength (s.flowLevel ≠ 0) s.cursor.ahead
    if length = 0 then return parts.reverse.flatten
    allowKey false
    forward length
    let parts := s.cursor.ahead.take length :: spaces :: parts
    match ← takePlainSpaces (fuel + 1) with
    | none => return parts.reverse.flatten
    | some more =>
      let t ← get
      if t.cursor.now = '#' || (t.flowLevel = 0 && (t.cursor.column : Int) < column) then
        return parts.reverse.flatten
      takePlain column fuel parts more

def fetchMark (t : Token) : Scanning Unit := do
  unwindTo (-1)
  dropKey
  allowKey false
  forward 3
  add t

def fetchOpening (t : Token) : Scanning Unit := do
  noteKey
  modify fun s => { s with flowLevel := s.flowLevel + 1, keyAllowed := true }
  forward 1
  add t

/-- Closes brackets, which must be open. -/
def fetchClosing (t : Token) : Scanning Unit := do
  dropKey
  if (← get).flowLevel = 0 then fail
  modify fun s => { s with flowLevel := s.flowLevel - 1, keyAllowed := false }
  forward 1
  add t

/-- Starts a block at the current column, where a key may begin. -/
def fetchBlock (start : Token) : Scanning Unit := do
  let s ← get
  if s.flowLevel = 0 then
    if !s.keyAllowed then fail
    if ← indentTo s.cursor.column then add start

def fetchEntry : Scanning Unit := do
  fetchBlock .sequenceStart
  allowKey true
  dropKey
  forward 1
  add .entry

def fetchKey : Scanning Unit := do
  fetchBlock .mappingStart
  allowKey ((← get).flowLevel = 0)
  dropKey
  forward 1
  add .key

def insert (number : Nat) (t : Token) : Scanning Unit := modify fun s =>
  let behind := s.count - number
  { s with found := s.found.take behind ++ t :: s.found.drop behind, count := s.count + 1 }

/-- Finds a value. The token that may be its key is one now. -/
def fetchValue : Scanning Unit := do
  let s ← get
  match s.keys.lookup s.flowLevel with
  | some k =>
    set { s with keys := s.keys.filter (·.1 != s.flowLevel) }
    insert k.number .key
    if s.flowLevel = 0 then
      if ← indentTo k.column then insert k.number .mappingStart
    allowKey false
  | none =>
    fetchBlock .mappingStart
    allowKey (s.flowLevel = 0)
    dropKey
  forward 1
  add .value

/-- Whether a plain scalar begins with a character in front of another one. -/
def startsPlain (inFlow : Bool) (c next : Char) : Bool :=
  !(isGapOrEnd c || c ∈ ("-?:,[]\x7b\x7d#&*!|>'\"%@\x60".toList))
    || (!isGapOrEnd next && (c == '-' || (!inFlow && c ∈ ['?', ':'])))

def fetchScalar (take : Scanning Token) : Scanning Unit := do
  noteKey
  allowKey false
  add (← take)

def fetchEnd : Scanning Unit := do
  unwindTo (-1)
  dropKey
  add .textEnd

/-- Finds the next token, and those that it makes clear, in a text with fewer characters than the
given number. Whether there may be more. -/
def fetch (fuel : Nat) : Scanning Bool := do
  skipToToken fuel
  dropStaleKeys
  unwindTo (← place).column
  let s ← get
  let c := s.cursor
  let inFlow := s.flowLevel ≠ 0
  let atStart := c.column = 0
  let beforeGap := isGapOrEnd (c.peek 1)
  if c.now = endMark then
    fetchEnd
    return false
  if c.now = '%' && atStart then
    unwindTo (-1)
    dropKey
    allowKey false
    add (.directive (← takeDirective))
  else if atStart && c.seesMark '-' then fetchMark .documentStart
  else if atStart && c.seesMark '.' then fetchMark .documentEnd
  else if c.now = '[' then fetchOpening .flowSequenceStart
  else if c.now = '\x7b' then fetchOpening .flowMappingStart
  else if c.now = ']' then fetchClosing .flowSequenceEnd
  else if c.now = '\x7d' then fetchClosing .flowMappingEnd
  else if c.now = ',' then
    allowKey true
    dropKey
    forward 1
    add .flowEntry
  else if c.now = '-' && beforeGap then fetchEntry
  else if c.now = '?' && (inFlow || beforeGap) then fetchKey
  else if c.now = ':' && (inFlow || beforeGap) then fetchValue
  else if c.now = '*' then fetchScalar do return .alias (← takeAnchor)
  else if c.now = '&' then fetchScalar do return .anchor (← takeAnchor)
  else if c.now = '!' then fetchScalar takeTag
  else if (c.now = '|' || c.now = '>') && !inFlow then
    allowKey true
    dropKey
    add (.scalar false (← takeBlockScalar (c.now = '>')))
  else if c.now = '\'' || c.now = '"' then
    fetchScalar do
      forward 1
      return .scalar false (← takeQuoted (c.now = '"') (2 * fuel) [])
  else if startsPlain inFlow c.now (c.peek 1) then
    fetchScalar do return .scalar true (← takePlain (s.indent + 1) fuel [] [])
  else fail
  return true

/-- The tokens that are certain. One that may still turn out to be a key is not, and so are not
those behind it. -/
def certain (s : Scan) : List Token :=
  match s.keys.map (·.2.number) with
  | [] => s.found.reverse
  | n :: rest => s.found.reverse.take (rest.foldl min n)

/-- Finds the next token, and forgets what can be a key no more. Whether there may be more. -/
def advance (fuel : Nat) : Scanning Bool := do
  let more ← fetch fuel
  if more then dropStaleKeys
  return more

/-- What is wrong where a search stands in a source of so many characters with a fault at its end, or
else what it met on the way there. -/
def faultAt (size : Nat) (atEnd : Option Fault) (s : Scan) (met : Option Fault) : Option Fault :=
  if size ≤ s.cursor.index then atEnd <|> met else met

/-- Finds all tokens of a source of so many characters with a fault at its end, or those that are
certain in front of the first fault. -/
def run (size : Nat) (atEnd : Option Fault) : Nat → Scan → List Token × Option Fault
  | 0, s => (s.certain, some .malformed)
  | fuel + 1, s =>
    let (result, next) := (advance (size + 1)).run.run s
    let met := match result with
      | .ok _ => none
      | .error fault => some fault
    match faultAt size atEnd next met, result with
    | some fault, _ => (s.certain, some fault)
    | none, .ok true => run size atEnd fuel next
    | none, _ => (next.found.reverse, none)

end Scan

/-- The tokens of an input in front of its first fault, and the fault. -/
def Token.ofInput (input : Input) : List Token × Option Fault :=
  let size := input.text.length
  Scan.run size input.fault (2 * size + 2) { cursor := { ahead := input.text } }

end SentenceReader.Yaml

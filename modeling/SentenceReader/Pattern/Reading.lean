import SentenceReader.Pattern.Host
import SentenceReader.Pattern.Syntax
import SentenceReader.Text.Identifier

/-! Reading of written patterns. A pattern is read symbol by symbol, where a backslash and the
character behind it are one symbol; a fault is reported where the reader stands or a little before
it. Reading takes at least one symbol at every other call, which bounds the calls by the length. -/
namespace SentenceReader

inductive PatternSymbol where
  | plain (c : Char)
  | escaped (c : Char)
  /-- A backslash with nothing behind it. -/
  | dangling
  deriving DecidableEq, Repr

namespace PatternSymbol

def ofText : Text → List PatternSymbol
  | [] => []
  | ['\\'] => [dangling]
  | '\\' :: c :: rest => escaped c :: ofText rest
  | c :: rest => plain c :: ofText rest

def toText : PatternSymbol → Text
  | plain c => [c]
  | escaped c => ['\\', c]
  | dangling => ['\\']

end PatternSymbol

/-- Where the reading of a pattern stands. -/
structure PatternReader where
  ahead : List PatternSymbol
  position : Nat := 0
  flags : PatternFlags := {}
  /-- The number of the next group. -/
  nextGroup : Nat := 1
  names : List (Text × Nat) := []
  /-- The groups that are complete, with their widths. -/
  widths : List (Nat × (Nat × Nat)) := []
  /-- The number of the next group when the outermost look-behind began. -/
  lookbehind : Option Nat := none
  /-- Tests of groups, with their positions; the groups may come later. -/
  tested : List (Nat × Nat) := []

namespace PatternReader

abbrev Reading := StateT PatternReader (Except PatternFault)

/-- Fails, so many characters before the place where the reader stands. -/
def fail {α : Type} (reason : PatternReason) (back : Nat) : Reading α := fun r =>
  .error ⟨reason, some (r.position - back)⟩

def peek : Reading (Option PatternSymbol) := fun r => .ok (r.ahead.head?, r)

def sees (c : Char) : Reading Bool := do return (← peek) == some (.plain c)

def place : Reading Nat := fun r => .ok (r.position, r)

/-- Looks at the symbol ahead, which must not be half of one. -/
def check : Reading Unit := do
  if (← peek) == some .dangling then fail .danglingEscape 0

def next : Reading (Option PatternSymbol) := do
  let r ← get
  match r.ahead with
  | [] => return none
  | s :: rest =>
    set { r with ahead := rest, position := r.position + s.toText.length }
    check
    return some s

/-- Takes the next symbol if it is a given plain character. -/
def take (c : Char) : Reading Bool := do
  if ← sees c then
    let _ ← next
    return true
  else return false

/-- Takes at most so many plain characters of a kind. -/
def takeUpTo (kind : Char → Bool) : Nat → Reading Text
  | 0 => return []
  | n + 1 => do
    match ← peek with
    | some (.plain c) =>
      if kind c then
        let _ ← next
        return c :: (← takeUpTo kind n)
      else return []
    | _ => return []

def takeUntil (close : Char) (what : String) : Nat → Text → Reading Text
  | 0, _ => fail (.missing what) 0
  | fuel + 1, taken => do
    match ← next with
    | none =>
      if taken.isEmpty then fail (.missing what) 0
      else fail (.missing (String.ofList [close] ++ ", unterminated name")) taken.length
    | some s =>
      if s = .plain close then
        if taken.isEmpty then fail (.missing what) 1 else return taken
      else takeUntil close what fuel (taken ++ s.toText)

def takeName (close : Char) : Reading Text := do
  takeUntil close "group name" ((← get).ahead.length + 1) []

def isOctal (c : Char) : Bool := '0' ≤ c && c ≤ '7'
def isHex (c : Char) : Bool := c.isDigit || ('a' ≤ c && c ≤ 'f') || ('A' ≤ c && c ≤ 'F')

def literal (code : Nat) : SetMember := .literal code

def control? : Char → Option Nat
  | 'a' => some 7
  | 'b' => some 8
  | 'f' => some 12
  | 'n' => some 10
  | 'r' => some 13
  | 't' => some 9
  | 'v' => some 11
  | '\\' => some 92
  | _ => none

/-- The classes of characters that have a letter, in capitals for all others. -/
def class? : Char → Option SetMember
  | 'd' => some (.ofClass .digit false)
  | 'D' => some (.ofClass .digit true)
  | 's' => some (.ofClass .space false)
  | 'S' => some (.ofClass .space true)
  | 'w' => some (.ofClass .word false)
  | 'W' => some (.ofClass .word true)
  | _ => none

/-- A character by so many hexadecimal digits, behind its letter. -/
def hexEscape (letter : Char) (digits : Nat) : Reading SetMember := do
  let taken ← takeUpTo isHex digits
  let escape := '\\' :: letter :: taken
  if taken.length ≠ digits then fail (.incompleteEscape escape) escape.length
  else
    let code := Numeral.valueOf 16 taken
    if code > 0x10FFFF then fail (.badEscape escape) escape.length
    else return literal code

/-- A character by three octal digits at most, of which some have been taken. -/
def octalValue (taken : Text) : Reading SetMember := do
  let code := Numeral.valueOf 8 taken
  let escape := '\\' :: taken
  if code > 0o377 then fail (.octalEscape escape) escape.length else return literal code

variable [PatternHost]

def namedEscape : Reading SetMember := do
  if ← take '\x7b' then
    let name ← takeUntil '\x7d' "character name" ((← get).ahead.length + 1) []
    match PatternHost.charNamed? name with
    | some c => return literal c.toNat
    | none => fail (.characterName name) (name.length + 4)
  else fail (.missing "\x7b") 0

/-- The member of a set that a backslash and a letter stand for. -/
def setEscape (c : Char) : Reading SetMember := do
  match control? c, class? c with
  | some code, _ => return literal code
  | none, some m => return m
  | none, none =>
    if c = 'x' then hexEscape c 2
    else if c = 'u' then hexEscape c 4
    else if c = 'U' then hexEscape c 8
    else if c = 'N' then namedEscape
    else if isOctal c then octalValue (c :: (← takeUpTo isOctal 2))
    else if c.isDigit || c.isAlpha then fail (.badEscape ['\\', c]) 2
    else return literal c.toNat

def isComplete (r : PatternReader) (group : Nat) : Bool := r.widths.any (·.1 == group)

/-- A look-behind may only refer to groups that ended before it. -/
def checkLookbehind (group : Nat) : Reading Unit := do
  let r ← get
  match r.lookbehind with
  | none => return ()
  | some first =>
    if !r.isComplete group then fail .openGroup 0
    else if first ≤ group then fail .groupInLookbehind 0

/-- A reference to a group, written with so many characters. -/
def reference (group : Nat) (length : Nat) : Reading Pattern := do
  if !(← get).isComplete group then fail .openGroup length
  checkLookbehind group
  return .backReference group

/-- A number behind a backslash: a character in octal if it has three octal digits, else a group. -/
def numberEscape (c : Char) : Reading Pattern := do
  let second ← takeUpTo Char.isDigit 1
  let third ←
    if second.length = 1 && isOctal c && second.all isOctal then takeUpTo isOctal 1 else pure []
  if third.length = 1 then
    return .set false [← octalValue (c :: second ++ third)]
  else
    let digits := c :: second
    let group := Numeral.valueOf 10 digits
    if group < (← get).nextGroup then reference group (digits.length + 1)
    else fail (.groupReference group) digits.length

/-- What a backslash and a letter stand for outside sets. -/
def escape (c : Char) : Reading Pattern := do
  if c = 'A' then return .anchor .textStart
  else if c = 'Z' then return .anchor .textEnd
  else if c = 'b' then return .anchor (.wordEdge false)
  else if c = 'B' then return .anchor (.wordEdge true)
  else match class? c with
    | some m => return .set false [m]
    | none =>
      if c = '0' then return .set false [literal (Numeral.valueOf 8 (← takeUpTo isOctal 2))]
      else if c.isDigit then numberEscape c
      else return .set false [← setEscape c]

def setSymbol : PatternSymbol → Reading SetMember
  | .plain c => return literal c.toNat
  | .escaped c => setEscape c
  | .dangling => fail .danglingEscape 0

/-- The members of a set up to its closing bracket, from the position of the opening one. -/
def setMembers (start : Nat) : Nat → List SetMember → Reading (List SetMember)
  | 0, _ => fail .unterminatedSet 0
  | fuel + 1, members => do
    let unterminated {α : Type} : Reading α := do fail .unterminatedSet ((← place) - start)
    match ← next with
    | none => unterminated
    | some first =>
      if first = .plain ']' && !members.isEmpty then return members.reverse
      else
        let m ← setSymbol first
        if ← take '-' then
          match ← next with
          | none => unterminated
          | some (.plain ']') => return (literal '-'.toNat :: m :: members).reverse
          | some last =>
            let k ← setSymbol last
            let range := PatternReason.badRange first.toText last.toText
            let length := first.toText.length + 1 + last.toText.length
            match m, k with
            | .literal a, .literal b =>
              if b < a then fail range length
              else setMembers start fuel (.range a b :: members)
            | _, _ => fail range length
        else setMembers start fuel (m :: members)

def bound (digits : Text) : Reading Nat := do
  if Numeral.digitLimit < digits.length then throw ⟨.repeatTooLong digits.length, none⟩
  let n := Numeral.valueOf 10 digits
  if Pattern.repeatLimit ≤ n then throw ⟨.repeatTooLarge, none⟩
  return n

/-- The bounds of a repeat, behind its opening brace at a position, or none if what follows does
not read as bounds. -/
def bounds (start : Nat) : Reading (Option (Nat × Option Nat)) := do
  let before ← get
  if ← sees '\x7d' then return none
  let length := before.ahead.length
  let low ← takeUpTo Char.isDigit length
  let high ← if ← take ',' then takeUpTo Char.isDigit length else pure low
  if ← take '\x7d' then
    let least ← bound low
    let most ← if high.isEmpty then pure none else do pure (some (← bound high))
    match most with
    | some n => if n < least then fail .repeatBounds ((← place) - start)
    | none => pure ()
    return some (least, most)
  else
    set before
    return none

/-- Sets a repeat on the last part that was read, for a sign of so many characters. -/
def repeatLast (start length : Nat) (least : Nat) (most : Option Nat) (parts : List Pattern) :
    Reading (List Pattern) := do
  let nothing {α : Type} : Reading α := do
    fail .nothingToRepeat ((← place) - start + length)
  match parts with
  | [] => nothing
  | .anchor _ :: _ => nothing
  | .repeated .. :: _ => fail .multipleRepeat ((← place) - start + length)
  | p :: rest =>
    if ← take '?' then return .repeated least most .lazy p :: rest
    else if ← take '+' then return .repeated least most .possessive p :: rest
    else return .repeated least most .greedy p :: rest

def flag? : Char → Option PatternFlags
  | 'i' => some { ignoreCase := true }
  | 'm' => some { multiline := true }
  | 's' => some { dotAll := true }
  | 'x' => some { verbose := true }
  | 'a' => some { asciiOnly := true }
  | 'u' => some { unicode := true }
  | 'L' | 't' => some {}
  | _ => none

/-- Options to set and to clear inside a group, or to set for the whole pattern. -/
inductive FlagChange where
  | everywhere
  | inside (add del : PatternFlags)

/-- The letters of options to clear, up to the colon. -/
def flagsOff (add : PatternFlags) : Nat → PatternFlags → Bool → Char → Reading FlagChange
  | 0, _, _, _ => fail (.missing ":") 0
  | fuel + 1, del, global, c => do
    if c = 'a' || c = 'u' || c = 'L' then
      fail (.inlineFlags "cannot turn off flags 'a', 'u' and 'L'") 0
    else
      let del := del.union ((flag? c).getD {})
      let global := global || c = 't'
      match ← next with
      | none => fail (.missing ":") 0
      | some (.plain ':') =>
        if global then fail (.inlineFlags "cannot turn off global flag") 1
        else if add.without (add.without del) ≠ {} then
          fail (.inlineFlags "flag turned on and off") 1
        else return .inside add del
      | some (.plain d) =>
        if (flag? d).isSome then flagsOff add fuel del global d
        else fail (if isLetter d then .unknownFlag else .missing ":") 1
      | some s => fail (.missing ":") s.toText.length

/-- The start of the options to clear, behind the dash. -/
def flagsDash (add : PatternFlags) (fuel : Nat) : Reading FlagChange := do
  match ← next with
  | none => fail (.missing "flag") 0
  | some (.plain c) =>
    if (flag? c).isSome then flagsOff add fuel {} false c
    else fail (if isLetter c then .unknownFlag else .missing "flag") 1
  | some s => fail (.missing "flag") s.toText.length

/-- The letters of options to set, up to a colon, a dash or the end of the group. -/
def flagsOn : Nat → PatternFlags → Bool → Char → Reading FlagChange
  | 0, _, _, _ => fail (.missing "-, : or )") 0
  | fuel + 1, add, global, c => do
    if c = 'L' then
      fail (.inlineFlags "cannot use 'L' flag with a str pattern") 0
    else
      let add := add.union ((flag? c).getD {})
      let global := global || c = 't'
      if add.asciiOnly && add.unicode then
        fail (.inlineFlags "flags 'a', 'u' and 'L' are incompatible") 0
      match ← next with
      | none => fail (.missing "-, : or )") 0
      | some (.plain ')') =>
        modify fun r => { r with flags := r.flags.union add }
        return .everywhere
      | some (.plain ':') =>
        if global then fail (.inlineFlags "cannot turn on global flag") 1
        else return .inside add {}
      | some (.plain '-') =>
        if global then fail (.inlineFlags "cannot turn on global flag") 1
        else flagsDash add fuel
      | some (.plain d) =>
        if (flag? d).isSome then flagsOn fuel add global d
        else fail (if isLetter d then .unknownFlag else .missing "-, : or )") 1
      | some s => fail (.missing "-, : or )") s.toText.length

def skipComment (start : Nat) : Nat → Reading Unit
  | 0 => fail (.missing "), unterminated comment") 0
  | fuel + 1 => do
    match ← peek with
    | none => fail (.missing "), unterminated comment") ((← place) - start)
    | some s =>
      let _ ← next
      if s ≠ .plain ')' then skipComment start fuel

def skipLine : Nat → Reading Unit
  | 0 => return ()
  | fuel + 1 => do
    match ← next with
    | none => return ()
    | some s => if s ≠ .plain '\n' then skipLine fuel

def openGroup (name : Option Text) : Reading Nat := do
  let r ← get
  let index := r.nextGroup
  match name with
  | none => set { r with nextGroup := index + 1 }
  | some n =>
    match r.names.lookup n with
    | some earlier => fail (.sameName n index earlier) (n.length + 1)
    | none => set { r with nextGroup := index + 1, names := (n, index) :: r.names }
  return index

def widthOf (r : PatternReader) (group : Nat) : Nat × Nat :=
  (r.widths.lookup group).getD (0, Pattern.widthLimit)

def closeGroup (index : Nat) (body : Pattern) : Reading Unit :=
  modify fun r => { r with widths := (index, body.width r.widthOf) :: r.widths }

def closing (start : Nat) : Reading Unit := do
  if !(← take ')') then fail .unterminatedSubpattern ((← place) - start)

/-- What a group is, as told by the characters behind its parenthesis. -/
inductive GroupKind where
  | plain (name : Option Text)
  | scoped (add del : PatternFlags)
  | atomic
  | look (ahead negated : Bool)
  | conditional (index : Nat)
  | complete (p : Pattern)
  | nothing

/-- A group by name: one to be captured, or a reference to one. -/
def namedGroup : Reading GroupKind := do
  if ← take '<' then
    let name ← takeName '>'
    if name.isIdentifier then return .plain (some name) else fail (.groupName name) (name.length + 1)
  else if ← take '=' then
    let name ← takeName ')'
    if !name.isIdentifier then fail (.groupName name) (name.length + 1)
    else match (← get).names.lookup name with
      | none => fail (.unknownGroup name) (name.length + 1)
      | some index => return .complete (← reference index (name.length + 1))
  else match ← next with
    | none => fail .endOfPattern 0
    | some s => fail (.unknownExtension ('P' :: s.toText)) (s.toText.length + 2)

def groupLimit : Nat := 1073741823

def testedGroup : Reading GroupKind := do
  let name ← takeName ')'
  if name.isIdentifier then
    match (← get).names.lookup name with
    | none => fail (.unknownGroup name) (name.length + 1)
    | some index =>
      checkLookbehind index
      return .conditional index
  else
    let index ←
      match Numeral.read 10 name with
      | .ok (.ofNat n) => pure n
      | _ => fail (.groupName name) (name.length + 1)
    if index = 0 then fail .groupNumber (name.length + 1)
    if groupLimit ≤ index then fail (.groupReference index) (name.length + 1)
    let r ← get
    if !r.tested.any (·.1 == index) then
      set { r with tested := r.tested ++ [(index, r.position - name.length - 1)] }
    checkLookbehind index
    return .conditional index

/-- Tells the kind of a group, at whose parenthesis the position is. -/
def groupKind (start : Nat) (mayBeFlags : Bool) : Reading GroupKind := do
  if !(← take '?') then return .plain none
  let length := (← get).ahead.length + 1
  match ← next with
  | none => fail .endOfPattern 0
  | some (.plain 'P') => namedGroup
  | some (.plain ':') => return .scoped {} {}
  | some (.plain '>') => return .atomic
  | some (.plain '=') => return .look true false
  | some (.plain '!') => return .look true true
  | some (.plain '(') => testedGroup
  | some (.plain '#') =>
    skipComment start length
    return .nothing
  | some (.plain '<') =>
    match ← next with
    | none => fail .endOfPattern 0
    | some (.plain '=') => return .look false false
    | some (.plain '!') => return .look false true
    | some s => fail (.unknownExtension ('<' :: s.toText)) (s.toText.length + 2)
  | some s =>
    let change ← match s with
      | .plain '-' => flagsDash {} length
      | .plain c =>
        if (flag? c).isSome then flagsOn length {} false c
        else fail (.unknownExtension [c]) 2
      | s => fail (.unknownExtension s.toText) (s.toText.length + 1)
    match change with
    | .inside add del => return .scoped add del
    | .everywhere =>
      if mayBeFlags then return .nothing else fail .lateFlags ((← place) - start)

mutual

def alternatives (fuel : Nat) (verbose top : Bool) (before : List Pattern) : Reading Pattern := do
  match fuel with
  | 0 => fail .endOfPattern 0
  | fuel + 1 =>
    let p ← sequence fuel verbose (top && before.isEmpty) []
    if ← take '|' then
      let flags := (← get).flags
      alternatives fuel (if top then flags.verbose else verbose) top (p :: before)
    else return .ofAlternatives (p :: before).reverse

/-- Reads parts up to the next alternative; the parts so far are in reverse order. -/
def sequence (fuel : Nat) (verbose first : Bool) (parts : List Pattern) : Reading Pattern := do
  match fuel with
  | 0 => fail .endOfPattern 0
  | fuel + 1 =>
    let add := fun p : Pattern => sequence fuel verbose first (p :: parts)
    match ← peek with
    | none => return .ofSequence parts.reverse
    | some .dangling => fail .danglingEscape 0
    | some (.escaped c) =>
      let _ ← next
      add (← escape c)
    | some (.plain c) =>
      if c = '|' || c = ')' then return .ofSequence parts.reverse
      let _ ← next
      if verbose && (c = ' ' || ('\t' ≤ c && c ≤ '\r')) then sequence fuel verbose first parts
      else if verbose && c = '#' then
        skipLine (fuel + 1)
        sequence fuel verbose first parts
      else if c = '[' then
        let start := (← place) - 1
        let negated ← take '^'
        add (.set negated (← setMembers start ((← get).ahead.length + 1) []))
      else if c = '*' || c = '+' || c = '?' then
        let least := if c = '+' then 1 else 0
        let most := if c = '?' then some 1 else none
        sequence fuel verbose first (← repeatLast (← place) 1 least most parts)
      else if c = '\x7b' then
        let start ← place
        match ← bounds start with
        | none => add (.set false [literal c.toNat])
        | some (least, most) =>
          sequence fuel verbose first (← repeatLast start 1 least most parts)
      else if c = '.' then add .anyChar
      else if c = '^' then add (.anchor .lineStart)
      else if c = '$' then add (.anchor .lineEnd)
      else if c = '(' then
        let start := (← place) - 1
        match ← groupKind start (first && parts.isEmpty) with
        | .nothing =>
          let flags := (← get).flags
          let verbose := if first && parts.isEmpty then flags.verbose else verbose
          sequence fuel verbose first parts
        | .complete p => add p
        | .plain name =>
          let index ← openGroup name
          let p ← alternatives fuel verbose false []
          closing start
          closeGroup index p
          add (.capture index p)
        | .scoped on off =>
          let p ← alternatives fuel ((verbose || on.verbose) && !off.verbose) false []
          closing start
          add (.group on off p)
        | .atomic =>
          let p ← alternatives fuel verbose false []
          closing start
          add (.atomic p)
        | .look ahead negated =>
          let outer := (← get).lookbehind
          if !ahead && outer.isNone then
            modify fun r => { r with lookbehind := some r.nextGroup }
          let p ← alternatives fuel verbose false []
          if !ahead && outer.isNone then modify fun r => { r with lookbehind := none }
          closing start
          add (.look ahead negated p)
        | .conditional index =>
          let yes ← sequence fuel verbose false []
          let no ← if ← take '|' then sequence fuel verbose false [] else pure .empty
          if ← sees '|' then fail .branches 0
          closing start
          add (.conditional index yes no)
      else add (.set false [literal c.toNat])

end

/-- What is wrong with the first look-behind that does not take a fixed number of characters, or
too many of them. -/
def lookbehindFault? (widths : Nat → Nat × Nat) : Pattern → Option PatternReason
  | .look false _ p =>
    let (a, b) := p.width widths
    if Pattern.repeatLimit < a then some .lookbehindTooWide
    else if a ≠ b then some .lookbehindWidth
    else lookbehindFault? widths p
  | .look true _ p | .capture _ p | .group _ _ p | .atomic p | .repeated _ _ _ p =>
    lookbehindFault? widths p
  | .seq p q | .either p q | .conditional _ p q =>
    lookbehindFault? widths p <|> lookbehindFault? widths q
  | .empty | .anyChar | .set .. | .anchor _ | .backReference _ => none

/-- Reads a whole pattern; the options for all of it are around the tree. -/
def whole (length : Nat) : Reading Pattern := do
  check
  let p ← alternatives (4 * length + 8) false true []
  if (← get).flags.asciiOnly && (← get).flags.unicode then throw ⟨.clashingFlags, none⟩
  if (← peek).isSome then fail .unbalancedParenthesis 0
  let r ← get
  match r.tested.find? fun t => r.nextGroup ≤ t.1 with
  | some (index, position) => throw ⟨.groupReference index, some position⟩
  | none =>
    match lookbehindFault? r.widthOf p with
    | some reason => throw ⟨reason, none⟩
    | none => return .group r.flags {} p

end PatternReader

/-- Reads a written pattern. Only groups lie in each other. -/
def Pattern.ofText [PatternHost] (written : Text) : Except PatternFault Pattern :=
  match if written.contains '(' then PatternHost.tooDeep? written else none with
  | some words => .error ⟨.tooDeep words, none⟩
  | none =>
    match (PatternReader.whole written.length).run { ahead := PatternSymbol.ofText written } with
    | .ok (p, _) => .ok p
    | .error fault => .error fault

end SentenceReader

import SentenceReader.Text.Numeral
import SentenceReader.Text.Quoted

/-! Patterns for the names of elements: their trees, and what can be wrong with a written one. -/
namespace SentenceReader

/-- Options inside a pattern: which characters count as equal and where lines end. -/
structure PatternFlags where
  ignoreCase : Bool := false
  multiline : Bool := false
  dotAll : Bool := false
  verbose : Bool := false
  asciiOnly : Bool := false
  /-- Asked for by name; it is what holds anyway. -/
  unicode : Bool := false
  deriving DecidableEq, Repr, Inhabited

namespace PatternFlags

def union (a b : PatternFlags) : PatternFlags :=
  ⟨a.ignoreCase || b.ignoreCase, a.multiline || b.multiline, a.dotAll || b.dotAll,
    a.verbose || b.verbose, a.asciiOnly || b.asciiOnly, a.unicode || b.unicode⟩

/-- The options of the first that are not in the second. -/
def without (a b : PatternFlags) : PatternFlags :=
  ⟨a.ignoreCase && !b.ignoreCase, a.multiline && !b.multiline, a.dotAll && !b.dotAll,
    a.verbose && !b.verbose, a.asciiOnly && !b.asciiOnly, a.unicode && !b.unicode⟩

/-- The options inside a group that sets some and clears others. A choice of character classes
replaces the one outside. -/
def inside (outer add del : PatternFlags) : PatternFlags :=
  let outer := if add.asciiOnly || add.unicode then { outer with asciiOnly := false } else outer
  (outer.union add).without del

end PatternFlags

/-- Classes of characters that have a letter of their own in patterns. -/
inductive CharClass where
  | digit
  | word
  | space
  deriving DecidableEq, Repr

/-- A member of a set of characters. -/
inductive SetMember where
  | literal (code : Nat)
  | range (first last : Nat)
  | ofClass (c : CharClass) (negated : Bool)
  deriving DecidableEq, Repr

/-- A place in a text, which takes no characters. -/
inductive Anchor where
  | lineStart
  | lineEnd
  | textStart
  | textEnd
  | wordEdge (negated : Bool)
  deriving DecidableEq, Repr

/-- How often a repeated part is tried first. -/
inductive Eagerness where
  | greedy
  | lazy
  | possessive
  deriving DecidableEq, Repr

inductive Pattern where
  | empty
  | anyChar
  | set (negated : Bool) (members : List SetMember)
  | anchor (a : Anchor)
  | seq (first second : Pattern)
  | either (first second : Pattern)
  | repeated (least : Nat) (most : Option Nat) (how : Eagerness) (body : Pattern)
  | capture (index : Nat) (body : Pattern)
  | group (add del : PatternFlags) (body : Pattern)
  | atomic (body : Pattern)
  | look (ahead negated : Bool) (body : Pattern)
  | backReference (index : Nat)
  | conditional (index : Nat) (present absent : Pattern)
  deriving DecidableEq, Repr, Inhabited

namespace Pattern

def ofSequence (parts : List Pattern) : Pattern :=
  match parts with
  | [] => empty
  | [p] => p
  | p :: rest => seq p (ofSequence rest)

def ofAlternatives (parts : List Pattern) : Pattern :=
  match parts with
  | [] => empty
  | [p] => p
  | p :: rest => either p (ofAlternatives rest)

/-- A number of repeats that no pattern can name. -/
def repeatLimit : Nat := 4294967295

/-- The largest width that is told apart from larger ones. -/
def widthLimit : Nat := 18446744073709551616

/-- The least and the greatest number of characters that a pattern takes, as far as such numbers
are told apart. The widths of captured groups are given, for references to them. -/
def width (groups : Nat → Nat × Nat) : Pattern → Nat × Nat
  | empty | anchor _ | look .. => (0, 0)
  | anyChar | set .. => (1, 1)
  | seq p q =>
    let (a, b) := p.width groups
    let (c, d) := q.width groups
    limited (a + c) (b + d)
  | either p q | conditional _ p q =>
    let (a, b) := p.width groups
    let (c, d) := q.width groups
    (min a c, max b d)
  | repeated least most _ p =>
    let (a, b) := p.width groups
    limited (least * a) (if b = 0 then 0 else (most.map (· * b)).getD widthLimit)
  | capture _ p | group _ _ p | atomic p => p.width groups
  | backReference n => groups n
where
  /-- Numbers of characters no larger than the ones that are told apart. -/
  limited (least most : Nat) : Nat × Nat := (min least widthLimit, min most widthLimit)

end Pattern

/-- What is wrong with a written pattern. -/
inductive PatternReason where
  | unterminatedSubpattern
  | unbalancedParenthesis
  | nothingToRepeat
  | multipleRepeat
  | repeatBounds
  /-- The number of repeats has too many digits; holds how many. -/
  | repeatTooLong (digits : Nat)
  | repeatTooLarge
  | unterminatedSet
  | badRange (first last : Text)
  | badEscape (escape : Text)
  | danglingEscape
  | incompleteEscape (escape : Text)
  | octalEscape (escape : Text)
  | characterName (name : Text)
  | endOfPattern
  | unknownExtension (written : Text)
  | missing (what : String)
  | groupName (name : Text)
  | unknownGroup (name : Text)
  | groupReference (index : Nat)
  | groupNumber
  | openGroup
  | groupInLookbehind
  | sameName (name : Text) (index earlier : Nat)
  | branches
  | lateFlags
  | unknownFlag
  | inlineFlags (why : String)
  | lookbehindWidth
  | lookbehindTooWide
  /-- The whole pattern is said to be both in ASCII and in Unicode. -/
  | clashingFlags
  /-- The groups lie too deep in each other; holds what is said of that. -/
  | tooDeep (words : Text)
  deriving DecidableEq, Repr

/-- How grave a fault of a pattern is. -/
inductive PatternGravity where
  /-- The pattern is not well-formed. -/
  | malformed
  /-- A value in it is none that can be meant. -/
  | badValue
  /-- A number in it is too large to deal with, or its depth is. -/
  | tooLarge
  deriving DecidableEq, Repr

/-- A fault of a written pattern, with the place where it shows, if it shows at one. -/
structure PatternFault where
  reason : PatternReason
  position : Option Nat
  deriving DecidableEq, Repr

namespace PatternReason

def gravity : PatternReason → PatternGravity
  | repeatTooLarge | tooDeep _ => .tooLarge
  | repeatTooLong _ | clashingFlags => .badValue
  | _ => .malformed

def message : PatternReason → Text
  | unterminatedSubpattern => "missing ), unterminated subpattern".toList
  | unbalancedParenthesis => "unbalanced parenthesis".toList
  | nothingToRepeat => "nothing to repeat".toList
  | multipleRepeat => "multiple repeat".toList
  | repeatBounds => "min repeat greater than max repeat".toList
  | repeatTooLong digits => Numeral.tooLongMessage digits
  | repeatTooLarge => "the repetition number is too large".toList
  | unterminatedSet => "unterminated character set".toList
  | badRange first last => "bad character range ".toList ++ first ++ '-' :: last
  | badEscape escape => "bad escape ".toList ++ escape
  | danglingEscape => "bad escape (end of pattern)".toList
  | incompleteEscape escape => "incomplete escape ".toList ++ escape
  | octalEscape escape =>
    "octal escape value ".toList ++ escape ++ " outside of range 0-0o377".toList
  | characterName name => "undefined character name ".toList ++ Text.quoted name
  | endOfPattern => "unexpected end of pattern".toList
  | unknownExtension written => "unknown extension ?".toList ++ written
  | missing what => "missing ".toList ++ what.toList
  | groupName name => "bad character in group name ".toList ++ Text.quoted name
  | unknownGroup name => "unknown group name ".toList ++ Text.quoted name
  | groupReference index => "invalid group reference ".toList ++ Text.ofNat index
  | groupNumber => "bad group number".toList
  | openGroup => "cannot refer to an open group".toList
  | groupInLookbehind =>
    "cannot refer to group defined in the same lookbehind subpattern".toList
  | sameName name index earlier =>
    "redefinition of group name ".toList ++ Text.quoted name ++ " as group ".toList
      ++ Text.ofNat index ++ "; was group ".toList ++ Text.ofNat earlier
  | branches => "conditional backref with more than two branches".toList
  | lateFlags => "global flags not at the start of the expression".toList
  | unknownFlag => "unknown flag".toList
  | inlineFlags why => "bad inline flags: ".toList ++ why.toList
  | lookbehindTooWide => "looks too much behind".toList
  | lookbehindWidth => "look-behind requires fixed-width pattern".toList
  | clashingFlags => "ASCII and UNICODE flags are incompatible".toList
  | tooDeep words => words

end PatternReason

namespace PatternFault

/-- The line and the column of a position in a written pattern, both counted from one. -/
def lineAndColumn (written : Text) (position : Nat) : Nat × Nat :=
  let front := written.take position
  (front.count '\n' + 1, (front.reverse.takeWhile (· != '\n')).length + 1)

/-- The message about a fault of a written pattern. Lines are named where there are several. -/
def message (written : Text) (fault : PatternFault) : Text :=
  match fault.position with
  | none => fault.reason.message
  | some n =>
    let at1 := fault.reason.message ++ " at position ".toList ++ Text.ofNat n
    if written.contains '\n' then
      let (line, column) := lineAndColumn written n
      at1 ++ " (line ".toList ++ Text.ofNat line ++ ", column ".toList ++ Text.ofNat column ++ [')']
    else at1

end PatternFault

end SentenceReader

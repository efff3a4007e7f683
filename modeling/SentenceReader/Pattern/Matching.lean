import SentenceReader.Pattern.Reading
import SentenceReader.Text.CaseFold

/-! Matching of patterns. A search holds the attempts that are left, the first one first; an attempt
is a place in the text and the tasks that are still to be done from there. It takes up the first task
of the first attempt and puts the ways to go on in its place, so that an attempt that leads nowhere
gives way to the next one. -/
namespace SentenceReader

/-- A place in a text, and the texts of the groups captured on the way to it. -/
structure MatchPlace where
  /-- The characters that were taken, the last one first. -/
  taken : Text
  /-- How many characters were taken. -/
  position : Nat
  ahead : Text
  groups : List (Nat × Text) := []
  deriving Repr

namespace MatchPlace

def start (t : Text) : MatchPlace := { taken := [], position := 0, ahead := t }

def step (p : MatchPlace) (c : Char) (rest : Text) : MatchPlace :=
  { p with taken := c :: p.taken, position := p.position + 1, ahead := rest }

end MatchPlace

namespace CharClass

def contains (asciiOnly : Bool) (c : Char) : CharClass → Bool
  | digit => if asciiOnly then c.isDigit else isDigitChar c
  | word => isWordChar c && (!asciiOnly || c.toNat < 0x80)
  | space => isBlank c && (!asciiOnly || (c.toNat < 0x80 && (c.toNat < 0x1C || c = ' ')))

end CharClass

namespace SetMember

/-- Whether a member of a set covers a character, which may stand for all its variants. -/
def covers (flags : PatternFlags) (c : Char) : SetMember → Bool
  | literal code => (candidates flags c).contains code
  | range first last =>
    (candidates flags c).any fun n => decide (first ≤ n) && decide (n ≤ last)
  | ofClass k negated => k.contains flags.asciiOnly c != negated
where
  /-- The code points that a character is compared by. -/
  candidates (flags : PatternFlags) (c : Char) : List Nat :=
    if !flags.ignoreCase then [c.toNat]
    else if flags.asciiOnly then [c.toNat, c.toLower.toNat, c.toUpper.toNat]
    else c.toNat :: CaseFold.variants c.toNat

end SetMember

namespace Anchor

def holds (flags : PatternFlags) (p : MatchPlace) : Anchor → Bool
  | lineStart => p.taken.isEmpty || (flags.multiline && p.taken.head? == some '\n')
  | lineEnd =>
    p.ahead.isEmpty || p.ahead == ['\n'] || (flags.multiline && p.ahead.head? == some '\n')
  | textStart => p.taken.isEmpty
  | textEnd => p.ahead.isEmpty
  | wordEdge negated =>
    let isWord := fun c : Option Char => c.any fun c => CharClass.word.contains flags.asciiOnly c
    (isWord p.taken.head? != isWord p.ahead.head?) != negated

end Anchor

namespace Pattern

def same (flags : PatternFlags) (a b : Char) : Bool :=
  (SetMember.literal a.toNat).covers flags b

def test? (flags : PatternFlags) : Pattern → Option (Char → Bool)
  | anyChar => some fun c => flags.dotAll || c != '\n'
  | set negated members => some fun c => members.any (·.covers flags c) != negated
  | group add del p => p.test? (flags.inside add del)
  | _ => none

end Pattern

namespace MatchPlace

def takeChar? (test : Char → Bool) (p : MatchPlace) : Option MatchPlace :=
  match p.ahead with
  | c :: rest => if test c then some (p.step c rest) else none
  | [] => none

def takeText? (same : Char → Char → Bool) : Text → MatchPlace → Option MatchPlace
  | [], p => some p
  | c :: t, p => (p.takeChar? (same c)).bind (takeText? same t)

/-- The places behind the next characters that a test accepts, so many at most if a number is
given; the place furthest ahead comes first. -/
def run (test : Char → Bool) : Text → Option Nat → MatchPlace → List MatchPlace →
    List MatchPlace
  | [], _, p, nearer => p :: nearer
  | c :: rest, most, p, nearer =>
    if most ≠ some 0 && test c then
      run test rest (most.map (· - 1)) (p.step c rest) (p :: nearer)
    else p :: nearer

/-- The places behind a number of characters that a test accepts, in the order of their trial. -/
def runs (test : Char → Bool) (least : Nat) (most : Option Nat) (how : Eagerness)
    (p : MatchPlace) : List MatchPlace :=
  let places := run test p.ahead most p []
  let places := places.take (places.length - least)
  match how with
  | .greedy => places
  | .lazy => places.reverse
  | .possessive => places.take 1

/-- The place so many characters earlier, if there are so many. -/
def back? (width : Nat) (p : MatchPlace) : Option MatchPlace :=
  if p.position < width then none
  else some
    { taken := p.taken.drop width
      position := p.position - width
      ahead := (p.taken.take width).reverse ++ p.ahead
      groups := p.groups }

def capture (index start : Nat) (p : MatchPlace) : MatchPlace :=
  let t := (p.taken.take (p.position - start)).reverse
  { p with groups := (index, t) :: p.groups.filter (·.1 != index) }

end MatchPlace

/-- A repeat under way. -/
structure Repeat where
  flags : PatternFlags
  body : Pattern
  least : Nat
  most : Option Nat
  how : Eagerness
  /-- How often the body was taken. -/
  count : Nat := 0
  /-- Where it was taken last, beyond the least number of times. -/
  last : Option Nat := none

namespace Repeat

/-- Whether the body is taken once more in any case. -/
def mustGoOn (r : Repeat) : Bool := r.count < r.least

/-- Whether the body may be taken at a position; a body that took nothing is the last one. -/
def mayGoOn (r : Repeat) (position : Nat) : Bool :=
  r.most.all (r.count < ·) && r.last != some position

/-- The repeat with its body taken once more, at a position if that is beyond the least. -/
def further (r : Repeat) (position : Nat) : Repeat :=
  { r with
    count := r.count + 1
    last := if r.mustGoOn then r.last else some position }

end Repeat

inductive MatchTask where
  | take (flags : PatternFlags) (p : Pattern)
  /-- Captures what was taken since a position. -/
  | close (index start : Nat)
  | goOn (r : Repeat)

/-- A place, and the tasks to be done from there. -/
structure Attempt where
  tasks : List MatchTask
  place : MatchPlace

namespace Attempt

/-- The attempt that goes on from a place with no more tasks, if there is a place. -/
def from? (tasks : List MatchTask) (p : Option MatchPlace) : List Attempt :=
  p.toList.map (⟨tasks, ·⟩)

/-- The attempts that take a repeat further, or leave it at that. What a possessive body takes is
the first that it can. -/
def repeating (first : Attempt → Option MatchPlace) (r : Repeat) (tasks : List MatchTask)
    (p : MatchPlace) : List Attempt :=
  let next := r.further p.position
  if r.how = .possessive then
    if r.mustGoOn || r.mayGoOn p.position then
      match first ⟨[.take r.flags r.body], p⟩ with
      | some q => [⟨.goOn next :: tasks, q⟩]
      | none => if r.mustGoOn then [] else [⟨tasks, p⟩]
    else [⟨tasks, p⟩]
  else
    let onward : Attempt := ⟨.take r.flags r.body :: .goOn next :: tasks, p⟩
    if r.mustGoOn then [onward]
    else if !r.mayGoOn p.position then [⟨tasks, p⟩]
    else if r.how = .lazy then [⟨tasks, p⟩, onward]
    else [onward, ⟨tasks, p⟩]

/-- The attempts that look around from a place, which they do not leave. -/
def looking (found : Option MatchPlace) (negated : Bool) (tasks : List MatchTask)
    (p : MatchPlace) : List Attempt :=
  match found, negated with
  | some q, false => [⟨tasks, { p with groups := q.groups }⟩]
  | none, true => [⟨tasks, p⟩]
  | _, _ => []

/-- The attempts that take a pattern first. What an attempt leads to can be asked for, where only
places that a test accepts count. -/
def taking (search : (MatchPlace → Bool) → Attempt → Option MatchPlace) (flags : PatternFlags)
    (tasks : List MatchTask) (p : MatchPlace) : Pattern → List Attempt
  | .empty => [⟨tasks, p⟩]
  | .anyChar => from? tasks (p.takeChar? fun c => flags.dotAll || c != '\n')
  | .set negated members =>
    from? tasks (p.takeChar? fun c => members.any (·.covers flags c) != negated)
  | .anchor a => if a.holds flags p then [⟨tasks, p⟩] else []
  | .seq a b => [⟨.take flags a :: .take flags b :: tasks, p⟩]
  | .either a b => [⟨.take flags a :: tasks, p⟩, ⟨.take flags b :: tasks, p⟩]
  | .repeated least most how a =>
    match a.test? flags with
    | some test => (p.runs test least most how).map (⟨tasks, ·⟩)
    | none => [⟨.goOn { flags, body := a, least, most, how } :: tasks, p⟩]
  | .capture index a => [⟨.take flags a :: .close index p.position :: tasks, p⟩]
  | .group add del a => [⟨.take (flags.inside add del) a :: tasks, p⟩]
  | .atomic a => from? tasks (search (fun _ => true) ⟨[.take flags a], p⟩)
  | .look true negated a => looking (search (fun _ => true) ⟨[.take flags a], p⟩) negated tasks p
  | .look false negated a =>
    let width := (a.width (lengthOf p)).1
    let found := (p.back? width).bind fun start =>
      search (fun q => q.position == p.position) ⟨[.take flags a], start⟩
    looking found negated tasks p
  | .backReference index =>
    match p.groups.lookup index with
    | none => []
    | some t => from? tasks (p.takeText? (Pattern.same flags) t)
  | .conditional index a b =>
    [⟨.take flags (if (p.groups.lookup index).isSome then a else b) :: tasks, p⟩]
where
  /-- The length of a captured group. -/
  lengthOf (p : MatchPlace) (index : Nat) : Nat × Nat :=
    let n := ((p.groups.lookup index).getD []).length
    (n, n)

def next (search : (MatchPlace → Bool) → Attempt → Option MatchPlace) (task : MatchTask)
    (tasks : List MatchTask) (p : MatchPlace) : List Attempt :=
  match task with
  | .take flags a => taking search flags tasks p a
  | .close index start => [⟨tasks, p.capture index start⟩]
  | .goOn r => repeating (search fun _ => true) r tasks p

/-- The first place that attempts lead to and that a test accepts, within a number of steps. -/
def search : Nat → (MatchPlace → Bool) → List Attempt → Option MatchPlace
  | 0, _, _ => none
  | _, _, [] => none
  | steps + 1, accepted, ⟨[], p⟩ :: rest =>
    if accepted p then some p else search steps accepted rest
  | steps + 1, accepted, ⟨task :: tasks, p⟩ :: rest =>
    search steps accepted (next (fun test a => search steps test [a]) task tasks p ++ rest)

/-- More steps than any search can take. -/
def stepLimit : Nat := 0x3fffffffffffffff

end Attempt

namespace Pattern

def matchesAll (p : Pattern) (t : Text) : Bool :=
  (Attempt.search Attempt.stepLimit (·.ahead.isEmpty) [⟨[.take {} p], .start t⟩]).isSome

example : (ofText "b|s".toList).toOption.map (·.matchesAll "bs".toList) = some false := by
  decide +kernel
example : (ofText "(?:a|ab)".toList).toOption.map (·.matchesAll "ab".toList) = some true := by
  decide +kernel

end Pattern

end SentenceReader

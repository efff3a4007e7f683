import SentenceReader.Yaml.Fault

/-! A place in a YAML text, with the line and the column that the layout of the text depends on. -/
namespace SentenceReader.Yaml

/-- The character that stands for the end; no YAML text holds it. -/
def endMark : Char := '\x00'

def isBreak (c : Char) : Bool := c ∈ ['\r', '\n', '\u0085', '\u2028', '\u2029']

def isBreakOrEnd (c : Char) : Bool := isBreak c || c == endMark

def isSpaceOrEnd (c : Char) : Bool := c == ' ' || isBreakOrEnd c

def isGapOrEnd (c : Char) : Bool := c == '\t' || isSpaceOrEnd c

/-- A character that names in YAML are made of. -/
def isNameChar (c : Char) : Bool := c.isAlphanum || c == '-' || c == '_'

/-- Whether YAML texts may hold a character. -/
def isAllowed (c : Char) : Bool :=
  let n := c.toNat
  n == 9 || n == 10 || n == 13 || (0x20 ≤ n && n ≤ 0x7E) || n == 0x85 || (0xA0 ≤ n && n ≤ 0xD7FF)
    || (0xE000 ≤ n && n ≤ 0xFFFD) || 0x10000 ≤ n

/-- A place in a text: what is ahead, and how far it is from the start of the text, of its lines
and of its line. -/
structure Cursor where
  ahead : Text
  index : Nat := 0
  line : Nat := 0
  column : Nat := 0
  deriving Repr

namespace Cursor

def peek (c : Cursor) (n : Nat) : Char := c.ahead.getD n endMark

def now (c : Cursor) : Char := c.ahead.headD endMark

/-- The place behind the next character. A carriage return in front of a newline ends no line. -/
def step (c : Cursor) : Cursor :=
  match c.ahead with
  | [] => c
  | x :: rest =>
    let ends := x ∈ ['\n', '\u0085', '\u2028', '\u2029'] || (x == '\r' && rest.head? != some '\n')
    if ends then ⟨rest, c.index + 1, c.line + 1, 0⟩
    else ⟨rest, c.index + 1, c.line, if x = '\uFEFF' then c.column else c.column + 1⟩

def forward (c : Cursor) : Nat → Cursor
  | 0 => c
  | n + 1 => c.step.forward n

/-- The characters of a class that come next, and the place behind them. -/
def takeWhile (c : Cursor) (inClass : Char → Bool) : Text × Cursor :=
  let taken := c.ahead.takeWhile inClass
  (taken, c.forward taken.length)

/-- A line break, in its usual form, and the place behind it. -/
def takeBreak (c : Cursor) : Text × Cursor :=
  match c.ahead with
  | '\r' :: '\n' :: _ => (['\n'], c.forward 2)
  | x :: _ =>
    if x ∈ ['\r', '\n', '\u0085'] then (['\n'], c.step)
    else if isBreak x then ([x], c.step)
    else ([], c)
  | [] => ([], c)

/-- Whether three equal characters come next and then a gap, as where documents meet. -/
def seesMark (c : Cursor) (x : Char) : Bool :=
  c.ahead.take 3 == [x, x, x] && isGapOrEnd (c.peek 3)

/-- Whether a mark between documents comes next. -/
def seesSeparator (c : Cursor) : Bool := c.seesMark '-' || c.seesMark '.'

end Cursor

end SentenceReader.Yaml

import SentenceReader.Text.Digit

/-! Numerals: whole numbers as texts write them in some base. The digits may be those of any script,
white space around them does not count, and single underscores may stand between them. -/
namespace SentenceReader

/-- Why a text is no numeral. -/
inductive NumeralFault where
  | malformed
  /-- There are more digits than are read; holds how many there are. -/
  | tooLong (digits : Nat)
  deriving DecidableEq, Repr

namespace Numeral

/-- The most digits that are read, or written. -/
def digitLimit : Nat := 4300

def tooLongMessage (digits : Nat) : Text :=
  "Exceeds the limit (4300 digits) for integer string conversion: value has ".toList
    ++ Text.ofNat digits ++ " digits; use sys.set_int_max_str_digits() to increase the limit".toList

/-- Whether a number has so many digits that it is not written. -/
def isTooLong (n : Int) : Bool := Nat.pow 10 digitLimit ≤ n.natAbs

/-- A character outside ASCII as the digit or the space that it counts as, if it does. -/
def plainChar (c : Char) : Char :=
  if c.toNat < 0x80 then c
  else if isBlank c then ' '
  else match Digit.ranges.find? fun r => decide (r.1 ≤ c.toNat) && decide (c.toNat ≤ r.2) with
    | some r => Char.ofNat ('0'.toNat + (c.toNat - r.1) % 10)
    | none => c

/-- White space in ASCII that may stand around a numeral. -/
def isSpace (c : Char) : Bool := c == ' ' || ('\t' ≤ c && c ≤ '\r')

/-- A numeral in ASCII, without the white space around it. -/
def plain (t : Text) : Text :=
  let t := t.map plainChar
  ((t.dropWhile isSpace).reverse.dropWhile isSpace).reverse

def signed : Text → Bool × Text
  | '-' :: t => (true, t)
  | '+' :: t => (false, t)
  | t => (false, t)

def digitValue (c : Char) : Nat :=
  if c.isDigit then c.toNat - 48
  else if 'a' ≤ c && c ≤ 'z' then c.toNat - 87
  else if 'A' ≤ c && c ≤ 'Z' then c.toNat - 55
  else 36

def valueOf (base : Nat) (digits : Text) : Nat := digits.foldl (fun n c => base * n + digitValue c) 0

def baseLetter (base : Nat) : Option Char :=
  if base = 2 then some 'b' else if base = 8 then some 'o' else if base = 16 then some 'x' else none

/-- Digits without the name of their base in front, behind which an underscore may stand. -/
def dropBase (base : Nat) : Text → Text
  | '0' :: c :: rest =>
    if some c.toLower = baseLetter base then (if rest.head? = some '_' then rest.drop 1 else rest)
    else '0' :: c :: rest
  | t => t

/-- The whole number that a text writes in a base. Too many digits count before anything behind
them does. -/
def read (base : Nat) (t : Text) : Except NumeralFault Int :=
  let (negative, body) := signed (plain t)
  let (written, rest) := (dropBase base body).span fun c => digitValue c < base || c == '_'
  let runs := Text.fields '_' written
  let digits := runs.flatten
  if runs.any List.isEmpty then .error .malformed
  else if (baseLetter base).isNone && digitLimit < digits.length then
    .error (.tooLong digits.length)
  else if !rest.isEmpty then .error .malformed
  else
    let n : Int := valueOf base digits
    .ok (if negative then -n else n)

example : (read 10 " -1_0 ".toList).toOption = some (-10) ∧ (read 10 ['١']).toOption = some 1
    ∧ (read 16 "0x1F".toList).toOption = some 31 ∧ (read 10 "1__0".toList).toOption = none := by
  decide +kernel

end Numeral

end SentenceReader

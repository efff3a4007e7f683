import SentenceReader.Data.Basic
import SentenceReader.Text.LowerCase
import SentenceReader.Text.Numeral
import SentenceReader.Yaml.Fault

/-! Scalars: what a plain one is by its spelling alone, and the values that texts stand for. -/
namespace SentenceReader.Yaml

inductive ScalarKind where
  | null
  | flag
  | whole
  | decimal
  | timestamp
  /-- The key that merges a mapping into another one. -/
  | merge
  /-- The key under which a mapping holds what it stands for. -/
  | value
  | text
  deriving DecidableEq, Repr

namespace Scalar

def dropNewline (t : Text) : Text := if t.getLast? = some '\n' then t.dropLast else t

/-- A text that is not empty and of which all characters are in a class. -/
def isMade (inClass : Char → Bool) (t : Text) : Bool := !t.isEmpty && t.all inClass

def isDigitOrMark (c : Char) : Bool := c.isDigit || c == '_'

/-- Digits with marks between them. -/
def isRun : Text → Bool
  | [] => false
  | c :: rest => c.isDigit && rest.all isDigitOrMark

/-- A part of a number in base sixty behind the first one. -/
def isSixtieth : Text → Bool
  | [a] => a.isDigit
  | [a, b] => '0' ≤ a && a ≤ '5' && b.isDigit
  | _ => false

/-- Digits with marks between them, and at least one more part of a number in base sixty. -/
def isSixties (t : Text) : Bool :=
  match Text.fields ':' t with
  | first :: second :: rest => isRun first && (second :: rest).all isSixtieth
  | _ => false

def isWhole (t : Text) : Bool :=
  match (Numeral.signed t).2 with
  | '0' :: 'b' :: digits => isMade (· ∈ ['0', '1', '_']) digits
  | '0' :: 'x' :: digits =>
    isMade (fun c => isDigitOrMark c || ('a' ≤ c && c ≤ 'f') || ('A' ≤ c && c ≤ 'F')) digits
  | '0' :: digits => digits.all fun c => ('0' ≤ c && c ≤ '7') || c == '_'
  | t => isRun t || isSixties t

/-- The spelling of a power of ten behind a number, which may be left out. -/
def isPower : Text → Bool
  | [] => true
  | e :: sign :: digits =>
    (e == 'e' || e == 'E') && (sign == '+' || sign == '-') && isMade Char.isDigit digits
  | _ => false

/-- The spelling of what stands behind the point of a number. -/
def isFraction (t : Text) : Bool := isPower (t.dropWhile isDigitOrMark)

def isDecimal (t : Text) : Bool :=
  let body := (Numeral.signed t).2
  if ([".inf", ".Inf", ".INF"].map String.toList).contains body then true
  else if ([".nan", ".NaN", ".NAN"].map String.toList).contains t then true
  else match Text.cut '.' body with
    | (_, none) => false
    | ([], some fraction) =>
      t.head? = some '.' && fraction.head?.any Char.isDigit && isFraction fraction
    | (front, some fraction) =>
      (isRun front && isFraction fraction) || (isSixties front && fraction.all isDigitOrMark)

/-- Takes a number with so many digits at least and at most. -/
def takeNumber (least most : Nat) (t : Text) : Option (Nat × Text) :=
  let digits := (t.take most).takeWhile Char.isDigit
  if digits.length < least then none
  else some (Numeral.valueOf 10 digits, t.drop digits.length)

def takeChar (c : Char) : Text → Option Text
  | [] => none
  | x :: rest => if x = c then some rest else none

def isGap (c : Char) : Bool := c == ' ' || c == '\t'

/-- The six digits of a fraction of a second. -/
def microOf (digits : Text) : Nat :=
  Numeral.valueOf 10 (digits.take 6 ++ List.replicate (6 - digits.length) '0')

/-- Reads the distance from universal time at the end of a time. -/
def readAhead? (t : Text) : Option (Option Int) :=
  if t.isEmpty then some none
  else match t.dropWhile isGap with
    | ['Z'] => some (some 0)
    | sign :: rest => do
      if sign ≠ '+' ∧ sign ≠ '-' then none
      let (hours, rest) ← takeNumber 1 2 rest
      let (minutes, rest) ←
        match rest with
        | ':' :: rest => takeNumber 2 2 rest
        | rest => some (0, rest)
      if !rest.isEmpty then none
      let total : Int := hours * 60 + minutes
      return some (if sign = '-' then -total else total)
    | [] => none

def readTime? (t : Text) : Option DayTime := do
  let (hour, t) ← takeNumber 1 2 t
  let (minute, t) ← takeNumber 2 2 (← takeChar ':' t)
  let (second, t) ← takeNumber 2 2 (← takeChar ':' t)
  let (fraction, t) := match t with
    | '.' :: t => (t.takeWhile Char.isDigit, t.dropWhile Char.isDigit)
    | t => ([], t)
  let ahead ← readAhead? t
  return ⟨hour, minute, second, microOf fraction, ahead⟩

/-- Reads a date, with or without a time of the day. -/
def readTimestamp? (t : Text) : Option Timestamp := do
  let (year, t) ← takeNumber 4 4 t
  let (month, t) ← takeNumber 1 2 (← takeChar '-' t)
  let (day, t) ← takeNumber 1 2 (← takeChar '-' t)
  match t with
  | [] => return ⟨year, month, day, none⟩
  | c :: rest =>
    if c = 'T' ∨ c = 't' then return ⟨year, month, day, some (← readTime? rest)⟩
    else if isGap c then return ⟨year, month, day, some (← readTime? (rest.dropWhile isGap))⟩
    else none

/-- The spelling of a date. One without a time has all its digits. -/
def isTimestamp (t : Text) : Bool :=
  match readTimestamp? t with
  | none => false
  | some stamp => stamp.time.isSome || t.length = 10

def flagWords : List (Text × Bool) :=
  [("yes", true), ("no", false), ("true", true), ("false", false), ("on", true),
   ("off", false)].map fun w => (w.1.toList, w.2)

/-- A word in lower case, in capitals, and with a capital at its start. -/
def spellings (w : Text) : List Text :=
  [w, w.map Char.toUpper, w.take 1 |>.map Char.toUpper |>.append (w.drop 1)]

def isFlag (t : Text) : Bool := flagWords.any fun w => (spellings w.1).contains t

def isNull (t : Text) : Bool := t == ['~'] || (spellings "null".toList).contains t

def kindOf (t : Text) : ScalarKind :=
  if t.isEmpty then .null
  else
    let t := dropNewline t
    if isNull t then .null
    else if isFlag t then .flag
    else if isWhole t then .whole
    else if isDecimal t then .decimal
    else if isTimestamp t then .timestamp
    else if t = ['<', '<'] then .merge
    else if t = ['='] then .value
    else .text

def dropMarks (t : Text) : Text := t.filter (· ≠ '_')

def flag (t : Text) : Except Fault Data :=
  let word := LowerCase.ofText t
  match flagWords.lookup word with
  | some b => .ok (.bool b)
  | none => .error (.notAFlag word)

def wholeIn (base : Nat) (t : Text) : Except Fault Int :=
  (Numeral.read base t).mapError fun
    | .malformed => .notWhole base t
    | .tooLong digits => .tooLong digits

/-- The sum of the parts of a number in base sixty. -/
def sumSixties (parts : List Int) : Int := parts.foldl (fun n d => 60 * n + d) 0

def whole (t : Text) : Except Fault Data := do
  let t := dropMarks t
  if t.isEmpty then throw .noNumber
  let (negative, body) := Numeral.signed t
  let n ←
    match body with
    | [] => throw .noNumber
    | ['0'] => pure 0
    | '0' :: 'b' :: digits => wholeIn 2 digits
    | '0' :: 'x' :: digits => wholeIn 16 digits
    | '0' :: _ => wholeIn 8 body
    | _ =>
      if body.contains ':' then do
        let parts ← (Text.fields ':' body).mapM (wholeIn 10)
        pure (sumSixties parts)
      else wholeIn 10 body
  return .int (if negative then -n else n)

/-- The sign, the digits and the power of ten of a decimal that is written in full. -/
def decimalParts? (t : Text) : Option (Bool × Nat × Int) := do
  let (negative, body) := Numeral.signed (Numeral.plain t)
  let front := body.takeWhile Char.isDigit
  let rest := body.dropWhile Char.isDigit
  let (fraction, rest) := match rest with
    | '.' :: rest => (rest.takeWhile Char.isDigit, rest.dropWhile Char.isDigit)
    | rest => ([], rest)
  let digits := front ++ fraction
  if digits.isEmpty then none
  let power : Int ←
    match rest with
    | [] => pure 0
    | e :: power =>
      let (down, power) := Numeral.signed power
      if (e ≠ 'e' ∧ e ≠ 'E') || !isMade Char.isDigit power then none
      let n : Int := Numeral.valueOf 10 power
      pure (if down then -n else n)
  return (negative, Numeral.valueOf 10 digits, power - fraction.length)

/-- The number that a text in lower case writes. -/
def decimalOf (t : Text) : Except Fault Binary64 :=
  match decimalParts? t with
  | some (negative, digits, power) => .ok (.ofDecimal negative digits power)
  | none =>
    let (negative, body) := Numeral.signed (Numeral.plain t)
    if (["inf", "infinity"].map String.toList).contains body then .ok (.infinite negative)
    else if body = "nan".toList then .ok .notANumber
    else .error (.notANumber t)

/-- The sum of the parts of a number in base sixty, of which the last comes first. The first of
them has the given weight, and every product and every sum is rounded. -/
def sumWeighted : Nat → Binary64 → List Binary64 → Except Fault Binary64
  | _, sum, [] => .ok sum
  | weight, sum, part :: rest =>
    match Binary64.ofNat? weight with
    | some factor => sumWeighted (60 * weight) (sum.add (part.mul factor)) rest
    | none => .error .hugeNumber

def decimal (t : Text) : Except Fault Data := do
  let t := LowerCase.ofText (dropMarks t)
  if t.isEmpty then throw .noNumber
  let (negative, body) := Numeral.signed t
  let x ←
    if body = ".inf".toList then pure (Binary64.infinite false)
    else if body = ".nan".toList then pure Binary64.notANumber
    else if body.contains ':' then do
      let parts ← (Text.fields ':' body).mapM decimalOf
      sumWeighted 1 (.finite false 0 0) parts.reverse
    else decimalOf body
  return .float (if negative then x.negate else x)

def timestamp (t : Text) : Except Fault Data :=
  match readTimestamp? (dropNewline t) with
  | none => .error .notADate
  | some stamp =>
    match stamp.problem? with
    | some problem => .error (.impossibleDate problem)
    | none => .ok (.time stamp)

example : ["12:30", "1_000", "0x1F", "-0", "017", "1e3", "1.5", ".5", "2020-1-2", "", "="].map
    (fun t => kindOf t.toList) =
    [.whole, .whole, .whole, .whole, .whole, .text, .decimal, .decimal, .text, .null, .value] := by
  decide +kernel

example : ["12:30", "-0x1F", "017", "1_000"].map (fun t => (whole t.toList).toOption.bind Data.whole?)
    = [some 750, some (-31), some 15, some 1000] := by decide +kernel

end Scalar

end SentenceReader.Yaml

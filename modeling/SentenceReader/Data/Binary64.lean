import SentenceReader.Text.Basic

/-! Numbers in double precision, in exact arithmetic: the number nearest to a fraction, with ties to
the even neighbour, and the shortest decimal that stands for no other number. -/
namespace SentenceReader

/-- A number in double precision; a finite one is `mantissa * 2 ^ exponent` with its sign. -/
inductive Binary64 where
  | finite (negative : Bool) (mantissa : Nat) (exponent : Int)
  | infinite (negative : Bool)
  | notANumber
  deriving DecidableEq, Repr

namespace Binary64

/-- The quotient of two numbers, to the nearest, or to the even one of two. -/
def divideNearest (a b : Nat) : Nat :=
  let q := a / b
  let twice := 2 * (a % b)
  if twice > b || (twice = b && q % 2 = 1) then q + 1 else q

/-- A fraction times a power of two, as a fraction. -/
def shift (a b : Nat) (e : Int) : Nat × Nat :=
  if 0 ≤ e then (a * Nat.pow 2 e.toNat, b) else (a, b * Nat.pow 2 (-e).toNat)

/-- The exponent with which the mantissa of a fraction has 53 digits, or the least there is. -/
def exponentFor (a b : Nat) : Int :=
  let guess := (Nat.log2 a : Int) - Nat.log2 b - 52
  let (n, d) := shift a b (-guess)
  let e := if n < d * Nat.pow 2 52 then guess - 1 else guess
  max e (-1074)

def ofFraction (negative : Bool) (a b : Nat) : Binary64 :=
  if a = 0 then finite negative 0 0
  else
    let e := exponentFor a b
    let (n, d) := shift a b (-e)
    let m := divideNearest n d
    if 971 < e || (e = 971 && Nat.pow 2 53 ≤ m) then infinite negative
    else if m = Nat.pow 2 53 then finite negative (Nat.pow 2 52) (e + 1)
    else finite negative m e

/-- The number nearest to some digits times a power of ten. A power of ten has more than three
binary digits for each of its zeros, so that far too large and far too small numbers need no
computation. -/
def ofDecimal (negative : Bool) (digits : Nat) (exponent : Int) : Binary64 :=
  let size := (Nat.log2 digits : Int) + 3 * exponent
  if digits = 0 then finite negative 0 0
  else if 0 ≤ exponent then
    if 1100 < size then infinite negative
    else ofFraction negative (digits * Nat.pow 10 exponent.toNat) 1
  else if size < -1100 then finite negative 0 0
  else ofFraction negative digits (Nat.pow 10 (-exponent).toNat)

def negate : Binary64 → Binary64
  | finite negative m e => finite (!negative) m e
  | infinite negative => infinite !negative
  | notANumber => notANumber

/-- The number nearest to a whole number, if that is not too large. -/
def ofNat? (n : Nat) : Option Binary64 :=
  match ofFraction false n 1 with
  | infinite _ => none
  | x => some x

/-- The mantissa of a finite number with its sign, for an exponent that is not above its own. -/
def aligned (negative : Bool) (m : Nat) (e least : Int) : Int :=
  let n : Int := (m * Nat.pow 2 (e - least).toNat : Nat)
  if negative then -n else n

/-- The number nearest to a sum. A sum of nothing is negative only if both of its parts are. -/
def add : Binary64 → Binary64 → Binary64
  | notANumber, _ | _, notANumber => notANumber
  | infinite s, infinite t => if s = t then infinite s else notANumber
  | infinite s, finite .. => infinite s
  | finite .., infinite t => infinite t
  | finite s m e, finite t n f =>
    let least := min e f
    let sum := aligned s m e least + aligned t n f least
    let (a, b) := shift sum.natAbs 1 least
    ofFraction (if sum = 0 then s && t else decide (sum < 0)) a b

/-- The number nearest to a product. -/
def mul : Binary64 → Binary64 → Binary64
  | notANumber, _ | _, notANumber => notANumber
  | infinite s, infinite t => infinite (s != t)
  | infinite s, finite t n _ => if n = 0 then notANumber else infinite (s != t)
  | finite s m _, infinite t => if m = 0 then notANumber else infinite (s != t)
  | finite s m e, finite t n f =>
    let (a, b) := shift (m * n) 1 (e + f)
    ofFraction (s != t) a b

def whole? : Binary64 → Option Int
  | finite negative m e =>
    let (n, d) := shift m 1 e
    if n % d = 0 then some (if negative then -(n / d : Int) else (n / d : Int)) else none
  | _ => none

/-- The whole part of a number without its sign. -/
def floor : Binary64 → Nat
  | finite _ m e =>
    let (n, d) := shift m 1 e
    n / d
  | _ => 0

/-- How many digits stand in front of the point of a fraction, less one; a negative number counts
the zeros behind it. -/
def decimalExponent (a b : Nat) : Int :=
  if b ≤ a then ((Nat.toDigits 10 (a / b)).length : Int) - 1
  else -(((Nat.toDigits 10 (b / a)).length : Int) - (if b % a = 0 &&
    b / a = Nat.pow 10 ((Nat.toDigits 10 (b / a)).length - 1) then 1 else 0))

/-- The nearest decimal with so many digits that stands for a number, if one does. Below a power of
two the numbers are closer than above it, so that the one of the two neighbours that is farther off
may be the one that stands for it. -/
def withDigits? (x : Binary64) (a b count : Nat) : Option (Nat × Int) :=
  let e := decimalExponent a b - count + 1
  let scaled := if 0 ≤ e then (a, b * Nat.pow 10 e.toNat) else (a * Nat.pow 10 (-e).toNat, b)
  let below := scaled.1 / scaled.2
  let near := divideNearest scaled.1 scaled.2
  let far := if near = below then below + 1 else below
  ([near, far].find? fun digits => ofDecimal false digits e = x).map fun digits => (digits, e)

/-- The digits and the exponent of the shortest decimal for a positive number. -/
def shortest (m : Nat) (e : Int) : Nat × Int :=
  let (a, b) := shift m 1 e
  ((List.range 17).findSome? fun n => withDigits? (finite false m e) a b (n + 1)).getD (m, 0)

/-- The digits of a number without the zeros at its end, and how many those are. -/
def stripZeros (digits : Text) : Text × Nat :=
  let back := digits.reverse
  let kept := (back.dropWhile (· = '0')).reverse
  (kept, digits.length - kept.length)

/-- The text of a positive number: positional from one ten-thousandth up to ten to the sixteenth,
and always with a point there. -/
def positiveText (m : Nat) (e : Int) : Text :=
  let (n, e) := shortest m e
  let (digits, zeros) := stripZeros (Text.ofNat n)
  let e := e + zeros
  let front := (digits.length : Int) + e
  if -4 < front && front ≤ 16 then
    if front ≤ 0 then '0' :: '.' :: List.replicate (-front).toNat '0' ++ digits
    else if 0 ≤ e then digits ++ List.replicate e.toNat '0' ++ ['.', '0']
    else digits.take front.toNat ++ '.' :: digits.drop front.toNat
  else
    let power := front - 1
    let shown := Text.ofNat power.natAbs
    let padded := if shown.length < 2 then '0' :: shown else shown
    let mantissa := match digits with
      | [] => []
      | [d] => [d]
      | d :: rest => d :: '.' :: rest
    mantissa ++ 'e' :: (if power < 0 then '-' else '+') :: padded

def toText : Binary64 → Text
  | notANumber => "nan".toList
  | infinite negative => if negative then "-inf".toList else "inf".toList
  | finite negative m e =>
    let t := if m = 0 then "0.0".toList else positiveText m e
    if negative then '-' :: t else t

example : (ofDecimal false 15 (-1)).toText = "1.5".toList := by decide +kernel
example : (ofDecimal true 1 (-5)).toText = "-1e-05".toList := by decide +kernel
example : (ofDecimal false 5 (-324)).toText = "5e-324".toList := by decide +kernel
example : (ofFraction false 1 (Nat.pow 2 44)).toText = "5.684341886080802e-14".toList := by
  decide +kernel
example : (ofDecimal false 10 (-1)).whole? = some 1 := by decide +kernel
example : (add (ofDecimal false 4352 (-2)) (mul (ofFraction false 1 1) (ofFraction false 60 1))).toText =
    "103.52000000000001".toList := by decide +kernel

end Binary64

end SentenceReader

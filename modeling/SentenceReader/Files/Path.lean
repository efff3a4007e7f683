import SentenceReader.Text.Basic

/-! Paths of files. A path is kept in normal form: no empty and no dot parts. -/
namespace SentenceReader

/-- A path: what it starts from, which is empty for a relative one, and the names on the way. -/
structure Path where
  root : Text := []
  parts : List Text
  deriving DecidableEq, Repr

namespace Path

/-- The root that a written path starts with. Two slashes are a root of their own, any other
number of them is the usual one. -/
def rootOf : Text → Text
  | '/' :: '/' :: '/' :: _ => ['/']
  | '/' :: '/' :: _ => ['/', '/']
  | '/' :: _ => ['/']
  | _ => []

def ofText (t : Text) : Path where
  root := rootOf t
  parts := (Text.fields '/' t).filter fun part => part ≠ [] ∧ part ≠ ['.']

/-- The text of a path; the path that leads nowhere is a dot. -/
def toText (p : Path) : Text :=
  if p.root = [] ∧ p.parts = [] then ['.'] else p.root ++ Text.join ['/'] p.parts

def name (p : Path) : Text := p.parts.getLast?.getD []

/-- What follows the last dot of a name, with the dot, if something stands on both sides. -/
def suffix (p : Path) : Text :=
  let backwards := p.name.reverse
  let tail := (backwards.takeWhile (· != '.')).reverse
  match backwards.dropWhile (· != '.') with
  | _dot :: _ :: _ => if tail.isEmpty then [] else '.' :: tail
  | _ => []

def isCompressed (p : Path) : Bool := p.suffix == ".gz".toList

example : (ofText "./x//y".toList).toText = "x/y".toList := by decide +kernel
example : (ofText []).toText = ['.'] := by decide +kernel
example : (ofText "d/a.txt.gz".toList).isCompressed ∧ ¬ (ofText ".gz".toList).isCompressed := by
  decide +kernel

end Path

end SentenceReader

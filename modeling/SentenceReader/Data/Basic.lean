import SentenceReader.Data.Binary64
import SentenceReader.Data.Timestamp

/-! Plain data, as settings files hold it: scalars, lists, sets and mappings. -/
namespace SentenceReader

/-- A piece of data. Keys of a mapping are data too, in the order in which they came first. -/
inductive Data where
  | null
  | bool (b : Bool)
  | int (n : Int)
  | float (x : Binary64)
  | text (t : Text)
  | bytes (content : List UInt8)
  | time (stamp : Timestamp)
  | list (items : List Data)
  | set (items : List Data)
  | mapping (entries : List (Data × Data))
  deriving Repr, Inhabited

namespace Data

/-- What a piece of data is, as messages name it. -/
def kind : Data → String
  | null => "NoneType"
  | bool _ => "bool"
  | int _ => "int"
  | float _ => "float"
  | text _ => "str"
  | bytes _ => "bytes"
  | time stamp => stamp.kind
  | list _ => "list"
  | set _ => "set"
  | mapping _ => "dict"

mutual

def shown : Data → Text
  | null => "None".toList
  | bool b => (if b then "True" else "False").toList
  | int n => Text.ofInt n
  | float x => x.toText
  | text t => Text.quoted t
  | bytes content => Quoted.bytes content
  | time stamp => stamp.shown
  | list items => '[' :: Text.join [',', ' '] (shownItems items) ++ [']']
  | set items =>
    if items.isEmpty then "set()".toList
    else '\x7b' :: Text.join [',', ' '] (shownItems items) ++ ['\x7d']
  | mapping entries => '\x7b' :: Text.join [',', ' '] (shownEntries entries) ++ ['\x7d']

def shownItems : List Data → List Text
  | [] => []
  | d :: rest => shown d :: shownItems rest

def shownEntries : List (Data × Data) → List Text
  | [] => []
  | (k, d) :: rest => (shown k ++ ':' :: ' ' :: shown d) :: shownEntries rest

end

/-- A piece of data as it stands in a line: a text as it is, and other data as messages show it. -/
def plain : Data → Text
  | text t => t
  | d => d.shown

/-- The whole number that a scalar counts as when it is compared. -/
def whole? : Data → Option Int
  | bool b => some (if b then 1 else 0)
  | int n => some n
  | float x => x.whole?
  | _ => none

/-- Whether two scalars are the same key of a mapping. Numbers are compared by value. -/
def sameKey (a b : Data) : Bool :=
  match a.whole?, b.whole? with
  | some m, some n => m == n
  | none, none =>
    match a, b with
    | null, null => true
    | text s, text t => s == t
    | bytes b, bytes c => b == c
    | float x, float y => x == y
    | time s, time t => s.same t
    | _, _ => false
  | _, _ => false

mutual

/-- Whether two pieces of data are the same. Numbers are compared by value, and mappings without
regard to the order of their entries. -/
def same : Data → Data → Bool
  | list items, list others => sameItems items others
  | mapping entries, mapping others =>
    entries.length == others.length && sameEntries entries others
  | a, b => a.sameKey b

def sameItems : List Data → List Data → Bool
  | [], [] => true
  | a :: rest, b :: others => same a b && sameItems rest others
  | _, _ => false

def sameEntries : List (Data × Data) → List (Data × Data) → Bool
  | [], _ => true
  | (k, v) :: rest, others =>
    (others.any fun e => k.sameKey e.1 && same v e.2) && sameEntries rest others

end

def isScalar : Data → Bool
  | list _ | set _ | mapping _ => false
  | _ => true

/-- Sets the value of a key, at its place if it has one. -/
def setKey (key value : Data) : List (Data × Data) → List (Data × Data)
  | [] => [(key, value)]
  | (k, v) :: rest => if k.sameKey key then (k, value) :: rest else (k, v) :: setKey key value rest

example : (list [int 1, text ['a'], null]).shown = "[1, 'a', None]".toList := by decide +kernel
example : (bool true).sameKey (int 1) = true := by decide

end Data

end SentenceReader

/-! Texts as lists of characters, with the operations on blanks and separators that the readers
share. A text is never longer after trimming, which is what recursion over texts rests on. -/
namespace SentenceReader

/-- A text is the list of its characters. -/
abbrev Text := List Char

/-- Membership of a character in a table of inclusive ranges of code points. -/
def inRanges (table : List (Nat × Nat)) (c : Char) : Bool :=
  table.any fun r => decide (r.1 ≤ c.toNat) && decide (c.toNat ≤ r.2)

/-- White space: the ASCII separators and controls that count as such, and the space separators. -/
def isBlank (c : Char) : Bool :=
  let n := c.toNat
  (9 ≤ n && n ≤ 13) || (0x1C ≤ n && n ≤ 0x20) || n == 0x85 || n == 0xA0 || n == 0x1680
    || (0x2000 ≤ n && n ≤ 0x200A) || n == 0x2028 || n == 0x2029 || n == 0x202F || n == 0x205F
    || n == 0x3000

@[simp] theorem isBlank_space : isBlank ' ' = true := by decide
@[simp] theorem isBlank_newline : isBlank '\n' = true := by decide

namespace Text

/-- A text of white space only, and not the empty one. -/
def isBlankText (t : Text) : Bool := !t.isEmpty && t.all isBlank

def trimStart (t : Text) : Text := t.dropWhile isBlank

def trimEnd (t : Text) : Text := (t.reverse.dropWhile isBlank).reverse

/-- The text without the white space at both ends. -/
def trim (t : Text) : Text := trimEnd (trimStart t)

theorem length_dropWhile_le (p : Char → Bool) (t : Text) : (t.dropWhile p).length ≤ t.length :=
  (List.dropWhile_suffix p).length_le

/-- The words of a text: its maximal runs of characters that are not white space. -/
def words (t : Text) : List Text := (t.splitOnP isBlank).filter (!·.isEmpty)

/-- The parts of a text around every occurrence of one separator character; never none. -/
def fields (separator : Char) (t : Text) : List Text := t.splitOn separator

/-- The text before the first occurrence of a character, and what follows it when it occurs. -/
def cut (separator : Char) (t : Text) : Text × Option Text :=
  match t.dropWhile (· != separator) with
  | [] => (t, none)
  | _ :: rest => (t.takeWhile (· != separator), some rest)

/-- The text with ASCII capitals in lower case. -/
def lower (t : Text) : Text := t.map Char.toLower

def join (separator : Text) (ts : List Text) : Text := List.intercalate separator ts

def ofNat (n : Nat) : Text := Nat.toDigits 10 n

/-- The digits of an integer, after a sign when it is negative. -/
def ofInt : Int → Text
  | .ofNat n => ofNat n
  | .negSucc n => '-' :: ofNat (n + 1)

/-- The rest of a text after a given beginning, when it begins so. -/
def dropStart? : Text → Text → Option Text
  | [], t => some t
  | _ :: _, [] => none
  | a :: p, c :: t => if a = c then dropStart? p t else none

@[simp] theorem dropStart?_append (p t : Text) : dropStart? p (p ++ t) = some t := by
  induction p with
  | nil => rfl
  | cons a p ih => simp [dropStart?, ih]

theorem eq_append_of_dropStart? {p t r : Text} (h : dropStart? p t = some r) : t = p ++ r := by
  induction p generalizing t with
  | nil => simpa [dropStart?] using h
  | cons a p ih =>
    cases t with
    | nil => simp [dropStart?] at h
    | cons c t =>
      by_cases hac : a = c
      · simp [dropStart?, hac] at h
        simp [hac, ih h]
      · simp [dropStart?, hac] at h

/-- Lexicographic order by code point. -/
def before (a b : Text) : Bool := List.lex a b (fun x y => decide (x.toNat < y.toNat))

end Text

end SentenceReader

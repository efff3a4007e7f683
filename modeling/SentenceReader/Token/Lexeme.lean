import SentenceReader.Text.WordChar
import SentenceReader.Text.Digit
import SentenceReader.Token.Basic

/-! Lexemes of a line: its words, numbers and marks, with the white space between them. At every
place that is not blank the first rule that applies takes a lexeme, and the last rule takes any
single character, so a line is its lexemes and its white space and nothing else. -/
namespace SentenceReader

namespace Lexeme

/-- Takes the characters of a class, and those that join one of them to the next. -/
def takeJoined (inClass joins : Char → Bool) : Text → Text × Text
  | [] => ([], [])
  | c :: rest =>
    if inClass c || (joins c && rest.head?.any inClass) then
      let (taken, left) := takeJoined inClass joins rest
      (c :: taken, left)
    else ([], c :: rest)

/-- Takes pairs of an ASCII letter and a full stop, as many as there are. -/
def takeInitials : Text → Text × Text
  | c :: '.' :: rest =>
    if c.isAlpha then
      let (taken, left) := takeInitials rest
      (c :: '.' :: taken, left)
    else ([], c :: '.' :: rest)
  | t => ([], t)

def takeExactly? (mark : Text) (t : Text) : Option (Text × Text) :=
  (Text.dropStart? mark t).map fun rest => (mark, rest)

/-- The words whose full stop is part of them where more follows on the line. -/
def abbreviations : List Text :=
  ["Mrs", "Mr", "Ms", "Dr", "Prof", "Sr", "Jr", "St", "vs", "etc", "Inc", "Ltd", "Corp", "Co"].map
    String.toList

/-- White space and then something else. -/
def goesOn (t : Text) : Bool := t.head?.any isBlank && t.any (!isBlank ·)

/-- An abbreviation with its full stop, where the line goes on. -/
def abbreviation? (t : Text) : Option (Text × Text) :=
  (abbreviations.findSome? fun a => takeExactly? (a ++ ['.']) t).filter fun r => goesOn r.2

def ellipsis? (t : Text) : Option (Text × Text) := takeExactly? ['.', '.', '.'] t

/-- At least two letters with a full stop each, as in initials. -/
def initials? (t : Text) : Option (Text × Text) :=
  let r := takeInitials t
  if r.1.length < 4 then none else some r

def number? (t : Text) : Option (Text × Text) :=
  if t.head?.any isDigitChar then some (takeJoined isDigitChar (fun c => c ∈ ['.', ',', ':']) t)
  else none

/-- Word characters, with hyphens and apostrophes inside. -/
def word? (t : Text) : Option (Text × Text) :=
  if t.head?.any isWordChar then some (takeJoined isWordChar (fun c => c ∈ ['-', '\'', '’']) t)
  else none

def mark? (t : Text) : Option (Text × Text) :=
  [['\'', '\''], ['\x60', '\x60'], ['-', '-']].findSome? fun m => takeExactly? m t

/-- The rules, the first of which counts. -/
def rules : List (Text → Option (Text × Text)) :=
  [ellipsis?, initials?, abbreviation?, number?, word?, mark?]

/-- The lexeme at the front of a text with its first character, and what follows. -/
def first (c : Char) (rest : Text) : Text × Text :=
  (rules.findSome? fun rule => rule (c :: rest)).getD ([c], rest)

theorem append_takeJoined (p q : Char → Bool) (t : Text) :
    (takeJoined p q t).1 ++ (takeJoined p q t).2 = t := by
  induction t with
  | nil => rfl
  | cons c rest ih =>
    rw [takeJoined]
    split
    · simp [ih]
    · rfl

theorem append_takeInitials (t : Text) : (takeInitials t).1 ++ (takeInitials t).2 = t := by
  fun_induction takeInitials t with
  | case1 c rest h taken left hr ih => simpa [hr] using ih
  | case2 => rfl
  | case3 => rfl

theorem append_takeExactly? {m t : Text} {r : Text × Text} (h : takeExactly? m t = some r) :
    r.1 ++ r.2 = t := by
  simp only [takeExactly?, Option.map_eq_some_iff] at h
  obtain ⟨rest, hr, rfl⟩ := h
  exact (Text.eq_append_of_dropStart? hr).symm

theorem takeExactly?_ne_nil {m t : Text} {r : Text × Text} (hm : m ≠ [])
    (h : takeExactly? m t = some r) : r.1 ≠ [] := by
  simp only [takeExactly?, Option.map_eq_some_iff] at h
  obtain ⟨rest, _, rfl⟩ := h
  exact hm

theorem takeJoined_ne_nil {p q : Char → Bool} {t : Text} (h : t.head?.any p = true) :
    (takeJoined p q t).1 ≠ [] := by
  cases t with
  | nil => simp at h
  | cons c rest =>
    simp at h
    simp [takeJoined, h]

def Splits (rule : Text → Option (Text × Text)) : Prop :=
  ∀ t r, rule t = some r → r.1 ++ r.2 = t ∧ r.1 ≠ []

theorem splits_ellipsis? : Splits ellipsis? := fun _ _ h =>
  ⟨append_takeExactly? h, takeExactly?_ne_nil (by simp) h⟩

theorem splits_initials? : Splits initials? := by
  intro t r h
  unfold initials? at h
  dsimp only at h
  split at h
  · simp at h
  · next hl =>
    rw [Option.some.injEq] at h
    subst h
    exact ⟨append_takeInitials t, fun h0 => by simp [h0] at hl⟩

theorem splits_abbreviation? : Splits abbreviation? := by
  intro t r h
  unfold abbreviation? at h
  rw [Option.filter_eq_some_iff] at h
  obtain ⟨a, _, ha⟩ := List.exists_of_findSome?_eq_some h.1
  exact ⟨append_takeExactly? ha, takeExactly?_ne_nil (by simp) ha⟩

theorem splits_number? : Splits number? := by
  intro t r h
  unfold number? at h
  split at h
  · next hd =>
    rw [Option.some.injEq] at h
    subst h
    exact ⟨append_takeJoined _ _ t, takeJoined_ne_nil hd⟩
  · simp at h

theorem splits_word? : Splits word? := by
  intro t r h
  unfold word? at h
  split at h
  · next hd =>
    rw [Option.some.injEq] at h
    subst h
    exact ⟨append_takeJoined _ _ t, takeJoined_ne_nil hd⟩
  · simp at h

theorem splits_mark? : Splits mark? := by
  intro t r h
  unfold mark? at h
  obtain ⟨m, hm, ha⟩ := List.exists_of_findSome?_eq_some h
  refine ⟨append_takeExactly? ha, takeExactly?_ne_nil ?_ ha⟩
  simp at hm
  rcases hm with rfl | rfl | rfl <;> simp

theorem splits_of_mem_rules {rule : Text → Option (Text × Text)} (h : rule ∈ rules) :
    Splits rule := by
  simp only [rules, List.mem_cons, List.not_mem_nil, or_false] at h
  rcases h with rfl | rfl | rfl | rfl | rfl | rfl
  · exact splits_ellipsis?
  · exact splits_initials?
  · exact splits_abbreviation?
  · exact splits_number?
  · exact splits_word?
  · exact splits_mark?

/-- The first lexeme and what follows it are the text. -/
theorem append_first (c : Char) (rest : Text) : (first c rest).1 ++ (first c rest).2 = c :: rest := by
  unfold first
  cases h : rules.findSome? fun rule => rule (c :: rest) with
  | none => rfl
  | some r =>
    obtain ⟨rule, hm, hr⟩ := List.exists_of_findSome?_eq_some h
    exact (splits_of_mem_rules hm _ _ hr).1

/-- The first lexeme is not empty. -/
theorem first_ne_nil (c : Char) (rest : Text) : (first c rest).1 ≠ [] := by
  unfold first
  cases h : rules.findSome? fun rule => rule (c :: rest) with
  | none => simp
  | some r =>
    obtain ⟨rule, hm, hr⟩ := List.exists_of_findSome?_eq_some h
    exact (splits_of_mem_rules hm _ _ hr).2

theorem length_first_lt (c : Char) (rest : Text) :
    (first c rest).2.length < (c :: rest).length := by
  have h := congrArg List.length (append_first c rest)
  have h0 := List.length_pos_iff.2 (first_ne_nil c rest)
  rw [List.length_append] at h
  omega

end Lexeme

/-- A lexeme with the white space in front of it. It opens if it stands at the start of the line,
behind white space or behind an opening bracket. -/
structure Lexeme where
  gap : Text
  raw : Text
  opening : Bool
  deriving DecidableEq, Repr

namespace Lexeme

def opensAfter (previous : Option Char) : Bool :=
  previous.all fun c => isBlank c || c ∈ ['(', '[', '\x7b']

/-- The lexemes of the rest of a line behind a given character, and the white space at its end. -/
def scan (previous : Option Char) (t : Text) : List Lexeme × Text :=
  match _h : t.dropWhile isBlank with
  | [] => ([], t)
  | c :: rest =>
    let gap := t.takeWhile isBlank
    let found := first c rest
    let later := scan found.1.getLast? found.2
    (⟨gap, found.1, opensAfter (gap.getLast? <|> previous)⟩ :: later.1, later.2)
termination_by t.length
decreasing_by
  have h₁ := length_first_lt c rest
  have h₂ := Text.length_dropWhile_le isBlank t
  rw [_h] at h₂
  exact Nat.lt_of_lt_of_le h₁ h₂

/-- The lexemes of a line, and the white space at its end. -/
def ofLine (line : Text) : List Lexeme × Text := scan none line

/-- The endings that are tokens of their own behind a stem, in lower case. -/
def clitics : List Text :=
  ["n't", "'s", "'re", "'ll", "'ve", "'m", "'d"].map String.toList

/-- Whether a character is a given one of an ending, in any case. The long s counts as an s. -/
def sameLetter (small c : Char) : Bool := c.toLower == small || (small == 's' && c == 'ſ')

def isClitic : Text → Text → Bool
  | [], [] => true
  | a :: ending, c :: t => sameLetter a c && isClitic ending t
  | _, _ => false

/-- The stem and the ending of a word that has an ending. -/
def splitClitic? (raw : Text) : Option (Text × Text) :=
  clitics.findSome? fun ending =>
    let n := raw.length - ending.length
    let stem := raw.take n
    if !stem.isEmpty && stem.all isWordChar && isClitic ending (raw.drop n) then
      some (stem, raw.drop n)
    else none

example : splitClitic? "don't".toList = some ("do".toList, "n't".toList) := by decide +kernel
example : (first '3' ".14.".toList).1 = "3.14".toList := by decide +kernel
example : (first 'U' ".S. is".toList).1 = "U.S.".toList := by decide +kernel

end Lexeme

end SentenceReader

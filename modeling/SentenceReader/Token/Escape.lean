import SentenceReader.Token.Basic

/-! The treebank spelling of brackets and double quotes. In a finished sentence straight double
quotes open and close in turn; the length and all other fields of the tokens stay. -/
namespace SentenceReader

namespace Treebank

def openQuote : Text := ['\x60', '\x60']

def closeQuote : Text := ['\'', '\'']

def brackets : List (Text × Text) :=
  [(['('], "-LRB-".toList), ([')'], "-RRB-".toList), (['['], "-LSB-".toList),
   ([']'], "-RSB-".toList), (['\x7b'], "-LCB-".toList), (['\x7d'], "-RCB-".toList)]

/-- The spelling of a bracket; any other word is its own. -/
def escapeWord (w : Text) : Text := (brackets.lookup w).getD w

/-- The spelling of a word when a double quote is open or not. -/
def spell (quoteOpen : Bool) (w : Text) : Text :=
  if w = ['"'] then (if quoteOpen then closeQuote else openQuote) else escapeWord w

/-- A token in a new spelling, which keeps the characters that it replaces. -/
def respell (t : Token) (w : Text) : Token :=
  if w = t.word then t else { t with word := w, raw := some t.source }

/-- Spells the tokens of a sentence in order, starting inside or outside double quotes. -/
def escapeFrom : Bool → Sentence → Sentence
  | _, [] => []
  | quoteOpen, t :: rest =>
    respell t (spell quoteOpen t.word) :: escapeFrom (quoteOpen != (t.word == ['"'])) rest

/-- The treebank spelling of a finished sentence. -/
def escape (s : Sentence) : Sentence := escapeFrom false s

@[simp] theorem length_escapeFrom (q : Bool) (s : Sentence) :
    (escapeFrom q s).length = s.length := by
  induction s generalizing q with
  | nil => rfl
  | cons t rest ih => simp [escapeFrom, ih]

@[simp] theorem length_escape (s : Sentence) : (escape s).length = s.length := by simp [escape]

/-- A word is spelt as the table says if it is a bracket, and else stays. -/
theorem escapeWord_cases (w : Text) :
    (w, escapeWord w) ∈ brackets ∨ (escapeWord w = w ∧ ∀ spelling, (w, spelling) ∉ brackets) := by
  cases hw : brackets.lookup w with
  | none =>
    refine .inr ⟨by simp [escapeWord, hw], fun spelling h => ?_⟩
    simpa using List.lookup_eq_none_iff.1 hw _ h
  | some spelling =>
    obtain ⟨before, after, hm, -⟩ := List.lookup_eq_some_iff.1 hw
    left
    rw [escapeWord, hw, Option.getD_some, hm]
    exact List.mem_append_right before List.mem_cons_self

example : escapeWord ['('] = "-LRB-".toList := by decide
example : (escape [⟨['"'], none, false, none, [], []⟩, ⟨['"'], none, false, none, [], []⟩]).map
    Token.word = [openQuote, closeQuote] := by decide

end Treebank

end SentenceReader

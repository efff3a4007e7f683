import Mathlib.Algebra.Group.Nat.Even
import Mathlib.Data.Nat.Bits
import SentenceReader.Token.Escape

/-! Sentences in their treebank spelling, token by token. What is spelt anew depends on the tokens in
front of it through the number of their double quotes alone; what was spelt once is left as it is. -/
namespace SentenceReader

namespace Treebank

/-- How many double quotes a sentence has. -/
def countQuotes (s : Sentence) : Nat := s.countP fun t => t.word == ['"']

/-- The token that stands for another one in a treebank spelling, behind some tokens: double quotes open
and close in turn, brackets have their names, and the characters that gave way are kept. -/
structure Spells (front : Sentence) (t u : Token) : Prop where
  tag : u.tag = t.tag
  isNewline : u.isNewline = t.isNewline
  before : u.before = t.before
  after : u.after = t.after
  quote : t.word = ['"'] → u.word = if Even (countQuotes front) then openQuote else closeQuote
  bracket : ∀ spelling, (t.word, spelling) ∈ brackets → u.word = spelling
  other : t.word ≠ ['"'] → (∀ spelling, (t.word, spelling) ∉ brackets) → u.word = t.word
  raw : u.raw = if t.raw ≠ none ∨ u.word = t.word then t.raw else some t.word

/-- A bracket has one spelling. -/
theorem escapeWord_of_mem {w spelling : Text} (h : (w, spelling) ∈ brackets) :
    escapeWord w = spelling := by
  have hall : ∀ b ∈ brackets, escapeWord b.1 = b.2 := by decide
  exact hall _ h

/-- A word that is neither a double quote nor a bracket. -/
def IsSpelt (w : Text) : Prop := w ≠ ['"'] ∧ escapeWord w = w

instance : DecidablePred IsSpelt := fun w => inferInstanceAs (Decidable (w ≠ ['"'] ∧ escapeWord w = w))

theorem isSpelt_spell (quoteOpen : Bool) (w : Text) : IsSpelt (spell quoteOpen w) := by
  unfold spell
  split
  · cases quoteOpen <;> decide
  · next hq =>
    rcases escapeWord_cases w with hb | ⟨he, -⟩
    · have hall : ∀ b ∈ brackets, IsSpelt b.2 := by decide
      exact hall _ hb
    · exact ⟨he.symm ▸ hq, by rw [he, he]⟩

theorem spell_of_isSpelt {w : Text} (h : IsSpelt w) (quoteOpen : Bool) : spell quoteOpen w = w := by
  rw [spell, if_neg h.1, h.2]

@[simp] theorem word_respell (t : Token) (w : Text) : (respell t w).word = w := by
  unfold respell
  split
  · next h => exact h.symm
  · rfl

/-- A token without characters of its own keeps its word as the characters that gave way. -/
theorem source_respell (t : Token) (w : Text) : (respell t w).source = t.source := by
  unfold respell
  split <;> rfl

/-- Spelling leaves a sentence alone whose words are spelt already, also within double quotes. -/
theorem escapeFrom_of_isSpelt {s : Sentence} (h : ∀ t ∈ s, IsSpelt t.word) (quoteOpen : Bool) :
    escapeFrom quoteOpen s = s := by
  induction s generalizing quoteOpen with
  | nil => rfl
  | cons t rest ih =>
    have ht : respell t (spell quoteOpen t.word) = t := by
      rw [spell_of_isSpelt (h t List.mem_cons_self), respell, if_pos rfl]
    rw [escapeFrom, ht, ih fun u hu => h u (List.mem_cons_of_mem t hu)]

theorem isSpelt_of_mem_escapeFrom {quoteOpen : Bool} {s : Sentence} {u : Token}
    (h : u ∈ escapeFrom quoteOpen s) : IsSpelt u.word := by
  induction s generalizing quoteOpen with
  | nil => cases h
  | cons t rest ih =>
    rcases List.mem_cons.1 h with rfl | h
    · rw [word_respell]
      exact isSpelt_spell quoteOpen t.word
    · exact ih h

theorem escape_escape (s : Sentence) : escape (escape s) = escape s :=
  escapeFrom_of_isSpelt (fun _ => isSpelt_of_mem_escapeFrom) false

/-- Whether a double quote is open behind some tokens depends on how many there are. -/
theorem getElem?_escapeFrom (quoteOpen : Bool) (s : Sentence) (i : Nat) :
    (escapeFrom quoteOpen s)[i]? =
      s[i]?.map fun t => respell t (spell (quoteOpen != (countQuotes (s.take i)).bodd) t.word) := by
  induction s generalizing quoteOpen i with
  | nil => simp [escapeFrom]
  | cons t rest ih =>
    cases i with
    | zero => simp [escapeFrom, countQuotes]
    | succ i =>
      have hq : ((quoteOpen != (t.word == ['"'])) != (countQuotes (rest.take i)).bodd) =
          (quoteOpen != (countQuotes ((t :: rest).take (i + 1))).bodd) := by
        rw [List.take_succ_cons, countQuotes, countQuotes, List.countP_cons, Nat.bodd_add]
        cases t.word == ['"'] <;> simp
      rw [escapeFrom, List.getElem?_cons_succ, ih, List.getElem?_cons_succ, hq]

theorem spells_respell (front : Sentence) (t : Token) :
    Spells front t (respell t (spell (countQuotes front).bodd t.word)) := by
  have hfields (w : Text) : (respell t w).tag = t.tag ∧ (respell t w).isNewline = t.isNewline ∧
      (respell t w).before = t.before ∧ (respell t w).after = t.after := by
    unfold respell
    split <;> exact ⟨rfl, rfl, rfl, rfl⟩
  obtain ⟨htag, hnewline, hbefore, hafter⟩ := hfields (spell (countQuotes front).bodd t.word)
  refine ⟨htag, hnewline, hbefore, hafter, fun hq => ?_, fun spelling hb => ?_, fun hq hb => ?_, ?_⟩
  · rw [word_respell, spell, if_pos hq]
    have hodd : (countQuotes front).bodd = true ↔ ¬ Even (countQuotes front) := by
      rw [Nat.even_iff, Nat.mod_two_of_bodd]
      cases (countQuotes front).bodd <;> simp
    by_cases he : Even (countQuotes front)
    · rw [if_pos he, if_neg (hodd.not.2 (not_not.2 he))]
    · rw [if_neg he, if_pos (hodd.2 he)]
  · have hq : t.word ≠ ['"'] := by
      intro hq
      rw [hq] at hb
      revert hb
      simp [brackets]
    rw [word_respell, spell, if_neg hq, escapeWord_of_mem hb]
  · rw [word_respell, spell, if_neg hq]
    exact ((escapeWord_cases t.word).resolve_left (hb _)).1
  · rw [word_respell]
    unfold respell
    split
    · next h => rw [if_pos (.inr h)]
    · next h =>
      cases hr : t.raw with
      | none => simp [h, Token.source, hr]
      | some raw => simp [Token.source, hr]

/-- The treebank spelling has a token for each one of the sentence. It is spelt once and for all, and
where no characters were kept before it keeps the words that it replaces. -/
theorem spells_escape (s : Sentence) :
    (escape s).length = s.length ∧ escape (escape s) = escape s ∧
    (∀ i t, s[i]? = some t → ∃ u, (escape s)[i]? = some u ∧ Spells (s.take i) t u) ∧
    ((∀ t ∈ s, t.raw = none) → (escape s).map Token.source = s.map Token.word) := by
  refine ⟨length_escape s, escape_escape s, fun i t ht => ?_, fun hraw => ?_⟩
  · refine ⟨_, ?_, spells_respell (s.take i) t⟩
    rw [escape, getElem?_escapeFrom, ht, Option.map_some, Bool.false_bne]
  · have hsource (quoteOpen : Bool) (s : Sentence) :
        (escapeFrom quoteOpen s).map Token.source = s.map Token.source := by
      induction s generalizing quoteOpen with
      | nil => rfl
      | cons t rest ih => rw [escapeFrom, List.map_cons, List.map_cons, source_respell, ih]
    rw [escape, hsource]
    refine List.map_congr_left fun t ht => ?_
    rw [Token.source, hraw t ht, Option.getD_none]

/-- A bracket within double quotes. What is spelt anew keeps the words it replaces. -/
theorem spells_escape_of_quotes :
    let s : Sentence := [['"'], ['('], ['a'], ['"']].map fun w => { word := w }
    (∀ t ∈ s, t.raw = none) ∧
      (escape s).map Token.word = [openQuote, "-LRB-".toList, ['a'], closeQuote] ∧
      (escape s).map Token.source = [['"'], ['('], ['a'], ['"']] := by
  intro s
  have hraw : ∀ t ∈ s, t.raw = none := by decide
  exact ⟨hraw, by decide, (spells_escape s).2.2.2 hraw⟩

end Treebank

end SentenceReader

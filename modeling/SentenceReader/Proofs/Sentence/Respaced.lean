import SentenceReader.Proofs.Sentence.Growing
import SentenceReader.Proofs.Sentence.Reprinted
import SentenceReader.Proofs.Token.Respaced

/-! Sentences of texts in which some newlines give way to spaces. Where newlines are no tokens they are
white space like any other, but for one rule: an abbreviation at the end of a line is parted from its
full stop, and not so if the line goes on. -/
namespace SentenceReader

namespace SentenceRules

/-- The words of sentences rest on the words and tags of the tokens alone. -/
theorem map_word_sentences_congr (r : SentenceRules) {xs ys : List Token}
    (h : xs.map Token.bare = ys.map Token.bare) :
    (r.sentences xs).map (List.map Token.word) = (r.sentences ys).map (List.map Token.word) := by
  have hbare : ∀ ts : List Token, (r.sentences ts).map (List.map Token.word) =
      (r.sentences (ts.map Token.bare)).map (List.map Token.word) := by
    intro ts
    rw [r.sentences_map_bare, List.map_map]
    refine List.map_congr_left fun s _ => ?_
    exact (Token.map_word_bare s).symm
  rw [hbare xs, hbare ys, h]

end SentenceRules

namespace Segmenter

/-- The rules for the sentences of running text in which newlines end none. -/
def runningRules (c : Config) : SentenceRules := .ofConfig c false newlineMark

section Running

variable {c : Config} {o : LexedOptions} (hm : c.tokenizerMaker = none) (ht : c.tokenizer = .running)
variable (ho : LexedOptions.read c.tokenizerOptions = .ok o) (hx : c.explicitDelimiter = none)
include hm ht ho hx

theorem ofStream_running_of_no_explicit (stream : TextStream) :
    (ofStream c stream).1 = .ok (ofSource c false (.lexed { stream, options := o })) := by
  rw [ofStream_running hm ht ho, newlinesEnd_running ht hx, Bool.false_or]

theorem gives_sentences_running (he : c.escaper = none) {stream : TextStream} (hst : stream.Steady) :
    ∃ s, (ofStream c stream).1 = .ok s ∧
      s.Gives ((runningRules c).sentences (o.tokensOf stream.rest)) := by
  have hs := ofStream_running_of_no_explicit hm ht ho hx stream
  exact ⟨_, hs, gives_sentences_unescaped hs he (TokenSource.gives_coming hst)⟩

/-- Where newlines are no tokens, every token is in a sentence. -/
theorem length_flatten_sentences_running (hn : o.newlines = false) (t : Text) :
    ((runningRules c).sentences (o.tokensOf t)).flatten.length = (o.tokensOf t).length := by
  have hs := ofStream_running_of_no_explicit hm ht ho hx (.ofText t)
  have hcontent : ∀ u ∈ (o.tokensOf t).map (runningRules c).mark,
      (runningRules c).isContent u = true := by
    intro u hu
    obtain ⟨v, hv, rfl⟩ := List.mem_map.1 hu
    have hmark := isContent_mark hm hs (t := v) hv
    rcases LexedOptions.word_of_mem_tokensOf hv with ⟨hnewline, -⟩ | ⟨-, -, hnewlines⟩
    · rwa [hnewline] at hmark
    · exact absurd (hn.symm.trans hnewlines) Bool.false_ne_true
  rw [SentenceRules.flatten_sentences fun u hu _ => hcontent u hu, List.filter_eq_self.2 hcontent,
    List.length_map]

end Running

/-- Spaces in place of some newlines change the words of the sentences exactly if one of them joins an
abbreviation at the end of a line with its full stop. -/
theorem words_respaced_iff {c : Config} {o : LexedOptions} (hm : c.tokenizerMaker = none)
    (ht : c.tokenizer = .running) (ho : LexedOptions.read c.tokenizerOptions = .ok o)
    (hn : o.newlines = false) (hx : c.explicitDelimiter = none) (he : c.escaper = none)
    {x y : TextStream} (hxs : x.Steady) (hys : y.Steady) (h : Text.Respaced x.rest y.rest) :
    ∃ s s' ss ss', (ofStream c x).1 = .ok s ∧ (ofStream c y).1 = .ok s' ∧ s.Gives ss ∧ s'.Gives ss' ∧
      (ss'.map (List.map Token.word) = ss.map (List.map Token.word) ↔
        ¬Text.JoinsAbbreviation x.rest y.rest) := by
  obtain ⟨s, hs, hg⟩ := gives_sentences_running hm ht ho hx he hxs
  obtain ⟨s', hs', hg'⟩ := gives_sentences_running hm ht ho hx he hys
  obtain ⟨hfewer, hsame⟩ := LexedOptions.tokensOf_respaced hn h []
  simp only [List.nil_append] at hfewer hsame
  refine ⟨s, s', _, _, hs, hs', hg, hg', ?_, ?_⟩
  · intro hwords hjoins
    have hlengths := congrArg (fun wss : List (List Text) => wss.flatten.length) hwords
    simp only [← List.map_flatten, List.length_map] at hlengths
    rw [length_flatten_sentences_running hm ht ho hx hn,
      length_flatten_sentences_running hm ht ho hx hn] at hlengths
    exact absurd hlengths (hfewer hjoins).ne
  · intro hjoins
    exact SentenceRules.map_word_sentences_congr _ (hsame hjoins)

/-- Newlines within a sentence and behind one give way to spaces, also one behind a word and a full stop.
The newline behind an abbreviation stays. -/
theorem words_respaced_iff_of_text :
    let c : Config := {}
    let x := TextStream.ofText "Dr. A\nsaw \"B\nC\".\nD met Mr.\nE".toList
    let y := TextStream.ofText "Dr. A saw \"B C\". D met Mr.\nE".toList
    (c.tokenizerMaker = none ∧ c.tokenizer = .running ∧
        LexedOptions.read c.tokenizerOptions = .ok {} ∧ ({} : LexedOptions).newlines = false ∧
        c.explicitDelimiter = none ∧ c.escaper = none ∧ x.Steady ∧ y.Steady ∧
        Text.Respaced x.rest y.rest) ∧
      ∃ s s' ss ss', (ofStream c x).1 = .ok s ∧ (ofStream c y).1 = .ok s' ∧ s.Gives ss ∧
        s'.Gives ss' ∧ ss'.map (List.map Token.word) = ss.map (List.map Token.word) ∧
        ss.map (List.map Token.word) =
          [["Dr.", "A", "saw", "\x60\x60", "B", "C", "''", "."], ["D", "met", "Mr", "."],
            ["E"]].map (List.map String.toList) := by
  intro c x y
  have ho : LexedOptions.read c.tokenizerOptions = .ok {} := rfl
  have hx : x.Steady := TextStream.steady_ofText _
  have hy : y.Steady := TextStream.steady_ofText _
  have h : Text.Respaced x.rest y.rest := by decide +kernel
  obtain ⟨s, s', ss, ss', hs, hs', hg, hg', hiff⟩ :=
    words_respaced_iff (c := c) rfl rfl ho rfl rfl rfl hx hy h
  obtain ⟨s₀, hs₀, hg₀⟩ := gives_sentences_running (c := c) rfl rfl ho rfl rfl hx
  obtain rfl := Except.ok.inj (hs₀.symm.trans hs)
  obtain rfl := hg.unique hg₀
  exact ⟨⟨rfl, rfl, ho, rfl, rfl, rfl, hx, hy, h⟩, _, _, _, _, hs, hs', hg, hg',
    hiff.2 (by decide +kernel), by decide +kernel⟩

/-- An abbreviation at the end of a line is parted from its full stop. -/
theorem abbreviation_parted_at_newline :
    let c : Config := {}
    let x := TextStream.ofText "Mr.\nA".toList
    let y := TextStream.ofText "Mr. A".toList
    (c.issues = [] ∧ c.tokenizerMaker = none ∧ c.tokenizer = .running ∧
        LexedOptions.read c.tokenizerOptions = .ok {} ∧ ({} : LexedOptions).newlines = false ∧
        c.explicitDelimiter = none ∧ c.escaper = none ∧ x.Steady ∧ y.Steady ∧
        Text.Respaced x.rest y.rest) ∧
      ∃ s s' ss ss', (ofStream c x).1 = .ok s ∧ (ofStream c y).1 = .ok s' ∧ s.Gives ss ∧
        s'.Gives ss' ∧ ss.map (List.map Token.word) = [["Mr", "."], ["A"]].map (List.map String.toList) ∧
        ss'.map (List.map Token.word) = [["Mr.", "A"]].map (List.map String.toList) ∧
        ss'.map (List.map Token.word) ≠ ss.map (List.map Token.word) := by
  intro c x y
  have ho : LexedOptions.read c.tokenizerOptions = .ok {} := rfl
  have hx : x.Steady := TextStream.steady_ofText _
  have hy : y.Steady := TextStream.steady_ofText _
  obtain ⟨s, hs, hg⟩ := gives_sentences_running (c := c) rfl rfl ho rfl rfl hx
  obtain ⟨s', hs', hg'⟩ := gives_sentences_running (c := c) rfl rfl ho rfl rfl hy
  refine ⟨⟨rfl, rfl, rfl, ho, rfl, rfl, rfl, hx, hy, by decide +kernel⟩, s, s', _, _, hs, hs', hg, hg',
    ?_, ?_, ?_⟩ <;> decide +kernel

end Segmenter

end SentenceReader

import SentenceReader.Proofs.Sentence.Reprinted

/-! Tokenized text as its sentences hold it. A word that was split from its tag is the word and the tag
with the delimiter between them, so the sentences have all words of the text, in their order. -/
namespace SentenceReader

namespace Text

/-- The words of a text are those of its lines. -/
theorem words_eq_flatMap_lines (t : Text) : words t = (lines t).flatMap words := by
  induction t using inductionOnLines with
  | rest body hb =>
    cases body with
    | nil => rfl
    | cons c rest => rw [lines_eq_singleton hb (List.cons_ne_nil c rest), List.flatMap_singleton]
  | line body later hb ih =>
    rw [lines_append_cons hb, List.flatMap_cons, words_append_newline, ← ih,
      words_append_blank isBlank_newline]

end Text

namespace Tagged

/-- A token as it was written: its word, and behind the delimiter its tag if it has one. -/
def written (d : Option Text) (t : Token) : Text :=
  match d, t.tag with
  | some d, some tag => t.word ++ d ++ tag
  | _, _ => t.word

/-- A word is written with its tag as it was before the tag was split from it. -/
theorem written_mark (d : Option Text) {t : Token} (ht : t.tag = none)
    (hw : ∀ c ∈ t.word, isBlank c = false) : written d (mark d t) = t.word := by
  have hself : written d t = t.word := by
    cases d <;> simp [written, ht]
  cases d with
  | none => exact hself
  | some d =>
    rw [mark]
    cases hs : split? d t.word with
    | none => exact hself
    | some parts =>
      have hword := trim_eq_append_of_split? hs
      rw [Text.trim_eq_self hw] at hword
      exact hword.symm

end Tagged

namespace Segmenter

/-- The tokens of a line that are content are its words, as they were written. -/
theorem map_written_tokensOf (c : Config) (line : Text) :
    (((SpacedSource.tokensOf (newlinesEnd c) line).map (tokenizedRules c).mark).filter
      (tokenizedRules c).isContent).map (Tagged.written c.tagDelimiter) = Text.words line := by
  have hwords : ∀ t ∈ ((Text.words line).map SpacedSource.ofWord).map (tokenizedRules c).mark,
      (tokenizedRules c).isContent t = true := by
    intro t ht
    rw [List.map_map] at ht
    obtain ⟨w, hw, rfl⟩ := List.mem_map.1 ht
    exact SentenceRules.isContent_mark_of_isRead rfl ⟨Text.isWord_of_mem_words hw, rfl⟩
  have hnewline : ∀ b : Bool, ((if b then [SpacedSource.newline] else []).map
      (tokenizedRules c).mark).filter (tokenizedRules c).isContent = [] := by
    intro b
    cases b with
    | false => rfl
    | true => simp [mark_newline, isContent_newline]
  rw [SpacedSource.tokensOf_eq, List.map_append, List.filter_append, hnewline, List.append_nil,
    List.filter_eq_self.2 hwords, List.map_map, List.map_map]
  refine (List.map_congr_left fun w hw => ?_).trans (List.map_id _)
  exact Tagged.written_mark c.tagDelimiter rfl (Text.isWord_of_mem_words hw).isBlank_eq_false

/-- Tokenized text comes back from its sentences: written with their tags, their tokens are the words
of the text. No newline is among them. -/
theorem gives_written {c : Config} (hm : c.tokenizerMaker = none) (ht : c.tokenizer = .tokenized)
    (he : c.escaper = none) {stream : TextStream} (hst : stream.Steady) :
    ∃ s ss, (ofStream c stream).1 = .ok s ∧ s.Gives ss ∧
      ss.flatten.map (Tagged.written c.tagDelimiter) = Text.words stream.rest ∧
      ∀ t ∈ ss.flatten, t.isNewline = false := by
  obtain ⟨s, hs, hg⟩ := gives_tokenizedSentences hm ht he hst
  refine ⟨s, _, hs, hg, ?_, ?_⟩
  · rw [flatten_tokenizedSentences, tokenizedTokens, List.map_flatMap, List.filter_flatMap,
      List.map_flatMap]
    simp only [map_written_tokensOf]
    exact (Text.words_eq_flatMap_lines stream.rest).symm
  · intro t hmem
    obtain ⟨sentence, hsentence, hmem⟩ := List.mem_flatten.1 hmem
    have hcontent := isContent_of_mem_tokenizedSentences hsentence hmem
    cases hn : t.isNewline with
    | false => rfl
    | true => exact hcontent.symm.trans (SentenceRules.isContent_of_isNewline hn)

/-- Newlines and full stops end sentences. A word without a tag, or with nothing in front of it, is
written as it is. -/
theorem gives_written_of_text :
    let c : Config :=
      { sentenceDelimiters := [['\n'], ['.']], tokenizer := .tokenized, tagDelimiter := some ['_'] }
    let stream := TextStream.ofText "\nA_b_NN ._. \n ) _X\nc_".toList
    (c.tokenizerMaker = none ∧ c.tokenizer = .tokenized ∧ c.escaper = none ∧ stream.Steady) ∧
      ∃ s ss, (ofStream c stream).1 = .ok s ∧ s.Gives ss ∧
        ss.flatten.map (Tagged.written c.tagDelimiter) =
          ["A_b_NN", "._.", ")", "_X", "c_"].map String.toList ∧
        ss.map (List.map Token.word) = [[], ["A_b", ".", ")"], [""], ["c_"]].map
          (List.map String.toList) := by
  intro c stream
  have hst : stream.Steady := TextStream.steady_ofText _
  obtain ⟨s, ss, hs, hg, hwritten, -⟩ := gives_written (c := c) rfl rfl rfl hst
  obtain ⟨s', hs', hg'⟩ := gives_tokenizedSentences (c := c) rfl rfl rfl hst
  obtain rfl := Except.ok.inj (hs'.symm.trans hs)
  obtain rfl := hg.unique hg'
  refine ⟨⟨rfl, rfl, rfl, hst⟩, _, _, hs, hg, ?_, ?_⟩
  · exact hwritten
  · decide +kernel

end Segmenter

end SentenceReader

import SentenceReader.Proofs.Sentence.Collecting
import SentenceReader.Proofs.Sentence.Opening
import SentenceReader.Proofs.Token.Lossless

/-! What is content of a text. Of the tokens that are read from a text the newlines are no content,
and all others are, also without their tags. -/
namespace SentenceReader

namespace Tagged

theorem map_mark_none (ts : List Token) : ts.map (mark none) = ts := List.map_id ts

/-- No tag is split from a newline of tokenized text. -/
theorem mark_of_word_newlineWord (delimiter : Option Text) {t : Token} (h : t.word = newlineWord) :
    mark delimiter t = t := by
  cases delimiter with
  | none => rfl
  | some d =>
    have hsplit : split? d newlineWord = none := rfl
    rw [mark, h, hsplit]

@[simp] theorem isNewline_mark (d : Option Text) (t : Token) : (mark d t).isNewline = t.isNewline := by
  cases d with
  | none => rfl
  | some d =>
    rw [mark]
    split <;> rfl

theorem word_mark_sublist (d : Option Text) (t : Token) : (mark d t).word.Sublist t.word := by
  cases d with
  | none => exact List.Sublist.refl _
  | some d =>
    rw [mark]
    cases hs : split? d t.word with
    | none => exact List.Sublist.refl _
    | some parts =>
      have htrim := trim_eq_append_of_split? hs
      rw [List.append_assoc] at htrim
      exact (htrim ▸ List.sublist_append_left parts.1 _).trans (Text.trim_sublist t.word)

end Tagged

namespace SentenceRules

theorem isContent_of_not_blank {r : SentenceRules} {t : Token} (hn : t.isNewline = false)
    (hb : ∀ c ∈ t.word, isBlank c = false) (hm : t.word ≠ r.newlineMark) :
    r.isContent t = true := by
  have ht : Text.isBlankText t.word = false := by
    cases hw : t.word with
    | nil => rfl
    | cons c rest => simp [Text.isBlankText, hb c (by simp [hw])]
  simp [isContent, ht, hn, hm]

theorem isContent_of_isNewline {r : SentenceRules} {t : Token} (hn : t.isNewline = true) :
    r.isContent t = false := by
  simp [isContent, hn]

end SentenceRules

namespace TokenSource

/-- The tokens that come from a text: newlines, and words without white space that are not taken for
newlines. -/
def Plain (s : TokenSource) : Prop :=
  ∀ t ∈ s.coming, t.isNewline = false →
    ∀ w : Text, w.Sublist t.word → (∀ c ∈ w, isBlank c = false) ∧ w ≠ s.newlineMark

theorem plain_lexed (o : LexedOptions) (stream : TextStream) :
    (lexed { stream, options := o }).Plain := by
  intro t ht hn w hw
  rcases LexedOptions.word_of_mem_tokensOf ht with ⟨-, hsolid⟩ | ⟨h, -⟩
  · have h := hsolid.sublist hw
    refine ⟨h.isBlank_eq_false, fun hm => ?_⟩
    replace hm : w = SentenceReader.newlineMark := hm
    subst hm
    exact absurd (h.asterisk (by decide)) (by decide)
  · rw [h] at hn
    exact Bool.noConfusion hn

theorem plain_spaced (stream : TextStream) (newlines : Bool) :
    (spaced { stream, newlines }).Plain := by
  intro t ht hn w hw
  obtain ⟨line, -, hm⟩ : ∃ line ∈ Text.lines stream.rest, t ∈ SpacedSource.tokensOf newlines line := by
    simpa [coming, SpacedSource.coming] using ht
  rw [SpacedSource.tokensOf, List.mem_append, List.mem_map] at hm
  rcases hm with ⟨word, hword, rfl⟩ | hm
  · have hb : ∀ c ∈ w, isBlank c = false := fun c hc =>
      Text.isBlank_of_mem_words hword c (hw.subset hc)
    refine ⟨hb, fun hm => ?_⟩
    have hnl := hb '\n' (by rw [hm]; simp [newlineMark, newlineWord])
    exact absurd hnl (by decide)
  · split at hm
    · rw [List.mem_singleton] at hm
      rw [hm] at hn
      exact Bool.noConfusion hn
    · simp at hm

end TokenSource

namespace Segmenter

theorem plain_of_ofStream {c : Config} {stream : TextStream} {s : Segmenter}
    (hm : c.tokenizerMaker = none) (hs : (ofStream c stream).1 = .ok s) : s.source.Plain := by
  rcases tokensOf_cases (tokensOf_of_ofStream hm hs) with ⟨o, h, -⟩ | ⟨asked, h, -⟩
  · rw [h]
    exact TokenSource.plain_lexed o stream
  · rw [h]
    exact TokenSource.plain_spaced stream asked

/-- Of the tokens that a built-in tokenizer gives exactly the newlines are no content. -/
theorem isContent_mark {c : Config} {stream : TextStream} {s : Segmenter}
    (hm : c.tokenizerMaker = none) (hs : (ofStream c stream).1 = .ok s) {t : Token}
    (ht : t ∈ s.source.coming) :
    s.rules.isContent (Tagged.mark c.tagDelimiter t) = !t.isNewline := by
  cases hn : t.isNewline with
  | true => exact SentenceRules.isContent_of_isNewline (by simp [hn])
  | false =>
    obtain ⟨hb, hne⟩ := plain_of_ofStream hm hs t ht hn _ (Tagged.word_mark_sublist c.tagDelimiter t)
    exact SentenceRules.isContent_of_not_blank (by simp [hn]) hb
      (newlineMark_of_ofStream hs ▸ hne)

end Segmenter

end SentenceReader

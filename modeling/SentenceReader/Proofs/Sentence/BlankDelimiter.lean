import SentenceReader.Proofs.Sentence.TaggedLines

/-! White space as the explicit delimiter of tokenized text. Through the options of its tokenizer every
newline ends a sentence then. As it is the text has newlines end sentences only where they are the
delimiter themselves, so that with other white space all of it is one sentence. -/
namespace SentenceReader

namespace Cutting

variable {α : Type}

/-- A list as a single piece, if there is anything in it. -/
def whole (xs : List α) : List (List α) := if xs.isEmpty then [] else [xs]

/-- Pieces are all in one only where there is one at most, with anything in it. -/
theorem whole_flatten_eq_iff (pieces : List (List α)) :
    whole pieces.flatten = pieces ↔ pieces.length ≤ 1 ∧ [] ∉ pieces := by
  constructor
  · intro h
    rw [whole] at h
    split at h
    · rw [← h]
      exact ⟨Nat.zero_le 1, List.not_mem_nil⟩
    · next hne =>
      rw [← h]
      refine ⟨Nat.le_refl 1, fun hmem => ?_⟩
      rw [List.mem_singleton] at hmem
      exact hne (List.isEmpty_iff.2 hmem.symm)
  · rintro ⟨hlength, hnil⟩
    match pieces, hlength with
    | [], _ => rfl
    | [piece], _ =>
      rw [List.mem_singleton, eq_comm] at hnil
      rw [List.flatten_singleton, whole, if_neg (mt List.isEmpty_iff.1 hnil)]

end Cutting

namespace SpacedSource

/-- Without its newlines a text has the tokens that it has where newlines are none. -/
theorem filter_flatMap_tokensOf (t : Text) :
    ((Text.lines t).flatMap (tokensOf true)).filter (!·.isNewline) =
      (Text.lines t).flatMap (tokensOf false) := by
  have hline : ∀ line, (tokensOf true line).filter (!·.isNewline) = tokensOf false line := by
    intro line
    have hwords : ((Text.words line).map ofWord).filter (!·.isNewline) = (Text.words line).map ofWord := by
      rw [List.filter_eq_self, List.forall_mem_map]
      exact fun _ _ => rfl
    rw [tokensOf_eq, tokensOf_eq, List.filter_append, hwords]
    split <;> simp [newline]
  rw [List.filter_flatMap]
  exact List.flatMap_congr fun line _ => hline line

end SpacedSource

namespace Segmenter

/-- The content of tokenized text is the tokens that it has where newlines are none. -/
theorem filter_isContent_tokenizedTokens (c : Config) (text : Text) :
    ((tokenizedTokens c text).map (tokenizedRules c).mark).filter (tokenizedRules c).isContent =
      ((Text.lines text).flatMap (SpacedSource.tokensOf false)).map (tokenizedRules c).mark := by
  have hcontent : ∀ t ∈ tokenizedTokens c text,
      (tokenizedRules c).isContent ((tokenizedRules c).mark t) = !t.isNewline := by
    intro t ht
    rcases isRead_of_mem_tokenizedTokens ht with hread | ⟨-, rfl⟩
    · rw [SentenceRules.isContent_mark_of_isRead rfl hread, hread.2]
      rfl
    · rw [mark_newline, isContent_newline]
      rfl
  have hfilter : (tokenizedTokens c text).filter
      ((tokenizedRules c).isContent ∘ (tokenizedRules c).mark) =
        (tokenizedTokens c text).filter (!·.isNewline) :=
    List.filter_congr hcontent
  rw [List.filter_map, hfilter]
  cases hn : newlinesEnd c with
  | true => rw [tokenizedTokens, hn, SpacedSource.filter_flatMap_tokensOf]
  | false =>
    rw [List.filter_eq_self.2, tokenizedTokens, hn]
    intro t ht
    rcases isRead_of_mem_tokenizedTokens ht with hread | ⟨hend, -⟩
    · rw [hread.2]
      rfl
    · exact absurd (hn.symm.trans hend) Bool.false_ne_true

/-- The sentences of tokenized text rest on the tokenizer only as far as newlines end them. -/
theorem tokenizedSentences_congr {c : Config} {x y : TokenizerChoice}
    (h : newlinesEnd { c with tokenizer := x } = newlinesEnd { c with tokenizer := y }) (text : Text) :
    tokenizedSentences { c with tokenizer := x } text =
      tokenizedSentences { c with tokenizer := y } text := by
  simp only [tokenizedSentences, tokenizedRules, tokenizedTokens, h]
  rfl

section Blank

variable {c : Config} {d : Text} (hx : c.explicitDelimiter = some d)
variable (hb : Text.isBlankText d = true)
include hx hb

theorem ends_mark_of_isRead (hn : newlinesEnd c = false) {t : Token} (h : SpacedSource.IsRead t) :
    (tokenizedRules c).ends ((tokenizedRules c).mark t) = false := by
  have hdelimiters : (tokenizedRules c).delimiters = [d] := by
    simp [tokenizedRules, SentenceRules.ofConfig, SentenceRules.delimitersOf, hn, hx]
  refine SentenceRules.ends_eq_false_of_isContent ?_ (SentenceRules.isContent_mark_of_isRead rfl h)
  rw [hdelimiters, List.forall_mem_singleton]
  exact .inr hb

/-- Where newlines end no sentence, and the delimiter is white space, tokenized text is one sentence. -/
theorem tokenizedSentences_of_blank (hn : newlinesEnd c = false) (text : Text) :
    tokenizedSentences c text = Cutting.whole (tokenizedSentences c text).flatten := by
  have hf : (tokenizedRules c).followers.isEmpty = true := by
    simp [tokenizedRules, SentenceRules.ofConfig, SentenceRules.followersOf, hx]
  have hends : ∀ t ∈ tokenizedTokens c text,
      (tokenizedRules c).ends ((tokenizedRules c).mark t) = false := by
    intro t ht
    rcases isRead_of_mem_tokenizedTokens ht with hread | ⟨hend, -⟩
    · exact ends_mark_of_isRead hx hb hn hread
    · exact absurd (hn.symm.trans hend) Bool.false_ne_true
  by_cases hts : tokenizedTokens c text = []
  · rw [tokenizedSentences, hts]
    rfl
  have hall : (tokenizedSentences c text).flatten =
      (tokenizedTokens c text).map (tokenizedRules c).mark := by
    rw [flatten_tokenizedSentences, filter_isContent_tokenizedTokens, tokenizedTokens, hn]
  have hne : (tokenizedSentences c text).flatten ≠ [] := by
    rw [hall]
    exact mt List.map_eq_nil_iff.1 hts
  have hone := SentenceRules.sentences_of_no_ends hf hends hts
  rw [← flatten_tokenizedSentences] at hone
  rw [Cutting.whole, if_neg (mt List.isEmpty_iff.1 hne)]
  refine hone.trans ?_
  rw [List.filter_singleton, SentenceRules.keeps, Bool.or_eq_true_iff.2 (.inl ?_)]
  · rfl
  · simpa using hne

end Blank

section Read

variable {c : Config} {d : Text} (hm : c.tokenizerMaker = none) (ht : c.tokenizer = .spaced)
variable (ho : c.tokenizerOptions = []) (hx : c.explicitDelimiter = some d)
include hm ht ho

/-- Where no options are written, newlines are tokens only where they end sentences. -/
theorem ofStream_spaced_of_no_options (stream : TextStream) :
    (ofStream c stream).1 =
      .ok (ofSource c (newlinesEnd c) (.spaced { stream, newlines := newlinesEnd c })) := by
  have hread : SpacedSource.readOptions c.tokenizerOptions = .ok false := by
    rw [ho]
    rfl
  rw [ofStream_spaced hm ht hread, Bool.or_false]

include hx

/-- Where newlines end sentences, the sentences of tokenized text are empty as its lines are. -/
theorem map_isEmpty_tokenizedSentences (hn : newlinesEnd c = true) (text : Text) :
    (tokenizedSentences c text).map List.isEmpty =
      (Text.sentenceLines c.keepEmptySentences text).map fun line => line.all isBlank := by
  have hs := ofStream_spaced_of_no_options hm ht ho (.ofText text)
  have hkept : tokenizedSentences c text = _ :=
    sentences_of_newline_kept hm hx hn hs fun t hword => Tagged.mark_of_word_newlineWord _ hword
  have hempty := map_isEmpty_sentences (c := { c with tagDelimiter := none }) hm hx hn
    (ofStream_untagged hm hs) rfl
  have hmap : ∀ f : Token → Token, (List.isEmpty ∘ List.map f : List Token → Bool) = List.isEmpty :=
    fun f => funext fun _ => List.isEmpty_map
  rw [hkept, List.map_map, hmap]
  exact hempty

end Read

theorem newlinesEnd_tokenized {c : Config} {d : Text} (hm : c.tokenizerMaker = none)
    (hx : c.explicitDelimiter = some d) :
    newlinesEnd { c with tokenizer := .tokenized } = true ↔ d = ['\n'] := by
  simp [newlinesEnd, hm, SentenceRules.delimitersOf, hx, newlineWord, eq_comm]

theorem newlinesEnd_spaced {c : Config} {d : Text} (hx : c.explicitDelimiter = some d) :
    newlinesEnd { c with tokenizer := .spaced } = Text.isBlankText d := by
  simp [newlinesEnd, SentenceRules.newlinesEnd, hx]

/-- Where white space other than a newline is the delimiter, the two kinds of tokenized text have the
same sentences only for a line at most, which has words. -/
theorem tokenizedSentences_eq_iff {c : Config} {d : Text} (hm : c.tokenizerMaker = none)
    (ho : c.tokenizerOptions = []) (hx : c.explicitDelimiter = some d)
    (hb : Text.isBlankText d = true) (hd : d ≠ ['\n']) (text : Text) :
    tokenizedSentences { c with tokenizer := .tokenized } text =
        tokenizedSentences { c with tokenizer := .spaced } text ↔
      (Text.sentenceLines c.keepEmptySentences text).length ≤ 1 ∧
        ∀ line ∈ Text.sentenceLines c.keepEmptySentences text, line.all isBlank = false := by
  have hn : newlinesEnd { c with tokenizer := .tokenized } = false :=
    Bool.eq_false_iff.2 (mt (newlinesEnd_tokenized hm hx).1 hd)
  have hn' : newlinesEnd { c with tokenizer := .spaced } = true := (newlinesEnd_spaced hx).trans hb
  have hflat : (tokenizedSentences { c with tokenizer := .tokenized } text).flatten =
      (tokenizedSentences { c with tokenizer := .spaced } text).flatten := by
    rw [flatten_tokenizedSentences, flatten_tokenizedSentences, filter_isContent_tokenizedTokens,
      filter_isContent_tokenizedTokens]
    rfl
  have hempty := map_isEmpty_tokenizedSentences (c := { c with tokenizer := .spaced }) hm rfl ho hx hn'
    text
  have hlength := congrArg List.length hempty
  rw [List.length_map, List.length_map] at hlength
  have hmem : [] ∈ tokenizedSentences { c with tokenizer := .spaced } text ↔
      ∃ line ∈ Text.sentenceLines c.keepEmptySentences text, line.all isBlank = true := by
    have htrue := congrArg (true ∈ ·) hempty
    simpa using htrue
  rw [tokenizedSentences_of_blank (c := { c with tokenizer := .tokenized }) hx hb hn, hflat,
    Cutting.whole_flatten_eq_iff, hlength, hmem]
  simp

/-- With an explicit delimiter tokenized text has the same sentences as it is and through the options
of its tokenizer, exactly if the delimiter is a newline or no white space, or else the text has no more
than one line to give out, and this one has words. -/
theorem tokenized_eq_spaced_iff {c : Config} {d : Text} (hm : c.tokenizerMaker = none)
    (ho : c.tokenizerOptions = []) (hx : c.explicitDelimiter = some d) {stream : TextStream}
    (hst : stream.Steady) :
    ∃ s s' ss ss', (ofStream { c with tokenizer := .tokenized } stream).1 = .ok s ∧
      (ofStream { c with tokenizer := .spaced } stream).1 = .ok s' ∧
      s.unescaped.Gives ss ∧ s'.unescaped.Gives ss' ∧
      s.Gives (ss.map s.escape) ∧ s'.Gives (ss'.map s'.escape) ∧ s.escape = s'.escape ∧
      (ss = ss' ↔ (Text.isBlankText d = true → d ≠ ['\n'] →
        (Text.sentenceLines c.keepEmptySentences stream.rest).length ≤ 1 ∧
          ∀ line ∈ Text.sentenceLines c.keepEmptySentences stream.rest, line.all isBlank = false)) := by
  have hs := ofStream_tokenized (c := { c with tokenizer := .tokenized }) hm rfl stream
  have hs' := ofStream_spaced_of_no_options (c := { c with tokenizer := .spaced }) hm rfl ho stream
  have hg := TokenSource.gives_coming
    (s := .spaced { stream, newlines := newlinesEnd { c with tokenizer := .tokenized } }) hst
  have hg' := TokenSource.gives_coming
    (s := .spaced { stream, newlines := newlinesEnd { c with tokenizer := .spaced } }) hst
  refine ⟨_, _, _, _, hs, hs', gives_unescaped hs hg, gives_unescaped hs' hg', gives_sentences hs hg,
    gives_sentences hs' hg', rfl, ?_⟩
  change tokenizedSentences { c with tokenizer := .tokenized } stream.rest =
    tokenizedSentences { c with tokenizer := .spaced } stream.rest ↔ _
  by_cases hother : Text.isBlankText d = true ∧ d ≠ ['\n']
  · rw [tokenizedSentences_eq_iff hm ho hx hother.1 hother.2]
    exact ⟨fun h _ _ => h, fun h => h hother.1 hother.2⟩
  · refine iff_of_true (tokenizedSentences_congr ?_ _) fun hb hd => absurd ⟨hb, hd⟩ hother
    rw [Bool.eq_iff_iff, newlinesEnd_tokenized hm hx, newlinesEnd_spaced hx]
    constructor
    · rintro rfl
      rfl
    · intro hb
      by_contra hd
      exact hother ⟨hb, hd⟩

/-- A line among blank ones, with tags. -/
theorem tokenized_eq_spaced_iff_of_text :
    let c : Config := { explicitDelimiter := some [' '], tagDelimiter := some ['_'] }
    let stream := TextStream.ofText "\n A_X b\n\n".toList
    (c.tokenizerMaker = none ∧ c.tokenizerOptions = [] ∧ c.explicitDelimiter = some [' '] ∧
        stream.Steady) ∧
      ∃ s s' ss ss', (ofStream { c with tokenizer := .tokenized } stream).1 = .ok s ∧
        (ofStream { c with tokenizer := .spaced } stream).1 = .ok s' ∧
        s.unescaped.Gives ss ∧ s'.unescaped.Gives ss' ∧
        s.Gives (ss.map s.escape) ∧ s'.Gives (ss'.map s'.escape) ∧ s.escape = s'.escape ∧
        ss = ss' ∧ ss.map (List.map Token.word) = [[['A'], ['b']]] := by
  intro c stream
  have hst : stream.Steady := TextStream.steady_ofText _
  obtain ⟨s, s', ss, ss', hs, hs', hg, hg', he, he', hescape, hiff⟩ :=
    tokenized_eq_spaced_iff (c := c) rfl rfl rfl hst
  have hknown : (ofStream { c with tokenizer := .tokenized } stream).1 =
      .ok (ofSource c false (.spaced { stream, newlines := false })) := rfl
  obtain rfl := Except.ok.inj (hs.symm.trans hknown)
  obtain rfl := hg.unique (gives_unescaped hs (TokenSource.gives_coming hst))
  exact ⟨⟨rfl, rfl, rfl, hst⟩, _, _, _, _, hs, hs', hg, hg', he, he', hescape,
    hiff.2 fun _ _ => by decide +kernel, by decide +kernel⟩

/-- With a space as the delimiter the lines of tokenized text as it is are one sentence. -/
theorem lines_joined_by_space :
    let c : Config := { explicitDelimiter := some [' '] }
    let stream := TextStream.ofText "a\nb".toList
    (c.issues = [] ∧ c.tokenizerMaker = none ∧ c.tokenizerOptions = [] ∧
        c.explicitDelimiter = some [' '] ∧ c.tagDelimiter = none ∧ c.escaper = none ∧
        stream.Steady) ∧
      ∃ s s' ss ss', (ofStream { c with tokenizer := .tokenized } stream).1 = .ok s ∧
        (ofStream { c with tokenizer := .spaced } stream).1 = .ok s' ∧ s.Gives ss ∧ s'.Gives ss' ∧
        ss.map (List.map Token.word) = [[['a'], ['b']]] ∧
        ss'.map (List.map Token.word) = [[['a']], [['b']]] ∧ ss ≠ ss' := by
  intro c stream
  have hst : stream.Steady := TextStream.steady_ofText _
  have hs := ofStream_tokenized (c := { c with tokenizer := .tokenized }) rfl rfl stream
  have hs' := ofStream_spaced_of_no_options (c := { c with tokenizer := .spaced }) rfl rfl rfl stream
  have hg := gives_sentences_unescaped hs rfl (TokenSource.gives_coming hst)
  have hg' := gives_sentences_unescaped hs' rfl (TokenSource.gives_coming hst)
  refine ⟨⟨rfl, rfl, rfl, rfl, rfl, rfl, hst⟩, _, _, _, _, hs, hs', hg, hg', ?_, ?_, ?_⟩ <;>
    decide +kernel

end Segmenter

end SentenceReader

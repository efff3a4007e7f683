import Mathlib.Data.List.Forall2
import SentenceReader.Proofs.Sentence.Explicit
import SentenceReader.Proofs.Sentence.Growing

/-! Sentences that are lines. Where a newline is the explicit delimiter, every sentence holds the tokens
of one line, and these are the tokens that the line has alone. -/
namespace SentenceReader

namespace Text

/-- The lines of a text, without their newlines. What stands behind the last newline counts as a line if
it is not white space alone. -/
def countedLines (t : Text) : List Text :=
  ((lines t).filter fun line => line.contains '\n' || line.any (!isBlank ·)).map
    (List.takeWhile (· != '\n'))

theorem countedLines_append_cons {body : Text} (h : '\n' ∉ body) (later : Text) :
    countedLines (body ++ '\n' :: later) = body :: countedLines later := by
  have hbody : (body ++ ['\n']).takeWhile (· != '\n') = body := by
    rw [List.takeWhile_append_of_pos]
    · simp
    · intro c hc
      rw [bne_iff_ne]
      rintro rfl
      exact h hc
  rw [countedLines, lines_append_cons h, List.filter_cons_of_pos (by simp), List.map_cons, hbody,
    countedLines]

theorem countedLines_of_not_mem {body : Text} (h : '\n' ∉ body) :
    countedLines body = if body.all isBlank then [] else [body] := by
  cases body with
  | nil => rfl
  | cons c rest =>
    have htake : (c :: rest).takeWhile (· != '\n') = c :: rest := by
      rw [List.takeWhile_eq_self_iff]
      intro d hd
      rw [bne_iff_ne]
      rintro rfl
      exact h hd
    have hcontains : (c :: rest).contains '\n' = false := by simpa using h
    rw [countedLines, lines_eq_singleton h (List.cons_ne_nil c rest), List.filter_cons, hcontains,
      List.filter_nil, ← List.not_all_eq_any_not, Bool.false_or]
    cases (c :: rest).all isBlank with
    | true => rfl
    | false => exact congrArg (fun line => [line]) htake

example : countedLines "a\n\n b\n ".toList = ["a", "", " b"].map String.toList := by decide

end Text

namespace SentenceRules

/-- Where every newline and nothing else ends a sentence, the groups hold the tokens of the lines. -/
theorem map_filter_behind {r : SentenceRules} {nl : Token} {tokens : Text → List Token}
    (htokens : LineTokens [nl] tokens) (hn : r.ends nl = true) (hnc : r.isContent nl = false)
    (hcontent : ∀ body, '\n' ∉ body → ∀ t ∈ tokens body, r.isContent t = true ∧ r.ends t = false)
    (text : Text) :
    (Cutting.behind r.ends (tokens text)).map (List.filter r.isContent) =
      (Text.countedLines text).map tokens := by
  have hfilter : ∀ body, '\n' ∉ body → (tokens body).filter r.isContent = tokens body := by
    intro body hb
    rw [List.filter_eq_self]
    exact fun t ht => (hcontent body hb t ht).1
  induction text using Text.inductionOnLines with
  | rest body hb =>
    rw [Text.countedLines_of_not_mem hb]
    have hnil := htokens.eq_nil_iff body hb
    rw [← List.all_eq_true] at hnil
    split
    · next hblank =>
      rw [hnil.2 hblank]
      rfl
    · next hblank =>
      have hne : tokens body ≠ [] := mt hnil.1 hblank
      rw [Cutting.behind_eq_singleton (fun t ht => (hcontent body hb t ht).2) hne, List.map_singleton,
        hfilter body hb, List.map_singleton]
  | line body later hb ih =>
    have hline : (body ++ ['\n']).EndsLine := .inr List.getLast?_concat
    have happend : tokens (body ++ '\n' :: later) = tokens body ++ nl :: tokens later := by
      have h := htokens.append (body ++ ['\n']) later hline
      rw [htokens.newline body hb] at h
      simpa using h
    have hgroup : (tokens body ++ [nl]).filter r.isContent = tokens body := by
      rw [List.filter_append, hfilter body hb, List.filter_singleton, hnc]
      exact List.append_nil _
    rw [happend, Cutting.behind_append_cons (fun t ht => (hcontent body hb t ht).2) hn,
      List.map_cons, hgroup, ih, Text.countedLines_append_cons hb, List.map_cons]

/-- Where the only delimiters are white space and newlines, what is content ends no sentence. -/
theorem ends_eq_false_of_isContent {r : SentenceRules}
    (hr : ∀ d ∈ r.delimiters, d = r.newlineMark ∨ Text.isBlankText d = true) {t : Token}
    (h : r.isContent t = true) : r.ends t = false := by
  rw [isContent, Bool.not_eq_true', Bool.or_eq_false_iff, Bool.or_eq_false_iff] at h
  rw [ends, ← Bool.not_eq_true, List.contains_iff_mem]
  intro hmem
  rcases hr _ hmem with hmark | hblank
  · exact ne_of_beq_false h.2 hmark
  · exact Bool.noConfusion (hblank.symm.trans h.1.1)

/-- Of the sentences that are given out the empty ones are left out, or all are there. -/
theorem map_word_filter_keeps (r : SentenceRules) (ss : List Sentence) :
    (ss.filter r.keeps).map (List.map Token.word) =
      if r.keepEmpty then ss.map (List.map Token.word)
      else (ss.map (List.map Token.word)).filter (!·.isEmpty) := by
  split
  · next hk =>
    have hall : ∀ s ∈ ss, r.keeps s = true := by
      intro s _
      rw [keeps, hk, Bool.or_true]
    rw [List.filter_eq_self.2 hall]
  · next hk =>
    have hkeeps : r.keeps = (fun ws => !ws.isEmpty) ∘ List.map Token.word := by
      funext s
      simp [keeps, hk]
    rw [List.filter_map, hkeeps]

end SentenceRules

/-- Under some settings a text has these words. -/
def Config.HasWords (c : Config) (t : Text) (ws : List Text) : Prop :=
  ∃ s ts, (Segmenter.ofStream c (.ofText t)).1 = .ok s ∧ s.source.Gives ts ∧ ts.map Token.word = ws

namespace Segmenter

theorem newlinesEnd_of_newline {c : Config} (hx : c.explicitDelimiter = some ['\n']) :
    newlinesEnd c = true := by
  unfold newlinesEnd
  split
  · rw [SentenceRules.delimitersOf, hx]
    rfl
  · rw [hx]
    rfl

/-- Newlines end sentences by no explicit delimiter but white space. -/
theorem isBlankText_of_newlinesEnd {c : Config} {d : Text} (hx : c.explicitDelimiter = some d)
    (hend : newlinesEnd c = true) : Text.isBlankText d = true := by
  unfold newlinesEnd at hend
  split at hend
  · rw [SentenceRules.delimitersOf, hx, List.contains_iff_mem, List.mem_singleton] at hend
    subst hend
    rfl
  · rwa [hx] at hend

section Newlines

variable {c : Config} {stream : TextStream} {s : Segmenter} {d : Text}
variable (hm : c.tokenizerMaker = none) (hx : c.explicitDelimiter = some d)
variable (hend : newlinesEnd c = true) (ht : c.tagDelimiter = none)
variable (hs : (ofStream c stream).1 = .ok s)
include hx hend hs

theorem delimiters_of_newlinesEnd : s.rules.delimiters = [s.rules.newlineMark, d] := by
  rw [rules_of_ofStream hs, hend]
  simp [SentenceRules.ofConfig, SentenceRules.delimitersOf, hx]

theorem ends_of_newlineMark (t : Token) (h : t.word = s.source.newlineMark) : s.rules.ends t = true := by
  rw [SentenceRules.ends, delimiters_of_newlinesEnd hx hend hs, newlineMark_of_ofStream hs, h]
  simp

theorem ends_eq_false_of_isContent {t : Token} (h : s.rules.isContent t = true) :
    s.rules.ends t = false := by
  refine SentenceRules.ends_eq_false_of_isContent ?_ h
  rw [delimiters_of_newlinesEnd hx hend hs, List.forall_mem_cons, List.forall_mem_singleton]
  exact ⟨.inl rfl, .inr (isBlankText_of_newlinesEnd hx hend)⟩

variable {newline : List Token} {tokens : Text → List Token} (htokens : LineTokens newline tokens)
variable (hcoming : ∀ x, (s.withStream x).source.coming.map Token.bare = tokens x.rest)
include hm ht htokens hcoming

/-- The tokens of a line are content, and end no sentence. -/
theorem isContent_of_mem_line (body : Text) (hb : '\n' ∉ body) (t : Token) (hmem : t ∈ tokens body) :
    s.rules.isContent t = true ∧ s.rules.ends t = false := by
  have hcontent : s.rules.isContent t = true := by
    have hn := htokens.isNewline_eq_false body hb t hmem
    have hline : (s.withStream (.ofText body)).source.coming.map Token.bare = tokens body :=
      hcoming (.ofText body)
    rw [← hline] at hmem
    obtain ⟨u, hu, rfl⟩ := List.mem_map.1 hmem
    have hmark := isContent_mark hm (ofStream_withStream hs (.ofText body)) hu
    rw [ht] at hmark
    rw [show u.isNewline = false from hn] at hmark
    exact hmark
  exact ⟨hcontent, ends_eq_false_of_isContent hx hend hs hcontent⟩

/-- Where newlines end sentences by the explicit delimiter, the sentences hold the tokens of the
lines. -/
theorem map_bare_sentences_of_newlinesEnd
    (hnewline : newline = [{ word := s.source.newlineMark, isNewline := true }]) (x : TextStream) :
    (s.rules.sentences (s.withStream x).source.coming).map (List.map Token.bare) =
      ((Text.countedLines x.rest).map tokens).filter s.rules.keeps := by
  subst hnewline
  have hgroups := SentenceRules.map_filter_behind htokens (ends_of_newlineMark hx hend hs _ rfl)
    (SentenceRules.isContent_of_isNewline rfl)
    (isContent_of_mem_line hm hx hend ht hs htokens hcoming) x.rest
  rw [← SentenceRules.sentences_map_bare, hcoming,
    s.rules.sentences_of_no_followers (followers_of_explicit hs hx), mark_of_ofStream hs, ht,
    Tagged.map_mark_none, hgroups]

end Newlines

/-- The sentences hold the tokens of the lines. -/
theorem map_bare_sentences {c : Config} {stream : TextStream} {s : Segmenter}
    (hm : c.tokenizerMaker = none) (hx : c.explicitDelimiter = some ['\n'])
    (ht : c.tagDelimiter = none) (hs : (ofStream c stream).1 = .ok s) {newline : List Token}
    {tokens : Text → List Token} (htokens : LineTokens newline tokens)
    (hcoming : ∀ x, (s.withStream x).source.coming.map Token.bare = tokens x.rest)
    (hnewline : newline = [{ word := s.source.newlineMark, isNewline := true }]) (x : TextStream) :
    (s.rules.sentences (s.withStream x).source.coming).map (List.map Token.bare) =
      ((Text.countedLines x.rest).map tokens).filter s.rules.keeps :=
  map_bare_sentences_of_newlinesEnd hm hx (newlinesEnd_of_newline hx) ht hs htokens hcoming hnewline x

/-- Where a newline is the explicit delimiter, the sentences are the lines of the text, one by one, and
the words of each are the words that the line has alone. Empty sentences are kept or left out. -/
theorem gives_lines {c : Config} (hm : c.tokenizerMaker = none) (ho : c.OptionsAccepted)
    (hx : c.explicitDelimiter = some ['\n']) (ht : c.tagDelimiter = none) (he : c.escaper = none)
    {stream : TextStream} (hst : stream.Steady) :
    ∃ s ss wss, (ofStream c stream).1 = .ok s ∧ s.Gives ss ∧
      List.Forall₂ c.HasWords (Text.countedLines stream.rest) wss ∧
      ss.map (List.map Token.word) =
        if c.keepEmptySentences then wss else wss.filter (!·.isEmpty) := by
  obtain ⟨s, hs, -⟩ := ofStream_accepted hm ho stream
  obtain ⟨newline, tokens, htokens, hcoming, hnewline⟩ := lineTokens_of_ofStream hm hs
  have hwords : ∀ x : TextStream, (s.withStream x).source.coming.map Token.word =
      (tokens x.rest).map Token.word := by
    intro x
    rw [← hcoming, Token.map_word_bare]
  have hss := map_bare_sentences hm hx ht hs htokens hcoming
    (hnewline (newlinesEnd_of_newline hx)) stream
  obtain ⟨s', hs', -, hg⟩ := reads_withStream hs he hst
  refine ⟨s', _, (Text.countedLines stream.rest).map fun line => (tokens line).map Token.word, hs', hg,
    ?_, ?_⟩
  · rw [List.forall₂_map_right_iff, List.forall₂_same]
    intro line _
    have hline : (TextStream.ofText line).Steady := TextStream.steady_ofText line
    obtain ⟨u, hu, hut, -⟩ := reads_withStream hs he hline
    exact ⟨u, _, hu, hut, hwords (.ofText line)⟩
  · have hmap := s.rules.map_word_filter_keeps ((Text.countedLines stream.rest).map tokens)
    rw [← hss, List.map_map, List.map_map, keepEmpty_of_ofStream hs] at hmap
    have hbare : List.map Token.word ∘ List.map Token.bare = List.map Token.word :=
      funext Token.map_word_bare
    rw [hbare] at hmap
    exact hmap

/-- The full stop of an abbreviation at the end of a line is a token of its own, as in a text that ends
there. The white space behind the last newline is no line. -/
theorem gives_lines_of_text :
    let c : Config :=
      { tokenizerOptions := "tokenizeNLs=false".toList, explicitDelimiter := some ['\n'],
        keepEmptySentences := true }
    let stream := TextStream.ofText "Mr. A\n\nMr.\n ".toList
    (c.tokenizerMaker = none ∧ c.OptionsAccepted ∧ c.explicitDelimiter = some ['\n'] ∧
        c.tagDelimiter = none ∧ c.escaper = none ∧ stream.Steady) ∧
      ∃ s ss wss, (ofStream c stream).1 = .ok s ∧ s.Gives ss ∧
        List.Forall₂ c.HasWords (["Mr. A", "", "Mr."].map String.toList) wss ∧
        ss.map (List.map Token.word) = wss ∧
        wss = [["Mr.", "A"], [], ["Mr", "."]].map (List.map String.toList) := by
  intro c stream
  have ho : c.OptionsAccepted := ⟨_, rfl⟩
  have hst : stream.Steady := TextStream.steady_ofText _
  obtain ⟨s, ss, wss, hs, hg, hlines, hwords⟩ := gives_lines (c := c) rfl ho rfl rfl rfl hst
  refine ⟨⟨rfl, ho, rfl, rfl, rfl, hst⟩, s, ss, wss, hs, hg, hlines, hwords, ?_⟩
  have hknown : (ofStream c stream).1 =
      .ok (ofSource c true (.lexed { stream, options := { newlines := true } })) := rfl
  obtain rfl := Except.ok.inj (hs.symm.trans hknown)
  obtain rfl := hg.unique (gives_sentences hs (TokenSource.gives_coming hst))
  refine hwords.symm.trans ?_
  decide +kernel

end Segmenter

end SentenceReader

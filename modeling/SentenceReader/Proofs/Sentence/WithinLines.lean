import SentenceReader.Proofs.Sentence.Reprinted

/-! Sentences that keep to the lines of tokenized text. A newline that is a delimiter ends a sentence,
but what stands behind it may still be taken: a delimiter or a closing mark at the beginning of a line
goes to the sentence in front, and the text behind it begins the next one. -/
namespace SentenceReader

/-- Wherever a text is cut between two of its lines its sentences are cut with it: the words in front
are in some of them, and the words behind are in the others. -/
def Sentence.KeepToLines (t : Text) (ss : List Sentence) : Prop :=
  ∀ front back, Text.lines t = front ++ back →
    ∃ before later, ss = before ++ later ∧
      before.flatten.map Token.word = front.flatMap Text.words ∧
      later.flatten.map Token.word = back.flatMap Text.words

/-- The first of some lines that has words. -/
theorem Text.exists_first_word {lines : List Text} (h : lines.flatMap words ≠ []) :
    ∃ blank line rest w ws, lines = blank ++ line :: rest ∧ blank.flatMap words = [] ∧
      words line = w :: ws := by
  induction lines with
  | nil => exact absurd rfl h
  | cons line lines ih =>
    cases hw : words line with
    | cons w ws => exact ⟨[], line, lines, w, ws, rfl, rfl, hw⟩
    | nil =>
      rw [List.flatMap_cons, hw, List.nil_append] at h
      obtain ⟨blank, first, rest, w, ws, rfl, hblank, hws⟩ := ih h
      refine ⟨line :: blank, first, rest, w, ws, rfl, ?_, hws⟩
      rw [List.flatMap_cons, hw, hblank, List.nil_append]

namespace SentenceRules

variable {r : SentenceRules}

/-- Several groups that begin with content are sentences with what is content of them. -/
theorem ofGroups_eq_map_filter {groups : List (List Token)} (h : r.OpensWithContent groups)
    (hg : groups.tail ≠ []) : r.ofGroups groups = groups.map (List.filter r.isContent) := by
  have hself : (r.ofGroups groups).map (List.filter r.isContent) = r.ofGroups groups := by
    refine (List.map_congr_left fun s hs => ?_).trans (List.map_id _)
    apply List.filter_eq_self.2
    exact fun t ht => (r.forall_mem_ofGroups groups).2 h t (List.mem_flatten.2 ⟨s, hs, ht⟩)
  have hne : ¬(groups.map (List.filter r.isContent) = [[]] ∧ r.keepEmpty = false) := by
    rintro ⟨hs, -⟩
    have htail := congrArg List.tail hs
    rw [← List.map_tail, List.tail_cons, List.map_eq_nil_iff] at htail
    exact hg htail
  rw [← hself, map_filter_ofGroups, if_neg hne]

/-- A cut in front of a token is the end of a sentence. -/
theorem sentences_append_cons (hf : r.followers.isEmpty = false) (ht : r.tagDelimiter = none)
    {xs ys : List Token} {a : Token}
    (hc : ∀ t ∈ xs ++ a :: ys, r.ends t = false → r.isContent t = true) (hx : xs ≠ [])
    (ha : isCut r.delimiters r.followers xs.reverse a = true) :
    ∃ before later, r.sentences (xs ++ a :: ys) = before ++ later ∧
      before.flatten = xs.filter r.isContent ∧ later.flatten = (a :: ys).filter r.isContent := by
  obtain ⟨pieces, hflat, hne, hbefore⟩ := Cutting.before_append_cons hx ha ys
  have hopens := opensWithContent_before hc
  have htail : (Cutting.before (isCut r.delimiters r.followers) (xs ++ a :: ys)).tail ≠ [] := by
    cases xs with
    | nil => exact absurd rfl hx
    | cons x xs =>
      rw [hbefore, Cutting.before, List.cons_append, List.tail_cons]
      exact List.append_ne_nil_of_right_ne_nil _ hne
  refine ⟨(Cutting.before (isCut r.delimiters r.followers) xs).map (List.filter r.isContent),
    pieces.map (List.filter r.isContent), ?_, ?_, ?_⟩
  · rw [r.sentences_of_followers hf, map_mark ht, ofGroups_eq_map_filter hopens htail, hbefore,
      List.map_append]
  · rw [← List.filter_flatten, Cutting.flatten_before]
  · rw [← List.filter_flatten, hflat]

end SentenceRules

namespace Segmenter

section Lines

variable {c : Config} (htag : c.tagDelimiter = none)
include htag

/-- The content of lines is their words. -/
theorem map_word_filter_tokensOf (newlines : Bool) (lines : List Text) :
    ((lines.flatMap (SpacedSource.tokensOf newlines)).filter (tokenizedRules c).isContent).map
        Token.word = lines.flatMap Text.words := by
  have hword : ∀ t, SpacedSource.IsRead t → (tokenizedRules c).isContent t = true := by
    intro t ht
    have hm : (tokenizedRules c).mark t = t := congrArg (Tagged.mark · t) htag
    rw [← hm]
    exact SentenceRules.isContent_mark_of_isRead rfl ht
  have hline : ∀ line ∈ lines, ((SpacedSource.tokensOf newlines line).filter
      (tokenizedRules c).isContent).map Token.word = Text.words line := by
    intro line _
    have hwords : ∀ t ∈ (Text.words line).map SpacedSource.ofWord,
        (tokenizedRules c).isContent t = true := by
      intro t ht
      obtain ⟨w, hw, rfl⟩ := List.mem_map.1 ht
      exact hword _ ⟨Text.isWord_of_mem_words hw, rfl⟩
    have hnewline : (if newlines && line.getLast? = some '\n' then [SpacedSource.newline]
        else []).filter (tokenizedRules c).isContent = [] := by
      split
      · rw [List.filter_singleton, isContent_newline]
        rfl
      · rfl
    rw [SpacedSource.tokensOf_eq, List.filter_append, List.filter_eq_self.2 hwords, hnewline,
      List.append_nil, List.map_map]
    exact List.map_id _
  rw [List.filter_flatMap, List.map_flatMap]
  exact List.flatMap_congr hline

theorem map_word_flatten_tokenizedSentences (text : Text) :
    (tokenizedSentences c text).flatten.map Token.word = (Text.lines text).flatMap Text.words := by
  rw [flatten_tokenizedSentences, SentenceRules.map_mark htag]
  exact map_word_filter_tokensOf htag _ _

end Lines

section Delimiters

variable {c : Config} (hx : c.explicitDelimiter = none)
include hx

theorem followers_isEmpty_tokenizedRules : (tokenizedRules c).followers.isEmpty = false := by
  rw [followers_tokenizedRules hx]
  rfl

/-- A word ends no sentence and follows none if it is neither a delimiter nor a closing mark. -/
theorem begins_iff {t : Token} (ht : SpacedSource.IsRead t) :
    (tokenizedRules c).ends t = false ∧ (tokenizedRules c).follows t = false ↔
      t.word ∉ c.sentenceDelimiters ∧ t.word ∉ SentenceRules.closingMarks := by
  have hends : (tokenizedRules c).ends t = false ↔ t.word ∉ c.sentenceDelimiters := by
    simp only [SentenceRules.ends, tokenizedRules, SentenceRules.ofConfig,
      SentenceRules.delimitersOf, hx]
    split <;> simp [ht.word_ne_newlineWord]
  rw [hends, SentenceRules.follows, followers_tokenizedRules hx]
  simp

/-- Every sentence behind the first one begins with a word that ends no sentence and follows none. -/
theorem opens_of_mem_tail {text : Text} {s : Sentence} (hs : s ∈ (tokenizedSentences c text).tail) :
    (tokenizedRules c).Opens s := by
  have hset := (tokenizedRules c).settled_ofGroups_before
    ((tokenizedTokens c text).map (tokenizedRules c).mark)
  rw [← SentenceRules.sentences_of_followers _ (followers_isEmpty_tokenizedRules hx)] at hset
  change (tokenizedRules c).Settled (tokenizedSentences c text) at hset
  cases hss : tokenizedSentences c text with
  | nil => simp [hss] at hs
  | cons first later =>
    rw [hss] at hset hs
    exact hset.2 s hs

variable (htag : c.tagDelimiter = none)
include htag

/-- Where sentences keep to the lines, what begins a line behind other words begins a sentence. -/
theorem head_of_keepToLines {text : Text}
    (h : Sentence.KeepToLines text (tokenizedSentences c text)) {front back : List Text} {line : Text}
    (hl : Text.lines text = front ++ line :: back) (hf : front.flatMap Text.words ≠ []) :
    ∀ w ∈ (Text.words line).head?, w ∉ c.sentenceDelimiters ∧ w ∉ SentenceRules.closingMarks := by
  intro w hw
  obtain ⟨ws, hws⟩ := List.head?_eq_some_iff.1 hw
  obtain ⟨before, later, hss, hbefore, hlater⟩ := h front (line :: back) hl
  rw [List.flatMap_cons, hws, List.cons_append] at hlater
  cases before with
  | nil => exact absurd hbefore.symm hf
  | cons first before =>
    cases later with
    | nil => exact absurd hlater (List.cons_ne_nil w _).symm
    | cons s later =>
      have hs : s ∈ (tokenizedSentences c text).tail := by simp [hss]
      obtain ⟨t, rest, rfl, he, hfollows, -⟩ := opens_of_mem_tail hx hs
      have hmem : t :: rest ∈ tokenizedSentences c text := List.mem_of_mem_tail hs
      have hread := isRead_of_mem_tokenizedSentences htag text _ hmem t List.mem_cons_self
      rw [List.flatten_cons, List.cons_append, List.map_cons, List.cons.injEq] at hlater
      rw [← hlater.1]
      exact (begins_iff hx hread).1 ⟨he, hfollows⟩

/-- Behind a line a word that may begin a sentence begins one. -/
theorem exists_append_of_begins (hn : newlinesEnd c = true) {text : Text} {front back : List Text}
    {line : Text} (hl : Text.lines text = front ++ line :: back) (hf : front ≠ []) {w : Text}
    {ws : List Text} (hw : Text.words line = w :: ws)
    (hb : w ∉ c.sentenceDelimiters ∧ w ∉ SentenceRules.closingMarks) :
    ∃ before later, tokenizedSentences c text = before ++ later ∧
      before.flatten.map Token.word = front.flatMap Text.words ∧
      later.flatten.map Token.word = (line :: back).flatMap Text.words := by
  have hread : SpacedSource.IsRead (SpacedSource.ofWord w) := by
    have hmem : w ∈ Text.words line := by simp [hw]
    exact ⟨Text.isWord_of_mem_words hmem, rfl⟩
  obtain ⟨xs, hxs⟩ : ∃ xs, front.flatMap (SpacedSource.tokensOf (newlinesEnd c)) =
      xs ++ [SpacedSource.newline] := by
    have hnewline := Text.getLast?_of_lines_eq hl (List.cons_ne_nil line back)
    obtain ⟨lines, last, rfl⟩ := (List.eq_nil_or_concat' front).resolve_left hf
    have hlast : last.getLast? = some '\n' := hnewline last (by simp)
    refine ⟨lines.flatMap (SpacedSource.tokensOf (newlinesEnd c)) ++
      (Text.words last).map SpacedSource.ofWord, ?_⟩
    rw [List.flatMap_append, List.flatMap_singleton, SpacedSource.tokensOf_eq, hn, hlast]
    simp
  obtain ⟨ys, hys⟩ : ∃ ys, (line :: back).flatMap (SpacedSource.tokensOf (newlinesEnd c)) =
      SpacedSource.ofWord w :: ys := by
    rw [List.flatMap_cons, SpacedSource.tokensOf_eq, hw, List.map_cons, List.cons_append,
      List.cons_append]
    exact ⟨_, rfl⟩
  have htokens : tokenizedTokens c text = (xs ++ [SpacedSource.newline]) ++ SpacedSource.ofWord w :: ys := by
    rw [tokenizedTokens, hl, List.flatMap_append, hxs, hys]
  have hcut : SentenceRules.isCut (tokenizedRules c).delimiters (tokenizedRules c).followers
      (xs ++ [SpacedSource.newline]).reverse (SpacedSource.ofWord w) = true := by
    obtain ⟨he, hfollows⟩ := (begins_iff hx hread).2 hb
    rw [← SentenceRules.isCut_eq, he, hfollows, List.reverse_concat,
      SentenceRules.closes_cons_of_ends (ends_newline hn)]
    rfl
  have hcontent : ∀ t ∈ (xs ++ [SpacedSource.newline]) ++ SpacedSource.ofWord w :: ys,
      (tokenizedRules c).ends t = false → (tokenizedRules c).isContent t = true := by
    rw [← htokens, ← SentenceRules.map_mark (r := tokenizedRules c) htag (tokenizedTokens c text)]
    exact isContent_of_not_ends
  obtain ⟨before, later, hss, hbefore, hlater⟩ := SentenceRules.sentences_append_cons
    (followers_isEmpty_tokenizedRules hx) htag hcontent (by simp) hcut
  refine ⟨before, later, ?_, ?_, ?_⟩
  · rw [tokenizedSentences, htokens, hss]
  · rw [hbefore, ← hxs, map_word_filter_tokensOf htag]
  · rw [hlater, ← hys, map_word_filter_tokensOf htag]

theorem keepToLines_of_begins (hn : newlinesEnd c = true) {text : Text}
    (h : ∀ front line back, Text.lines text = front ++ line :: back →
      front.flatMap Text.words ≠ [] →
        ∀ w ∈ (Text.words line).head?, w ∉ c.sentenceDelimiters ∧ w ∉ SentenceRules.closingMarks) :
    Sentence.KeepToLines text (tokenizedSentences c text) := by
  intro front back hl
  have hwords := map_word_flatten_tokenizedSentences htag text
  rw [hl, List.flatMap_append] at hwords
  by_cases hf : front.flatMap Text.words = []
  · refine ⟨[], tokenizedSentences c text, rfl, ?_, ?_⟩
    · rw [hf]
      rfl
    · rw [hwords, hf, List.nil_append]
  · by_cases hb : back.flatMap Text.words = []
    · refine ⟨tokenizedSentences c text, [], (List.append_nil _).symm, ?_, ?_⟩
      · rw [hwords, hb, List.append_nil]
      · rw [hb]
        rfl
    · -- The first line with words behind the cut begins a sentence, and so do no lines before it.
      obtain ⟨blank, line, rest, w, ws, rfl, hblank, hw⟩ := Text.exists_first_word hb
      rw [← List.append_assoc] at hl
      have hfront : (front ++ blank).flatMap Text.words = front.flatMap Text.words := by
        rw [List.flatMap_append, hblank, List.append_nil]
      have hne : (front ++ blank).flatMap Text.words ≠ [] := hfront ▸ hf
      have hbegins := h (front ++ blank) line rest hl hne w (by simp [hw])
      obtain ⟨before, later, hss, hbefore, hlater⟩ :=
        exists_append_of_begins hx htag hn hl (by rintro h; simp [h] at hne) hw hbegins
      refine ⟨before, later, hss, hbefore.trans hfront, ?_⟩
      rw [hlater, List.flatMap_append, hblank, List.nil_append]

end Delimiters

/-- Where a newline is one of several delimiters, the sentences of tokenized text keep to its lines
exactly if no line behind the first words begins with a delimiter or with a closing mark. -/
theorem keepToLines_iff {c : Config} (hm : c.tokenizerMaker = none) (ht : c.tokenizer = .tokenized)
    (hx : c.explicitDelimiter = none) (hd : newlineWord ∈ c.sentenceDelimiters)
    (htag : c.tagDelimiter = none) (he : c.escaper = none) {stream : TextStream}
    (hst : stream.Steady) :
    ∃ s ss, (ofStream c stream).1 = .ok s ∧ s.Gives ss ∧
      (Sentence.KeepToLines stream.rest ss ↔
        ∀ front line back, Text.lines stream.rest = front ++ line :: back →
          front.flatMap Text.words ≠ [] → ∀ w ∈ (Text.words line).head?,
            w ∉ c.sentenceDelimiters ∧ w ∉ SentenceRules.closingMarks) := by
  have hn : newlinesEnd c = true := by
    simp [newlinesEnd, hm, ht, SentenceRules.delimitersOf, hx, hd]
  obtain ⟨s, hs, hg⟩ := gives_tokenizedSentences hm ht he hst
  refine ⟨s, _, hs, hg, ?_, keepToLines_of_begins hx htag hn⟩
  intro h front line back hl hf
  exact head_of_keepToLines hx htag h hl hf

/-- A closing mark stands in a line behind a full stop, and an empty line stands between two others. -/
theorem keepToLines_iff_of_text :
    let c : Config := { sentenceDelimiters := [['.'], ['\n']], tokenizer := .tokenized }
    let stream := TextStream.ofText "a . ) b\n\nc d\ne".toList
    (c.tokenizerMaker = none ∧ c.tokenizer = .tokenized ∧ c.explicitDelimiter = none ∧
        newlineWord ∈ c.sentenceDelimiters ∧ c.tagDelimiter = none ∧ c.escaper = none ∧
        stream.Steady) ∧
      ∃ s ss, (ofStream c stream).1 = .ok s ∧ s.Gives ss ∧
        Sentence.KeepToLines stream.rest ss ∧
        ss.map (List.map Token.word) =
          [["a", ".", ")"], ["b"], ["c", "d"], ["e"]].map (List.map String.toList) := by
  intro c stream
  have hd : newlineWord ∈ c.sentenceDelimiters := by decide
  have hst : stream.Steady := TextStream.steady_ofText _
  obtain ⟨s, ss, hs, hg, hiff⟩ := keepToLines_iff (c := c) rfl rfl rfl hd rfl rfl hst
  obtain ⟨s₀, hs₀, hg₀⟩ := gives_tokenizedSentences (c := c) rfl rfl rfl hst
  obtain rfl := Except.ok.inj (hs₀.symm.trans hs)
  obtain rfl := hg.unique hg₀
  refine ⟨⟨rfl, rfl, rfl, hd, rfl, rfl, hst⟩, _, _, hs, hg, hiff.2 ?_, by decide +kernel⟩
  have hbegins : ∀ line ∈ (Text.lines stream.rest).tail, ∀ w ∈ (Text.words line).head?,
      w ∉ c.sentenceDelimiters ∧ w ∉ SentenceRules.closingMarks := by decide +kernel
  intro front line back hl hf
  refine hbegins line ?_
  cases front with
  | nil => exact absurd rfl hf
  | cons first front => simp [hl]

/-- A closing mark at the beginning of a line goes to the sentence in the line in front. -/
theorem closing_mark_spans_lines :
    let c : Config :=
      { sentenceDelimiters := [['.'], ['?'], ['!'], ['\n']], tokenizer := .tokenized }
    let stream := TextStream.ofText "a\n) b".toList
    (c.issues = [] ∧ c.tokenizerMaker = none ∧ c.tokenizer = .tokenized ∧
        c.explicitDelimiter = none ∧ newlineWord ∈ c.sentenceDelimiters ∧ c.tagDelimiter = none ∧
        c.escaper = none ∧ stream.Steady) ∧
      ∃ s ss, (ofStream c stream).1 = .ok s ∧ s.Gives ss ∧
        ss.map (List.map Token.word) = [["a", ")"], ["b"]].map (List.map String.toList) ∧
        ¬Sentence.KeepToLines stream.rest ss := by
  intro c stream
  have hst : stream.Steady := TextStream.steady_ofText _
  obtain ⟨s, hs, hg⟩ := gives_tokenizedSentences (c := c) rfl rfl rfl hst
  refine ⟨⟨rfl, rfl, rfl, rfl, by decide, rfl, rfl, hst⟩, s, _, hs, hg, by decide +kernel, ?_⟩
  intro h
  have hl : Text.lines stream.rest = ["a\n".toList] ++ ") b".toList :: [] := by decide +kernel
  have hbegins := head_of_keepToLines rfl rfl h hl (by decide +kernel) [')'] (by decide +kernel)
  exact hbegins.2 (by decide)

end Segmenter

end SentenceReader

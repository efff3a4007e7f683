import Mathlib.Data.List.Infix
import SentenceReader.Proofs.Sentence.Linewise
import SentenceReader.Proofs.Sentence.Reprinted

/-! Lines of tagged words. A newline of running text is a token with a word of its own, and a tag is
split from this word like from any other. Where the delimiter of tags does that, no line ends. -/
namespace SentenceReader

namespace Text

/-- The lines of a text that have words, or all of its lines where empty sentences are kept. -/
def sentenceLines (keepEmpty : Bool) (t : Text) : List Text :=
  (countedLines t).filter fun line => !line.all isBlank || keepEmpty

theorem not_mem_of_mem_countedLines {t line : Text} (h : line ∈ countedLines t) : '\n' ∉ line := by
  obtain ⟨long, -, rfl⟩ := List.mem_map.1 h
  intro hmem
  exact absurd (List.mem_takeWhile_imp hmem) (by decide)

end Text

namespace Tagged

/-- The delimiters of tags that split the word for newlines of running text. -/
def newlineSplitters : List Text := ["N", "L", "*N", "NL", "*NL"].map String.toList

/-- No other delimiter splits the word for newlines. -/
theorem split?_newlineMark {d : Text} (hd : d ≠ []) (hn : d ∉ newlineSplitters) :
    split? d newlineMark = none := by
  have hparts : ∀ d ∈ newlineMark.tails.flatMap List.inits, d ≠ [] → d ∉ newlineSplitters →
      split? d newlineMark = none := by
    decide
  cases hcut : cutLast? d (Text.trim newlineMark) with
  | none => rw [split?, hcut]
  | some parts =>
    -- What occurs in the word begins one of its ends, and these are few.
    have hinfix : d <:+: newlineMark := ⟨parts.1, parts.2, (eq_append_of_cutLast? hcut).symm⟩
    obtain ⟨tail, hprefix, hsuffix⟩ := List.infix_iff_prefix_suffix.1 hinfix
    have htail : tail ∈ newlineMark.tails := (List.mem_tails _ _).2 hsuffix
    exact hparts d (List.mem_flatMap.2 ⟨tail, htail, (List.mem_inits _ _).2 hprefix⟩) hd hn

theorem mark_of_word_newlineMark {d : Text} (hd : d ≠ []) (hn : d ∉ newlineSplitters) {t : Token}
    (ht : t.word = newlineMark) : mark (some d) t = t := by
  rw [mark, ht, split?_newlineMark hd hn]

/-- What is left of the word for newlines is no newline. -/
theorem word_mark_newline {d : Text} (hd : d ∈ newlineSplitters) {t : Token}
    (ht : t.word = newlineMark) : (mark (some d) t).word ∉ [newlineMark, ['\n']] := by
  have hparts : ∀ d ∈ newlineSplitters, ∃ p ∈ split? d newlineMark, p.1 ∉ [newlineMark, ['\n']] := by
    decide
  obtain ⟨p, hp, hword⟩ := hparts d hd
  rwa [mark, ht, Option.mem_def.1 hp]

end Tagged

namespace SentenceRules

def untagged (r : SentenceRules) : SentenceRules := { r with tagDelimiter := none }

theorem untagged_mark (r : SentenceRules) (ts : List Token) : ts.map r.untagged.mark = ts :=
  Tagged.map_mark_none ts

theorem keeps_comp_map_mark (r : SentenceRules) : r.keeps ∘ List.map r.mark = r.untagged.keeps := by
  funext sentence
  simp [keeps, untagged]

theorem filter_map_mark {r : SentenceRules} {ts : List Token}
    (h : ∀ t ∈ ts, r.isContent (r.mark t) = r.isContent t) :
    (ts.map r.mark).filter r.isContent = (ts.filter r.isContent).map r.mark := by
  rw [List.filter_map]
  exact congrArg (List.map r.mark) (List.filter_congr h)

section NoFollowers

variable {r : SentenceRules} {ts : List Token} (hf : r.followers.isEmpty = true)
variable (hcontent : ∀ t ∈ ts, r.isContent (r.mark t) = r.isContent t)
include hf

/-- Where no token ends a sentence, all content is one sentence. -/
theorem sentences_of_no_ends (hends : ∀ t ∈ ts, r.ends (r.mark t) = false) (hts : ts ≠ []) :
    r.sentences ts = [(ts.map r.mark).filter r.isContent].filter r.keeps := by
  have hnone : ∀ t ∈ ts.map r.mark, r.ends t = false := List.forall_mem_map.2 hends
  have hne : ts.map r.mark ≠ [] := mt List.map_eq_nil_iff.1 hts
  rw [r.sentences_of_no_followers hf, Cutting.behind_eq_singleton hnone hne, List.map_singleton]

/-- A lone sentence holds all that is in sentences. -/
theorem sentences_of_length_le_one (hts : ts ≠ []) (h : (r.sentences ts).length ≤ 1) :
    r.sentences ts = [(r.sentences ts).flatten].filter r.keeps := by
  have hgroups := r.sentences_of_no_followers hf ts
  cases hss : r.sentences ts with
  | nil =>
    have hk : r.keepEmpty = false := by
      by_contra hk
      rw [Bool.not_eq_false] at hk
      have hkeeps : r.keeps = fun _ => true := by
        funext sentence
        rw [keeps, hk, Bool.or_true]
      rw [hss, hkeeps, List.filter_true, eq_comm, List.map_eq_nil_iff, Cutting.behind_eq_nil_iff,
        List.map_eq_nil_iff] at hgroups
      exact hts hgroups
    simp [keeps, hk]
  | cons sentence later =>
    obtain rfl : later = [] := by simpa [hss] using h
    have hmem : sentence ∈ r.sentences ts := hss ▸ List.mem_singleton_self sentence
    rw [hgroups] at hmem
    rw [List.flatten_singleton, List.filter_singleton, (List.mem_filter.1 hmem).2]
    rfl

include hcontent

/-- Tags that change neither what ends sentences nor what is content leave the sentences as they
are. -/
theorem sentences_of_marks_alike (hends : ∀ t ∈ ts, r.ends (r.mark t) = r.ends t) :
    r.sentences ts = (r.untagged.sentences ts).map (List.map r.mark) := by
  have hgroups : ∀ group ∈ Cutting.behind r.ends ts,
      (group.map r.mark).filter r.isContent = (group.filter r.isContent).map r.mark := by
    intro group hg
    refine filter_map_mark fun t ht => hcontent t ?_
    rw [← Cutting.flatten_behind r.ends ts]
    exact List.mem_flatten.2 ⟨group, hg, ht⟩
  rw [r.sentences_of_no_followers hf, r.untagged.sentences_of_no_followers hf, untagged_mark,
    Cutting.behind_map hends, List.map_map, ← keeps_comp_map_mark, ← List.filter_map, List.map_map]
  exact congrArg (List.filter r.keeps) (List.map_congr_left hgroups)

/-- Where tags hide all ends of sentences, the sentences are the same only if there was no more than
one. -/
theorem sentences_eq_map_untagged_iff (hends : ∀ t ∈ ts, r.ends (r.mark t) = false)
    (hall : ∀ t ∈ ts, r.ends t = false → r.isContent t = true) :
    r.sentences ts = (r.untagged.sentences ts).map (List.map r.mark) ↔
      (r.untagged.sentences ts).length ≤ 1 := by
  by_cases hts : ts = []
  · subst hts
    exact iff_of_true rfl (Nat.zero_le 1)
  have hflat : (r.untagged.sentences ts).flatten = ts.filter r.isContent := by
    rw [flatten_sentences (by rwa [untagged_mark]), untagged_mark]
    rfl
  have hone := sentences_of_no_ends hf hends hts
  rw [filter_map_mark hcontent, ← hflat] at hone
  rw [hone]
  constructor
  · intro h
    have hlength := congrArg List.length h
    rw [List.length_map] at hlength
    rw [← hlength]
    exact List.length_filter_le _ _
  · intro h
    have hzs := sentences_of_length_le_one (r := r.untagged) hf hts h
    rw [← keeps_comp_map_mark] at hzs
    conv_rhs => rw [hzs]
    rw [← List.filter_map, List.map_singleton]

end NoFollowers

end SentenceRules

namespace Segmenter

/-- A segmenter that splits no tags from words. -/
def untagged (s : Segmenter) : Segmenter := { s with rules := s.rules.untagged }

theorem ofStream_untagged {c : Config} {stream : TextStream} {s : Segmenter}
    (hm : c.tokenizerMaker = none) (hs : (ofStream c stream).1 = .ok s) :
    (ofStream { c with tagDelimiter := none } stream).1 = .ok s.untagged := by
  have hsource := tokensOf_of_ofStream hm hs
  rw [eq_ofSource hs]
  obtain ⟨_, _, _, _, _, _, _, maker, _, _⟩ := c
  obtain rfl : maker = none := hm
  exact congrArg (Except.map (ofSource _ _)) hsource

section Newlines

variable {c : Config} {stream : TextStream} {s : Segmenter} {x : Text}
variable (hm : c.tokenizerMaker = none) (hx : c.explicitDelimiter = some x)
variable (hend : newlinesEnd c = true) (hs : (ofStream c stream).1 = .ok s)
include hm hs

/-- A token that stands for a newline has the word for newlines. -/
theorem word_of_isNewline {t : Token} (ht : t ∈ s.source.coming) (hn : t.isNewline = true) :
    t.word = s.source.newlineMark := by
  rcases tokensOf_cases (tokensOf_of_ofStream hm hs) with ⟨o, h, -⟩ | ⟨asked, h, -⟩
  · rw [h] at ht ⊢
    rcases LexedOptions.word_of_mem_tokensOf ht with ⟨hfalse, -⟩ | ⟨-, hword, -⟩
    · exact absurd (hn.symm.trans hfalse) Bool.false_ne_true.symm
    · exact hword
  · rw [h] at ht ⊢
    obtain ⟨line, -, hline⟩ := List.mem_flatMap.1 ht
    rcases SpacedSource.isRead_or_of_mem_tokensOf hline with hread | ⟨-, rfl⟩
    · rw [hread.2] at hn
      exact absurd hn Bool.false_ne_true
    · rfl

/-- Tags make no content of newlines, nor the other way round. -/
theorem isContent_mark_eq {t : Token} (ht : t ∈ s.source.coming) :
    s.rules.isContent (s.rules.mark t) = s.rules.isContent t := by
  have hcontent := isContent_mark hm hs ht
  have hplain := isContent_mark (c := { c with tagDelimiter := none }) hm (ofStream_untagged hm hs) ht
  rw [mark_of_ofStream hs, hcontent]
  exact hplain.symm

include hx hend

theorem ends_eq_isNewline {t : Token} (ht : t ∈ s.source.coming) : s.rules.ends t = t.isNewline := by
  cases hn : t.isNewline with
  | true => exact ends_of_newlineMark hx hend hs t (word_of_isNewline hm hs ht hn)
  | false =>
    have hcontent := isContent_mark_eq hm hs ht
    rw [mark_of_ofStream hs, isContent_mark hm hs ht, hn, eq_comm] at hcontent
    exact ends_eq_false_of_isContent hx hend hs hcontent

theorem ends_mark_of_not_isNewline {t : Token} (ht : t ∈ s.source.coming) (hn : t.isNewline = false) :
    s.rules.ends (s.rules.mark t) = false := by
  have hcontent := isContent_mark hm hs ht
  rw [hn, ← mark_of_ofStream hs] at hcontent
  exact ends_eq_false_of_isContent hx hend hs hcontent

/-- Tags leave the sentences as they are where none is split from the word for newlines. -/
theorem sentences_of_newline_kept
    (hkept : ∀ t : Token, t.word = s.source.newlineMark → s.rules.mark t = t) :
    s.rules.sentences s.source.coming =
      (s.rules.untagged.sentences s.source.coming).map (List.map s.rules.mark) := by
  refine SentenceRules.sentences_of_marks_alike (followers_of_explicit hs hx)
    (fun t ht => isContent_mark_eq hm hs ht) fun t ht => ?_
  cases hn : t.isNewline with
  | true => rw [hkept t (word_of_isNewline hm hs ht hn)]
  | false =>
    rw [ends_mark_of_not_isNewline hm hx hend hs ht hn, ends_eq_isNewline hm hx hend hs ht, hn]

/-- Where a tag is split from the word for newlines, and what is left ends no sentence, the sentences
are the same only if there was no more than one. -/
theorem sentences_of_newline_split
    (hsplit : ∀ t : Token, t.word = s.source.newlineMark → s.rules.ends (s.rules.mark t) = false) :
    s.rules.sentences s.source.coming =
        (s.rules.untagged.sentences s.source.coming).map (List.map s.rules.mark) ↔
      (s.rules.untagged.sentences s.source.coming).length ≤ 1 := by
  refine SentenceRules.sentences_eq_map_untagged_iff (followers_of_explicit hs hx)
    (fun t ht => isContent_mark_eq hm hs ht) (fun t ht => ?_) fun t ht hends => ?_
  · cases hn : t.isNewline with
    | true => exact hsplit t (word_of_isNewline hm hs ht hn)
    | false => exact ends_mark_of_not_isNewline hm hx hend hs ht hn
  · rw [ends_eq_isNewline hm hx hend hs ht] at hends
    rw [← isContent_mark_eq hm hs ht, mark_of_ofStream hs, isContent_mark hm hs ht, hends]
    rfl

/-- Which sentences are empty, where newlines end sentences and words have no tags. -/
theorem map_isEmpty_sentences (ht : c.tagDelimiter = none) :
    (s.rules.sentences s.source.coming).map List.isEmpty =
      (Text.sentenceLines c.keepEmptySentences stream.rest).map fun line => line.all isBlank := by
  obtain ⟨newline, tokens, htokens, hcoming, hnewline⟩ := lineTokens_of_ofStream hm hs
  have hlines := map_bare_sentences_of_newlinesEnd hm hx hend ht hs htokens hcoming (hnewline hend)
    stream
  have hself : s.withStream stream = s :=
    Except.ok.inj ((ofStream_withStream hs stream).symm.trans hs)
  have hempty : ∀ line ∈ Text.countedLines stream.rest, (tokens line).isEmpty = line.all isBlank := by
    intro line hline
    rw [Bool.eq_iff_iff, List.isEmpty_iff, List.all_eq_true]
    exact htokens.eq_nil_iff line (Text.not_mem_of_mem_countedLines hline)
  have hmap := congrArg (List.map List.isEmpty) hlines
  rw [hself, List.map_map, List.filter_map, List.map_map] at hmap
  have hbare : (List.isEmpty ∘ List.map Token.bare : List Token → Bool) = List.isEmpty :=
    funext fun _ => List.isEmpty_map
  rw [hbare] at hmap
  rw [hmap, Text.sentenceLines]
  have hfilter : (Text.countedLines stream.rest).filter (s.rules.keeps ∘ tokens) =
      (Text.countedLines stream.rest).filter fun line =>
        !line.all isBlank || c.keepEmptySentences := by
    refine List.filter_congr fun line hline => ?_
    rw [Function.comp_apply, SentenceRules.keeps, hempty line hline, keepEmpty_of_ofStream hs]
  rw [hfilter]
  exact List.map_congr_left fun line hline => hempty line (List.mem_of_mem_filter hline)

end Newlines

/-- Where newlines of running text are the explicit delimiter, splitting tags from words leaves the
sentences as they are exactly if the delimiter of tags is none of those that split the word for
newlines, or the text has no more than one line to give out. -/
theorem tagged_lines_iff {c : Config} {o : LexedOptions} {d : Text} (hi : c.issues = [])
    (hm : c.tokenizerMaker = none) (ht : c.tokenizer = .running)
    (ho : LexedOptions.read c.tokenizerOptions = .ok o) (hx : c.explicitDelimiter = some ['\n'])
    (hd : c.tagDelimiter = some d) {stream : TextStream} (hst : stream.Steady) :
    ∃ s s' ss ss', (ofStream c stream).1 = .ok s ∧
      (ofStream { c with tagDelimiter := none } stream).1 = .ok s' ∧
      s.unescaped.Gives ss ∧ s'.unescaped.Gives ss' ∧
      s.Gives (ss.map s.escape) ∧ s'.Gives (ss'.map s'.escape) ∧
      (ss = ss'.map (List.map (Tagged.mark (some d))) ↔
        d ∉ Tagged.newlineSplitters ∨
          (Text.sentenceLines c.keepEmptySentences stream.rest).length ≤ 1) := by
  have hend : newlinesEnd c = true := newlinesEnd_of_newline hx
  have hs := ofStream_running hm ht ho stream
  rw [hend, Bool.true_or] at hs
  generalize hsource : ofSource c true _ = s at hs
  have hmark : s.source.newlineMark = newlineMark := by
    rw [← hsource]
    rfl
  have hg : s.source.Gives s.source.coming := by
    rw [← hsource]
    exact TokenSource.gives_coming hst
  have hs' := ofStream_untagged hm hs
  have hrules : s.rules.mark = Tagged.mark (some d) := by rw [mark_of_ofStream hs, hd]
  refine ⟨_, _, _, _, hs, hs', gives_unescaped hs hg, gives_unescaped hs' hg, gives_sentences hs hg,
    gives_sentences hs' hg, ?_⟩
  have hlength := congrArg List.length
    (map_isEmpty_sentences (c := { c with tagDelimiter := none }) hm hx hend hs' rfl)
  rw [List.length_map, List.length_map] at hlength
  rw [← hlength, ← hrules]
  have hnonempty : d ≠ [] := by
    rintro rfl
    exact ((Config.issuesOf_eq_nil_iff _ _).1 hi).2.1 hd
  by_cases hn : d ∈ Tagged.newlineSplitters
  · rw [or_iff_right (not_not_intro hn)]
    refine sentences_of_newline_split hm hx hend hs fun t ht => ?_
    have hword := Tagged.word_mark_newline hn (ht.trans hmark)
    rw [SentenceRules.ends, delimiters_of_newlinesEnd hx hend hs, newlineMark_of_ofStream hs, hmark,
      hrules]
    simpa using hword
  · refine iff_of_true ?_ (.inl hn)
    refine sentences_of_newline_kept hm hx hend hs fun t ht => ?_
    rw [hrules]
    exact Tagged.mark_of_word_newlineMark hnonempty hn (ht.trans hmark)

/-- A blank line is an empty sentence, with tags and without. -/
theorem tagged_lines_iff_of_text :
    let c : Config :=
      { explicitDelimiter := some ['\n'], tagDelimiter := some ['_'], keepEmptySentences := true,
        escaper := some .treebank }
    let stream := TextStream.ofText "(A_X) b.\n\nc_Y_Z".toList
    (c.issues = [] ∧ c.tokenizerMaker = none ∧ c.tokenizer = .running ∧
        LexedOptions.read c.tokenizerOptions = .ok {} ∧ c.explicitDelimiter = some ['\n'] ∧
        c.tagDelimiter = some ['_'] ∧ stream.Steady) ∧
      ∃ s s' ss ss', (ofStream c stream).1 = .ok s ∧
        (ofStream { c with tagDelimiter := none } stream).1 = .ok s' ∧
        s.unescaped.Gives ss ∧ s'.unescaped.Gives ss' ∧
        s.Gives (ss.map s.escape) ∧ s'.Gives (ss'.map s'.escape) ∧
        ss = ss'.map (List.map (Tagged.mark (some ['_']))) ∧
        ss.map (List.map Token.word) =
          [["-LRB-", "A", "-RRB-", "b", "."], [], ["c_Y"]].map (List.map String.toList) := by
  intro c stream
  have ho : LexedOptions.read c.tokenizerOptions = .ok {} := rfl
  have hst : stream.Steady := TextStream.steady_ofText _
  obtain ⟨s, s', ss, ss', hs, hs', hg, hg', he, he', hiff⟩ :=
    tagged_lines_iff (c := c) (d := ['_']) rfl rfl rfl ho rfl rfl hst
  have hknown : (ofStream c stream).1 =
      .ok (ofSource c true (.lexed { stream, options := { newlines := true } })) := rfl
  obtain rfl := Except.ok.inj (hs.symm.trans hknown)
  obtain rfl := hg.unique (gives_unescaped hs (TokenSource.gives_coming hst))
  exact ⟨⟨rfl, rfl, rfl, ho, rfl, rfl, hst⟩, _, _, _, _, hs, hs', hg, hg', he, he',
    hiff.2 (.inl (by decide)), by decide +kernel⟩

/-- A delimiter of tags that splits the word for newlines makes two lines one sentence. -/
theorem lines_joined_by_tag :
    let c : Config := { explicitDelimiter := some ['\n'], tagDelimiter := some ['N'] }
    let stream := TextStream.ofText "a\nb".toList
    (c.issues = [] ∧ c.tokenizerMaker = none ∧ c.tokenizer = .running ∧
        LexedOptions.read c.tokenizerOptions = .ok {} ∧ c.explicitDelimiter = some ['\n'] ∧
        c.tagDelimiter = some ['N'] ∧ c.escaper = none ∧ stream.Steady) ∧
      ∃ s s' ss ss', (ofStream c stream).1 = .ok s ∧
        (ofStream { c with tagDelimiter := none } stream).1 = .ok s' ∧ s.Gives ss ∧ s'.Gives ss' ∧
        ss.map (List.map Token.word) = [[['a'], ['b']]] ∧
        ss'.map (List.map Token.word) = [[['a']], [['b']]] ∧
        ss.map List.length ≠ ss'.map List.length := by
  intro c stream
  have hst : stream.Steady := TextStream.steady_ofText _
  have hs : (ofStream c stream).1 =
      .ok (ofSource c true (.lexed { stream, options := { newlines := true } })) := rfl
  have hs' := ofStream_untagged rfl hs
  have hg := gives_sentences_unescaped hs rfl (TokenSource.gives_coming hst)
  have hg' := gives_sentences_unescaped hs' rfl (TokenSource.gives_coming hst)
  refine ⟨⟨rfl, rfl, rfl, rfl, rfl, rfl, rfl, hst⟩, _, _, _, _, hs, hs', hg, hg', ?_, ?_, ?_⟩ <;>
    decide +kernel

end Segmenter

end SentenceReader

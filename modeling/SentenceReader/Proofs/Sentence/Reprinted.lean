import SentenceReader.CommandLine.Run
import SentenceReader.Proofs.Sentence.Conservation
import SentenceReader.Proofs.Token.Printed

/-! Sentences that are printed and read again. Where newlines end sentences, printing puts one behind
every sentence and leaves out those within. Neither moves the end of a sentence: what stands behind a
newline that was put there is a token that may begin a sentence, and fewer newlines within a sentence
make no new ends. -/
namespace SentenceReader

namespace SentenceRules

theorem isCut_nil (delimiters followers : List Text) (t : Token) :
    isCut delimiters followers [] t = false := by
  rw [isCut]
  exact Bool.and_false _

/-- Tokens that are left out make no new cuts. -/
theorem uncut_sublist {delimiters followers : List Text} {seen seen' xs ys : List Token}
    (h : Cutting.Uncut (isCut delimiters followers) seen xs) (hs : ys.Sublist xs)
    (hc : closes delimiters followers seen' = true → closes delimiters followers seen = true) :
    Cutting.Uncut (isCut delimiters followers) seen' ys := by
  -- The flag of the run in front is generalized: it may be set behind all the tokens and not behind
  -- those that are kept, but never the other way round.
  induction hs generalizing seen seen' with
  | slnil => rfl
  | cons t _ ih =>
    obtain ⟨ht, hl⟩ := Cutting.uncut_cons.1 h
    refine ih hl fun hseen => ?_
    rw [closes_of_not_isCut ht, hc hseen, Bool.true_or]
  | cons_cons t _ ih =>
    obtain ⟨ht, hl⟩ := Cutting.uncut_cons.1 h
    have ht' : isCut delimiters followers seen' t = false := by
      cases hseen : closes delimiters followers seen' with
      | true => rwa [isCut, hseen, ← hc hseen]
      | false => rw [isCut, hseen, Bool.and_false]
    refine Cutting.uncut_cons.2 ⟨ht', ih hl fun hcl => ?_⟩
    rw [closes_of_not_isCut ht', Bool.or_eq_true] at hcl
    rw [closes_of_not_isCut ht, Bool.or_eq_true]
    exact hcl.imp_left hc

variable {r : SentenceRules} {ts : List Token} {nl : Token} {ss : List Sentence}

theorem map_mark (h : r.tagDelimiter = none) (ts : List Token) : ts.map r.mark = ts := by
  have hm : r.mark = Tagged.mark none := by
    funext t
    rw [mark, h]
  rw [hm, Tagged.map_mark_none]

theorem ends_of_isCut {seen : List Token} {t : Token}
    (h : isCut r.delimiters r.followers seen t = true) : r.ends t = false ∧ r.follows t = false := by
  simp only [isCut, Bool.and_eq_true, Bool.not_eq_true'] at h
  exact h.1

theorem closes_cons_of_not_ends {t : Token} (he : r.ends t = false) (hf : r.follows t = false)
    (seen : List Token) : closes r.delimiters r.followers (t :: seen) = false := by
  rw [closes_cons]
  simp only [ends, follows] at he hf
  rw [he, hf, Bool.false_and, Bool.or_false]

theorem closes_cons_of_ends (hn : r.ends nl = true) (seen : List Token) :
    closes r.delimiters r.followers (nl :: seen) = true := by
  rw [closes_cons]
  simp only [ends] at hn
  rw [hn, Bool.true_or]

/-- What stands in front of a token that belongs to no run makes no difference behind it. -/
theorem uncut_of_not_ends {t : Token} (he : r.ends t = false) (hf : r.follows t = false)
    {front later : List Token}
    (h : Cutting.Uncut (isCut r.delimiters r.followers) (t :: front) later) (seen : List Token) :
    Cutting.Uncut (isCut r.delimiters r.followers) (t :: seen) later := by
  refine uncut_sublist h (List.Sublist.refl later) fun hcl => ?_
  rw [closes_cons_of_not_ends he hf] at hcl
  exact absurd hcl Bool.false_ne_true

/-- A sentence that may stand behind another one: it begins with a token that neither ends a
sentence nor follows the end of one, and there is no cut in it. -/
def Opens (r : SentenceRules) (s : List Token) : Prop :=
  ∃ t later, s = t :: later ∧ r.ends t = false ∧ r.follows t = false ∧
    Cutting.Uncut (isCut r.delimiters r.followers) [t] later

theorem opens_of_mem_tail_before {group : List Token}
    (h : group ∈ (Cutting.before (isCut r.delimiters r.followers) ts).tail) : r.Opens group := by
  cases ts with
  | nil => simp [Cutting.before] at h
  | cons a ts =>
    obtain ⟨front, t, later, rfl, hc, hu⟩ := Cutting.exists_of_mem_rest h
    obtain ⟨he, hf⟩ := ends_of_isCut hc
    exact ⟨t, later, rfl, he, hf, uncut_of_not_ends he hf hu []⟩

theorem Opens.carriedContent {group : List Token} (h : r.Opens group) :
    r.Opens (r.carriedContent group) := by
  obtain ⟨t, later, rfl, he, hf, hu⟩ := h
  exact ⟨t, _, rfl, he, hf, uncut_sublist hu List.filter_sublist id⟩

/-- The first sentence is cut nowhere, and the others may stand behind it. -/
def Settled (r : SentenceRules) : List Sentence → Prop
  | [] => True
  | first :: later =>
    Cutting.Uncut (isCut r.delimiters r.followers) [] first ∧ ∀ s ∈ later, r.Opens s

theorem settled_ofGroups_before (r : SentenceRules) (ts : List Token) :
    r.Settled (r.ofGroups (Cutting.before (isCut r.delimiters r.followers) ts)) := by
  cases ts with
  | nil => trivial
  | cons a ts =>
    have hopens : ∀ group ∈ (Cutting.before (isCut r.delimiters r.followers) (a :: ts)).tail,
        r.Opens group := fun group => opens_of_mem_tail_before
    rw [Cutting.before_eq_rest (isCut_nil _ _) (by simp)] at hopens ⊢
    rw [ofGroups]
    split
    · trivial
    · refine ⟨uncut_sublist (Cutting.uncut_rest _ _ _) List.filter_sublist id, ?_⟩
      intro s hs
      obtain ⟨group, hg, rfl⟩ := List.mem_map.1 hs
      exact (hopens group hg).carriedContent

theorem uncut_append_singleton {seen : List Token} {s : Sentence} (hn : r.ends nl = true)
    (h : Cutting.Uncut (isCut r.delimiters r.followers) seen s) :
    Cutting.Uncut (isCut r.delimiters r.followers) seen (s ++ [nl]) := by
  have hcut : isCut r.delimiters r.followers (s.reverse ++ seen) nl = false := by
    simp only [ends] at hn
    rw [isCut, hn]
    rfl
  rw [Cutting.Uncut, Cutting.rest_append h]
  simp only [Cutting.rest, hcut, Bool.false_eq_true, if_false]

/-- Behind the end of a sentence the sentences that may stand there are found again. -/
theorem rest_flatMap (hn : r.ends nl = true) {seen : List Token}
    (hseen : closes r.delimiters r.followers seen = true) (h : ∀ s ∈ ss, r.Opens s) :
    Cutting.rest (isCut r.delimiters r.followers) seen (ss.flatMap (· ++ [nl])) =
      ([], ss.map (· ++ [nl])) := by
  induction ss generalizing seen with
  | nil => rfl
  | cons s ss ih =>
    obtain ⟨⟨t, later, rfl, he, hf, hu⟩, hss⟩ := List.forall_mem_cons.1 h
    have hcut : isCut r.delimiters r.followers seen t = true := by
      simp only [ends, follows] at he hf
      rw [isCut, he, hf, hseen]
      rfl
    have huncut : Cutting.Uncut (isCut r.delimiters r.followers) (t :: seen) (later ++ [nl]) :=
      uncut_append_singleton hn (uncut_of_not_ends he hf hu seen)
    have hlater := ih (closes_cons_of_ends hn (later.reverse ++ t :: seen)) hss
    rw [List.flatMap_cons, List.cons_append, List.cons_append, Cutting.rest, if_pos hcut,
      Cutting.rest_append huncut, List.reverse_append, List.reverse_singleton,
      List.singleton_append, List.cons_append, hlater]
    simp

/-- Settled sentences with the end of one behind each are cut apart again. -/
theorem before_flatMap (hn : r.ends nl = true) (h : r.Settled ss) :
    Cutting.before (isCut r.delimiters r.followers) (ss.flatMap (· ++ [nl])) =
      ss.map (· ++ [nl]) := by
  cases ss with
  | nil => rfl
  | cons s ss =>
    obtain ⟨hs, hss⟩ := h
    have hlater := rest_flatMap hn (closes_cons_of_ends hn (s.reverse ++ [])) hss
    rw [List.flatMap_cons, Cutting.before_eq_rest (isCut_nil _ _) (by simp),
      Cutting.rest_append (uncut_append_singleton hn hs), List.reverse_append,
      List.reverse_singleton, List.singleton_append, List.cons_append, hlater]
    simp

theorem opensWithContent_before (hc : ∀ t ∈ ts, r.ends t = false → r.isContent t = true) :
    r.OpensWithContent (Cutting.before (isCut r.delimiters r.followers) ts) := by
  intro group hg t ht
  obtain ⟨u, later, rfl, he, -, -⟩ := opens_of_mem_tail_before hg
  obtain rfl : u = t := Option.some.inj ht
  have hmem : u ∈ (Cutting.before (isCut r.delimiters r.followers) ts).flatten :=
    List.mem_flatten.2 ⟨_, List.mem_of_mem_tail hg, List.mem_cons_self⟩
  rw [Cutting.flatten_before] at hmem
  exact hc u hmem he

/-- Where all that ends no sentence is content, the sentences are the content of the tokens. -/
theorem flatten_sentences (hc : ∀ t ∈ ts.map r.mark, r.ends t = false → r.isContent t = true) :
    (r.sentences ts).flatten = (ts.map r.mark).filter r.isContent := by
  cases hf : r.followers.isEmpty with
  | true =>
    have hk := flatten_filter_keeps r.keepEmpty
      ((Cutting.behind r.ends (ts.map r.mark)).map (List.filter r.isContent))
    rw [r.sentences_of_no_followers hf]
    refine hk.trans ?_
    rw [← List.filter_flatten, Cutting.flatten_behind]
  | false =>
    have hg := r.filter_flatten_ofGroups
      (Cutting.before (isCut r.delimiters r.followers) (ts.map r.mark))
    have hall := (r.forall_mem_ofGroups _).2 (opensWithContent_before hc)
    rw [r.sentences_of_followers hf, ← List.filter_eq_self.2 hall, hg, Cutting.flatten_before]

section Separated

variable (hr : r.tagDelimiter = none) (hn : r.ends nl = true) (hnc : r.isContent nl = false)
include hr hn hnc

theorem sentences_flatMap_of_no_followers (hf : r.followers.isEmpty = true)
    (hk : ∀ s ∈ ss, r.keeps s = true)
    (hs : ∀ s ∈ ss, ∀ t ∈ s, r.isContent t = true ∧ r.ends t = false) :
    r.sentences (ss.flatMap (· ++ [nl])) = ss := by
  have hcontent : (ss.map (· ++ [nl])).map (List.filter r.isContent) = ss := by
    rw [List.map_map]
    refine (List.map_congr_left fun s hm => ?_).trans (List.map_id ss)
    have hself := List.filter_eq_self.2 fun t ht => (hs s hm t ht).1
    simp [hself, hnc]
  have hcut := Cutting.behind_flatMap hn fun s hm t ht => (hs s hm t ht).2
  rw [r.sentences_of_no_followers hf, map_mark hr, hcut, hcontent, List.filter_eq_self.2 hk]

theorem sentences_flatMap_of_followers (hf : r.followers.isEmpty = false) (hset : r.Settled ss)
    (hs : ∀ s ∈ ss, ∀ t ∈ s, r.isContent t = true) (hne : r.keepEmpty = false → ss ≠ [[]]) :
    r.sentences (ss.flatMap (· ++ [nl])) = ss := by
  rw [r.sentences_of_followers hf, map_mark hr, before_flatMap hn hset]
  cases ss with
  | nil => rfl
  | cons first later =>
    obtain ⟨hfirst, hlater⟩ := List.forall_mem_cons.1 hs
    have hf : (first ++ [nl]).filter r.isContent = first := by
      have hself := List.filter_eq_self.2 hfirst
      simp [hself, hnc]
    have hl : (later.map (· ++ [nl])).map r.carriedContent = later := by
      rw [List.map_map]
      refine (List.map_congr_left fun s hm => ?_).trans (List.map_id later)
      obtain ⟨t, rest, rfl, -⟩ := hset.2 s hm
      have hself := List.filter_eq_self.2 (List.forall_mem_cons.1 (hlater _ hm)).2
      simp [carriedContent, hself, hnc]
    rw [List.map_cons, ofGroups, hf, hl, if_neg]
    intro h
    simp only [Bool.and_eq_true, List.isEmpty_iff, List.map_eq_nil_iff, Bool.not_eq_true'] at h
    exact hne h.2 (by rw [h.1.1, h.1.2])

end Separated

/-- A word of tokenized text is content, also without its tag. -/
theorem isContent_mark_of_isRead (hm : r.newlineMark = newlineWord) {t : Token}
    (h : SpacedSource.IsRead t) : r.isContent (r.mark t) = true := by
  have hb : ∀ c ∈ (r.mark t).word, isBlank c = false := fun c hc =>
    h.1.isBlank_eq_false c ((Tagged.word_mark_sublist r.tagDelimiter t).subset hc)
  refine isContent_of_not_blank ?_ hb ?_
  · rw [mark, Tagged.isNewline_mark, h.2]
    rfl
  · intro hw
    have hn := hb '\n' (by simp [hw, hm, newlineWord])
    exact absurd hn (by decide)

end SentenceRules

namespace Segmenter

theorem ofStream_tokenized {c : Config} (hm : c.tokenizerMaker = none) (ht : c.tokenizer = .tokenized)
    (stream : TextStream) :
    (ofStream c stream).1 =
      .ok (ofSource c (newlinesEnd c) (.spaced { stream, newlines := newlinesEnd c })) := by
  simp [ofStream, hm, tokensOf_tokenized ht, Except.map]

/-- The tokens of tokenized text, in which newlines are tokens where they end sentences. -/
def tokenizedTokens (c : Config) (t : Text) : List Token :=
  (Text.lines t).flatMap (SpacedSource.tokensOf (newlinesEnd c))

/-- The rules for the sentences of tokenized text. -/
def tokenizedRules (c : Config) : SentenceRules := .ofConfig c (newlinesEnd c) newlineWord

def tokenizedSentences (c : Config) (t : Text) : List Sentence :=
  (tokenizedRules c).sentences (tokenizedTokens c t)

theorem gives_tokenizedSentences {c : Config} (hm : c.tokenizerMaker = none)
    (ht : c.tokenizer = .tokenized) (he : c.escaper = none) {stream : TextStream}
    (hst : stream.Steady) :
    ∃ s, (ofStream c stream).1 = .ok s ∧ s.Gives (tokenizedSentences c stream.rest) := by
  have hs := ofStream_tokenized hm ht stream
  exact ⟨_, hs, gives_sentences_unescaped hs he (TokenSource.gives_coming hst)⟩

theorem isRead_of_mem_tokenizedTokens {c : Config} {text : Text} {t : Token}
    (h : t ∈ tokenizedTokens c text) :
    SpacedSource.IsRead t ∨ newlinesEnd c = true ∧ t = SpacedSource.newline := by
  obtain ⟨line, -, hl⟩ := List.mem_flatMap.1 h
  exact SpacedSource.isRead_or_of_mem_tokensOf hl

theorem ends_newline {c : Config} (hn : newlinesEnd c = true) :
    (tokenizedRules c).ends SpacedSource.newline = true := by
  simp [tokenizedRules, SentenceRules.ofConfig, SentenceRules.ends, hn, SpacedSource.newline]

theorem followers_tokenizedRules {c : Config} (hx : c.explicitDelimiter = none) :
    (tokenizedRules c).followers = SentenceRules.closingMarks := by
  simp [tokenizedRules, SentenceRules.ofConfig, SentenceRules.followersOf, hx]

theorem isContent_newline (c : Config) :
    (tokenizedRules c).isContent SpacedSource.newline = false :=
  SentenceRules.isContent_of_isNewline rfl

theorem mark_newline (c : Config) :
    (tokenizedRules c).mark SpacedSource.newline = SpacedSource.newline :=
  Tagged.mark_of_word_newlineWord _ rfl

theorem isContent_of_not_ends {c : Config} {text : Text} :
    ∀ t ∈ (tokenizedTokens c text).map (tokenizedRules c).mark, (tokenizedRules c).ends t = false →
      (tokenizedRules c).isContent t = true := by
  intro t ht he
  obtain ⟨u, hu, rfl⟩ := List.mem_map.1 ht
  rcases isRead_of_mem_tokenizedTokens hu with hread | ⟨hn, rfl⟩
  · exact SentenceRules.isContent_mark_of_isRead rfl hread
  · rw [mark_newline, ends_newline hn] at he
    exact absurd he.symm Bool.false_ne_true

/-- The sentences of tokenized text hold what is content of its tokens. -/
theorem flatten_tokenizedSentences (c : Config) (text : Text) :
    (tokenizedSentences c text).flatten =
      ((tokenizedTokens c text).map (tokenizedRules c).mark).filter (tokenizedRules c).isContent :=
  SentenceRules.flatten_sentences isContent_of_not_ends

theorem isContent_of_mem_tokenizedSentences {c : Config} {text : Text} {s : Sentence}
    (hs : s ∈ tokenizedSentences c text) {t : Token} (ht : t ∈ s) :
    (tokenizedRules c).isContent t = true := by
  have hmem := List.mem_flatten.2 ⟨s, hs, ht⟩
  rw [flatten_tokenizedSentences] at hmem
  exact (List.mem_filter.1 hmem).2

section Printed

variable {c : Config} (htag : c.tagDelimiter = none) (text : Text)
include htag

theorem isRead_of_mem_tokenizedSentences :
    ∀ s ∈ tokenizedSentences c text, ∀ t ∈ s, SpacedSource.IsRead t := by
  intro s hs t ht
  have hmem := List.mem_flatten.2 ⟨s, hs, ht⟩
  rw [flatten_tokenizedSentences, SentenceRules.map_mark htag, List.mem_filter] at hmem
  rcases isRead_of_mem_tokenizedTokens hmem.1 with hread | ⟨-, rfl⟩
  · exact hread
  · rw [isContent_newline] at hmem
    exact absurd hmem.2 Bool.false_ne_true

/-- Where newlines are no tokens, every token is in a sentence. -/
theorem flatten_tokenizedSentences_of_no_newlines (hn : newlinesEnd c = false) :
    (tokenizedSentences c text).flatten = tokenizedTokens c text := by
  have hall : ∀ t ∈ (tokenizedTokens c text).map (tokenizedRules c).mark,
      (tokenizedRules c).isContent t = true := by
    intro t ht
    obtain ⟨u, hu, rfl⟩ := List.mem_map.1 ht
    rcases isRead_of_mem_tokenizedTokens hu with h | ⟨h, -⟩
    · exact SentenceRules.isContent_mark_of_isRead rfl h
    · exact absurd (hn.symm.trans h) Bool.false_ne_true
  rw [flatten_tokenizedSentences, List.filter_eq_self.2 hall, SentenceRules.map_mark htag]

theorem sentences_lines_of_followers (hx : c.explicitDelimiter = none)
    (hn : newlinesEnd c = true) :
    (tokenizedRules c).sentences
        ((tokenizedSentences c text).flatMap (· ++ [SpacedSource.newline])) =
      tokenizedSentences c text := by
  have hf : (tokenizedRules c).followers.isEmpty = false := by
    rw [followers_tokenizedRules hx]
    rfl
  have hs : tokenizedSentences c text = _ := SentenceRules.sentences_of_followers _ hf _
  refine SentenceRules.sentences_flatMap_of_followers htag (ends_newline hn) (isContent_newline c)
    hf ?_ (fun s hs t ht => isContent_of_mem_tokenizedSentences hs ht) ?_
  · rw [hs]
    exact SentenceRules.settled_ofGroups_before _ _
  · intro hk
    rw [hs]
    exact SentenceRules.ofGroups_ne_singleton_nil _ hk _

theorem sentences_lines_of_explicit (hm : c.tokenizerMaker = none) (ht : c.tokenizer = .tokenized)
    {d : Text} (hx : c.explicitDelimiter = some d) (hn : newlinesEnd c = true) :
    (tokenizedRules c).sentences
        ((tokenizedSentences c text).flatMap (· ++ [SpacedSource.newline])) =
      tokenizedSentences c text := by
  have hd : d = newlineWord := by
    simp only [newlinesEnd, hm, ht, SentenceRules.delimitersOf, hx] at hn
    simpa [eq_comm] using hn
  have hf : (tokenizedRules c).followers.isEmpty = true := by
    simp [tokenizedRules, SentenceRules.ofConfig, SentenceRules.followersOf, hx]
  refine SentenceRules.sentences_flatMap_of_no_followers htag (ends_newline hn)
    (isContent_newline c) hf ?_ ?_
  · intro s hs
    rw [tokenizedSentences, SentenceRules.sentences_of_no_followers _ hf] at hs
    exact (List.mem_filter.1 hs).2
  · intro s hs t hmem
    have hread := isRead_of_mem_tokenizedSentences htag text s hs t hmem
    refine ⟨isContent_of_mem_tokenizedSentences hs hmem, ?_⟩
    simp [tokenizedRules, SentenceRules.ofConfig, SentenceRules.ends, SentenceRules.delimitersOf,
      hn, hx, hd, hread.word_ne_newlineWord]

/-- The sentences of tokenized text come back from the lines that they are printed in. -/
theorem tokenizedSentences_printed (hm : c.tokenizerMaker = none) (ht : c.tokenizer = .tokenized) :
    tokenizedSentences c (Sentence.printed (tokenizedSentences c text)) =
      tokenizedSentences c text := by
  have hread := isRead_of_mem_tokenizedSentences htag text
  rw [tokenizedSentences.eq_def c (Sentence.printed _), tokenizedTokens,
    SpacedSource.tokensOf_printed _ hread]
  cases hn : newlinesEnd c with
  | false =>
    simp only [Bool.false_eq_true, if_false, List.append_nil, List.flatMap_id']
    rw [flatten_tokenizedSentences_of_no_newlines htag text hn]
    rfl
  | true =>
    simp only [if_true]
    cases hx : c.explicitDelimiter with
    | none => exact sentences_lines_of_followers htag text hx hn
    | some d => exact sentences_lines_of_explicit htag text hm ht hx hn

end Printed

end Segmenter

/-- A run that does not ask for the raw text writes the sentences as they are printed. -/
theorem CommandLine.Request.outputText_foldl_write {r : Request} (hr : r.printRawText = false)
    (t : Transcript) (ss : List Sentence) :
    (ss.foldl r.write t).outputText = t.outputText ++ Sentence.printed ss := by
  induction ss generalizing t with
  | nil => simp [Sentence.printed]
  | cons s ss ih =>
    have hline : r.lineOf s = s.wordLine := by
      rw [lineOf, hr]
      rfl
    have hw : (r.write t s).outputText = t.outputText ++ s.wordLine ++ ['\n'] := by
      rw [write, Transcript.outputText_print, hline, tellLength]
      split <;> rfl
    rw [List.foldl_cons, ih, hw]
    simp [Sentence.printed]

namespace Segmenter

/-- Tokenized text that was cut into sentences and printed, each sentence in a line of its own, is
cut into the same sentences again. -/
theorem gives_printed {c : Config} (hm : c.tokenizerMaker = none) (ht : c.tokenizer = .tokenized)
    (htag : c.tagDelimiter = none) (he : c.escaper = none) {stream : TextStream}
    (hst : stream.Steady) :
    ∃ s ss, (ofStream c stream).1 = .ok s ∧ s.Gives ss ∧
      ∀ (r : CommandLine.Request) (again : TextStream), r.printRawText = false → again.Steady →
        again.rest = (ss.foldl r.write {}).outputText →
          ∃ s', (ofStream c again).1 = .ok s' ∧ s'.Gives ss := by
  obtain ⟨s, hs, hg⟩ := gives_tokenizedSentences hm ht he hst
  refine ⟨s, _, hs, hg, fun r again hr hagain hrest => ?_⟩
  obtain ⟨s', hs', hg'⟩ := gives_tokenizedSentences hm ht he hagain
  rw [hrest, CommandLine.Request.outputText_foldl_write hr] at hg'
  refine ⟨s', hs', ?_⟩
  rwa [← tokenizedSentences_printed htag stream.rest hm ht]

/-- Newlines and full stops end sentences. There are newlines in front of the first word, within a
sentence and behind one, and none at the end. -/
theorem gives_printed_of_text :
    let c : Config := { sentenceDelimiters := [['\n'], ['.']], tokenizer := .tokenized }
    let stream := TextStream.ofText "\n\nA  . \n ) B\nC".toList
    let again := TextStream.ofText "\nA . )\nB\nC\n".toList
    let r : CommandLine.Request := {}
    (c.tokenizerMaker = none ∧ c.tokenizer = .tokenized ∧ c.tagDelimiter = none ∧
        c.escaper = none ∧ stream.Steady ∧ r.printRawText = false ∧ again.Steady) ∧
      ∃ s ss s', (ofStream c stream).1 = .ok s ∧ s.Gives ss ∧
        again.rest = (ss.foldl r.write {}).outputText ∧
        (ofStream c again).1 = .ok s' ∧ s'.Gives ss ∧
        ss.map (List.map Token.word) = [[], ["A", ".", ")"], ["B"], ["C"]].map
          (List.map String.toList) := by
  intro c stream again r
  have hst : stream.Steady := TextStream.steady_ofText _
  have hagain : again.Steady := TextStream.steady_ofText _
  obtain ⟨s, ss, hs, hg, hprinted⟩ := gives_printed (c := c) rfl rfl rfl rfl hst
  obtain ⟨s₀, hs₀, hg₀⟩ := gives_tokenizedSentences (c := c) rfl rfl rfl hst
  obtain rfl := Except.ok.inj (hs₀.symm.trans hs)
  obtain rfl := hg.unique hg₀
  have hrest : again.rest =
      ((tokenizedSentences c stream.rest).foldl r.write {}).outputText := by decide +kernel
  obtain ⟨s', hs', hg'⟩ := hprinted r again rfl hagain hrest
  exact ⟨⟨rfl, rfl, rfl, rfl, hst, rfl, hagain⟩, _, _, s', hs, hg, hrest, hs', hg', by decide +kernel⟩

end Segmenter

end SentenceReader

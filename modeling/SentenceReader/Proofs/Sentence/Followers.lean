import SentenceReader.Proofs.Sentence.Collecting

/-! Sentences that take the closing marks behind their delimiter. They are the pieces of the tokens
cut in front of every token that comes behind a run of delimiters and closing marks with a delimiter
in it and belongs to no such run itself. -/
namespace SentenceReader

namespace SentenceRules

/-- Whether the run of delimiters and followers that ends with the nearest token has a delimiter
in it. -/
def closes (delimiters followers : List Text) (seen : List Token) : Bool :=
  (seen.takeWhile fun t => delimiters.contains t.word || followers.contains t.word).any fun t =>
    delimiters.contains t.word

/-- Whether there is a cut in front of a token, behind the tokens seen so far, the nearest first. -/
def isCut (delimiters followers : List Text) (seen : List Token) (t : Token) : Bool :=
  !delimiters.contains t.word && !followers.contains t.word && closes delimiters followers seen

/-- The tokens between two cuts, as they stand in a sentence. The first of them was carried over,
whatever it is. -/
def carriedContent (r : SentenceRules) : List Token → Sentence
  | [] => []
  | t :: later => t :: later.filter r.isContent

theorem closes_cons (delimiters followers : List Text) (seen : List Token) (t : Token) :
    closes delimiters followers (t :: seen) =
      (delimiters.contains t.word ||
        (followers.contains t.word && closes delimiters followers seen)) := by
  simp only [closes, List.takeWhile_cons]
  cases hd : delimiters.contains t.word with
  | true => simp only [Bool.true_or, if_true, List.any_cons, hd]
  | false =>
    cases hf : followers.contains t.word with
    | true => simp only [Bool.false_or, if_true, List.any_cons, hd, Bool.true_and]
    | false => rfl

theorem closes_of_isCut {delimiters followers : List Text} {seen : List Token} {t : Token}
    (h : isCut delimiters followers seen t = true) :
    closes delimiters followers (t :: seen) = false := by
  simp only [isCut, Bool.and_eq_true, Bool.not_eq_true'] at h
  simp only [closes_cons, h.1.1, h.1.2, Bool.false_and, Bool.or_false]

theorem closes_of_not_isCut {delimiters followers : List Text} {seen : List Token} {t : Token}
    (h : isCut delimiters followers seen t = false) :
    closes delimiters followers (t :: seen) =
      (closes delimiters followers seen || delimiters.contains t.word) := by
  rw [closes_cons]
  simp only [isCut] at h
  cases hd : delimiters.contains t.word with
  | true => simp only [Bool.true_or, Bool.or_true]
  | false =>
    cases hf : followers.contains t.word with
    | true => simp only [Bool.true_and, Bool.false_or, Bool.or_false]
    | false =>
      simp only [hd, hf, Bool.not_false, Bool.true_and] at h
      simp only [h, Bool.and_false, Bool.or_false]

theorem filter_carriedContent (r : SentenceRules) (ts : List Token) :
    (r.carriedContent ts).filter r.isContent = ts.filter r.isContent := by
  cases ts with
  | nil => rfl
  | cons t ts => simp [carriedContent, List.filter_cons]

theorem carriedContent_ne_nil (r : SentenceRules) {ts : List Token} (h : ts ≠ []) :
    r.carriedContent ts ≠ [] := by
  cases ts with
  | nil => exact absurd rfl h
  | cons t ts => simp [carriedContent]

theorem isCut_eq (r : SentenceRules) (seen : List Token) (t : Token) :
    (closes r.delimiters r.followers seen && !r.ends t && !r.follows t) =
      isCut r.delimiters r.followers seen t := by
  simp only [isCut, ends, follows, Bool.and_assoc, Bool.and_comm, Bool.and_left_comm]

/-- The flag of a sentence that is being collected says that the run in front has a delimiter. What
is left of the sentence is what is left of its piece. -/
theorem collect_of_followers (r : SentenceRules) (hr : r.followers.isEmpty = false)
    (taken : List Token) (seen ts : List Token) :
    r.collect taken (closes r.delimiters r.followers seen) ts =
      let found := Cutting.rest (isCut r.delimiters r.followers) seen (ts.map r.mark)
      let first := taken.reverse ++ found.1.filter r.isContent
      if first.isEmpty && found.2.isEmpty && !r.keepEmpty then []
      else first :: found.2.map r.carriedContent := by
  induction ts generalizing taken seen with
  | nil => simp [collect, Cutting.rest]
  | cons t ts ih =>
    simp only [collect, List.map_cons, Cutting.rest, hr, Bool.and_false, Bool.false_eq_true,
      if_false, isCut_eq]
    cases hc : isCut r.delimiters r.followers seen (r.mark t) with
    | true =>
      have h := ih [r.mark t] (r.mark t :: seen)
      rw [closes_of_isCut hc] at h
      simp [h, carriedContent]
    | false =>
      have h := ih (if r.isContent (r.mark t) then r.mark t :: taken else taken) (r.mark t :: seen)
      rw [closes_of_not_isCut hc] at h
      simp only [Bool.false_eq_true, if_false, ends, h]
      by_cases hk : r.isContent (r.mark t) = true <;> simp [hk]

/-- The sentences of groups of tokens. A group without content gives an empty sentence if it is the
first of several, or if empty sentences are kept. -/
def ofGroups (r : SentenceRules) : List (List Token) → List Sentence
  | [] => []
  | first :: later =>
    if (first.filter r.isContent).isEmpty && later.isEmpty && !r.keepEmpty then []
    else first.filter r.isContent :: later.map r.carriedContent

/-- The sentences of some tokens are those of the pieces between the cuts. -/
theorem sentences_of_followers (r : SentenceRules) (hr : r.followers.isEmpty = false)
    (ts : List Token) :
    r.sentences ts =
      r.ofGroups (Cutting.before (isCut r.delimiters r.followers) (ts.map r.mark)) := by
  cases ts with
  | nil => rfl
  | cons t ts =>
    have h := r.collect_of_followers hr [] [] (t :: ts)
    have hc : isCut r.delimiters r.followers [] (r.mark t) = false := by
      simp [isCut, closes]
    simp only [List.map_cons, Cutting.rest, hc, Bool.false_eq_true, if_false, List.reverse_nil,
      List.nil_append] at h
    exact h

theorem map_filter_ofGroups (r : SentenceRules) (groups : List (List Token)) :
    (r.ofGroups groups).map (List.filter r.isContent) =
      if groups.map (List.filter r.isContent) = [[]] ∧ r.keepEmpty = false then []
      else groups.map (List.filter r.isContent) := by
  cases groups with
  | nil => simp [ofGroups]
  | cons first later =>
    have hl : (later.map r.carriedContent).map (List.filter r.isContent) =
        later.map (List.filter r.isContent) := by
      simp [filter_carriedContent]
    have hc : ((first.filter r.isContent).isEmpty && later.isEmpty && !r.keepEmpty) = true ↔
        (first :: later).map (List.filter r.isContent) = [[]] ∧ r.keepEmpty = false := by
      simp [and_assoc]
    by_cases h : ((first.filter r.isContent).isEmpty && later.isEmpty && !r.keepEmpty) = true
    · rw [ofGroups, if_pos h, if_pos (hc.1 h), List.map_nil]
    · rw [ofGroups, if_neg h, if_neg (mt hc.2 h), List.map_cons, hl, List.map_cons,
        List.filter_filter]
      simp

theorem filter_flatten_ofGroups (r : SentenceRules) (groups : List (List Token)) :
    (r.ofGroups groups).flatten.filter r.isContent = groups.flatten.filter r.isContent := by
  rw [List.filter_flatten, List.filter_flatten, map_filter_ofGroups]
  split
  · next h => simp [h.1]
  · rfl

theorem ne_nil_of_mem_tail_ofGroups (r : SentenceRules) {groups : List (List Token)}
    (h : ∀ group ∈ groups, group ≠ []) : ∀ sentence ∈ (r.ofGroups groups).tail, sentence ≠ [] := by
  cases groups with
  | nil => simp [ofGroups]
  | cons first later =>
    intro sentence hs
    rw [ofGroups] at hs
    split at hs
    · simp at hs
    · simp only [List.tail_cons, List.mem_map] at hs
      obtain ⟨group, hg, rfl⟩ := hs
      exact r.carriedContent_ne_nil (h group (List.mem_cons_of_mem _ hg))

/-- A lone empty sentence is only given out if empty sentences are kept. -/
theorem ofGroups_ne_singleton_nil (r : SentenceRules) (h : r.keepEmpty = false)
    (groups : List (List Token)) : r.ofGroups groups ≠ [[]] := by
  cases groups with
  | nil => simp [ofGroups]
  | cons first later =>
    rw [ofGroups]
    split
    · simp
    · next hc =>
      intro he
      simp only [List.cons.injEq, List.map_eq_nil_iff] at he
      simp [he.1, he.2, h] at hc

end SentenceRules

/-- The groups of some tokens: a group begins with every token behind the end of a sentence. -/
def Config.followedGroups (c : Config) (ts : List Token) : List (List Token) :=
  Cutting.before (SentenceRules.isCut c.sentenceDelimiters SentenceRules.closingMarks)
    (ts.map (Tagged.mark c.tagDelimiter))

theorem Config.mem_of_mem_followedGroups {c : Config} {ts group : List Token} {t : Token}
    (hg : group ∈ c.followedGroups ts) (ht : t ∈ group) :
    ∃ u ∈ ts, Tagged.mark c.tagDelimiter u = t := by
  have hmem : t ∈ (c.followedGroups ts).flatten := List.mem_flatten.2 ⟨group, hg, ht⟩
  rw [Config.followedGroups, Cutting.flatten_before] at hmem
  exact List.mem_map.1 hmem

namespace Segmenter

/-- The sentences of a segmenter without an explicit delimiter are those of the groups. -/
theorem sentences_eq_ofGroups {c : Config} {stream : TextStream} {s : Segmenter}
    (hs : (ofStream c stream).1 = .ok s) (hx : c.explicitDelimiter = none) (ts : List Token) :
    s.rules.sentences ts = s.rules.ofGroups (c.followedGroups ts) := by
  have hr := rules_of_ofStream hs
  have hf : s.rules.followers = SentenceRules.closingMarks := by
    simp [hr, SentenceRules.ofConfig, SentenceRules.followersOf, hx]
  have hd : ∀ w, s.rules.delimiters.contains w = c.sentenceDelimiters.contains w := by
    intro w
    rw [hr]
    by_cases hn : newlinesEnd c = true
    · have hm := newlineMark_mem_delimiters hs hx hn
      by_cases hw : w = s.source.newlineMark <;>
        simp [SentenceRules.ofConfig, SentenceRules.delimitersOf, hx, hn, hw, hm]
    · simp [SentenceRules.ofConfig, SentenceRules.delimitersOf, hx, hn]
  have hc : SentenceRules.isCut s.rules.delimiters s.rules.followers =
      SentenceRules.isCut c.sentenceDelimiters SentenceRules.closingMarks := by
    funext seen t
    simp only [SentenceRules.isCut, SentenceRules.closes, hd, hf]
  rw [s.rules.sentences_of_followers (by rw [hf]; rfl), hc, mark_of_ofStream hs]
  rfl

/-- Without an explicit delimiter the sentences of a segmenter are, one by one, the groups of its
tokens, as far as their content goes. Only a single group without content may give none. No sentence
but the first can be empty, and the first only if there are more or if empty ones are kept. -/
theorem gives_followedGroups {c : Config} {stream : TextStream} {s : Segmenter} {ts : List Token}
    (hs : (ofStream c stream).1 = .ok s) (hx : c.explicitDelimiter = none)
    (he : c.escaper = none) (ht : s.source.Gives ts) :
    ∃ ss, s.Gives ss ∧
      ss.map (List.filter s.rules.isContent) =
        (if (c.followedGroups ts).map (List.filter s.rules.isContent) = [[]] ∧
            c.keepEmptySentences = false then []
          else (c.followedGroups ts).map (List.filter s.rules.isContent)) ∧
      ss.flatten.filter s.rules.isContent =
        (ts.map (Tagged.mark c.tagDelimiter)).filter s.rules.isContent ∧
      (∀ sentence ∈ ss.tail, sentence ≠ []) ∧
      (c.keepEmptySentences = false → ss ≠ [[]]) := by
  have hk := keepEmpty_of_ofStream hs
  have hg := gives_sentences_unescaped hs he ht
  rw [sentences_eq_ofGroups hs hx] at hg
  refine ⟨_, hg, ?_, ?_, ?_, ?_⟩
  · rw [s.rules.map_filter_ofGroups, hk]
  · rw [s.rules.filter_flatten_ofGroups, Config.followedGroups, Cutting.flatten_before]
  · exact s.rules.ne_nil_of_mem_tail_ofGroups fun group => Cutting.ne_nil_of_mem_before
  · intro hke
    exact s.rules.ofGroups_ne_singleton_nil (hk.trans hke) _

/-- A follower in front of all delimiters begins no group, and a newline behind a delimiter does,
though it is no content. -/
theorem gives_followedGroups_of_given :
    let ts : List Token := [")", "A", ".", ")", "*", "B"].map fun w => { word := w.toList }
    let c : Config := { tokenizerMaker := some (.given ts ['*']) }
    let s := ofSource c false (.given ts ['*'] (.ofText []))
    (ofStream c (.ofText [])).1 = .ok s ∧ c.explicitDelimiter = none ∧ c.escaper = none ∧
      s.source.Gives ts ∧
      ∃ ss, s.Gives ss ∧ (ss.map (List.filter s.rules.isContent)).map (List.map Token.word) =
        [[[')'], ['A'], ['.'], [')']], [['B']]] := by
  intro ts c s
  have ht : s.source.Gives ts := TokenSource.gives_coming (TextStream.steady_ofText [])
  have hs : (ofStream c (.ofText [])).1 = .ok s := rfl
  obtain ⟨ss, hg, hss, -⟩ := gives_followedGroups hs rfl rfl ht
  refine ⟨hs, rfl, rfl, ht, ss, hg, ?_⟩
  rw [hss]
  decide

end Segmenter

end SentenceReader

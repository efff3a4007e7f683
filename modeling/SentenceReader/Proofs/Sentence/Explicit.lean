import SentenceReader.Proofs.Sentence.Collecting

/-! Sentences that end right behind their delimiter, which is given explicitly. They are the pieces
of the tokens cut behind every delimiter, and no token is ever carried over. -/
namespace SentenceReader

namespace SentenceRules

/-- Whether a sentence is given out: it is empty only where empty sentences are kept. -/
def keeps (r : SentenceRules) (sentence : Sentence) : Bool := !sentence.isEmpty || r.keepEmpty

/-- Without followers what is left of a sentence is the first piece, and sentences that would be
empty go into the next one. -/
theorem collect_of_no_followers (r : SentenceRules) (hr : r.followers.isEmpty = true)
    (taken ts : List Token) :
    r.collect taken false ts =
      (Cutting.glue taken.reverse
        ((Cutting.behind r.ends (ts.map r.mark)).map (List.filter r.isContent))).filter r.keeps := by
  induction ts generalizing taken with
  | nil =>
    by_cases h : (taken.isEmpty && !r.keepEmpty) = true
    · have hk : r.keeps taken.reverse = false := by simp_all [keeps]
      simp [collect, h, Cutting.behind, Cutting.glue, hk]
    · have hk : r.keeps taken.reverse = true := by
        cases hke : r.keepEmpty <;> simp_all [keeps]
      simp [collect, h, Cutting.behind, Cutting.glue, hk]
  | cons t ts ih =>
    have hrev : (if r.isContent (r.mark t) then r.mark t :: taken else taken).reverse =
        taken.reverse ++ [r.mark t].filter r.isContent := by
      by_cases hc : r.isContent (r.mark t) = true <;> simp [hc]
    simp only [collect, Bool.false_and, Bool.false_eq_true, if_false, Bool.false_or, hr,
      Bool.and_true, List.map_cons, Cutting.behind]
    generalize (if r.isContent (r.mark t) then r.mark t :: taken else taken) = taken' at hrev ⊢
    cases he : r.ends (r.mark t) with
    | false =>
      simp only [Bool.false_eq_true, if_false, ih, hrev]
      rw [Cutting.map_filter_glue, Cutting.glue_glue]
    | true =>
      have hlater : (if ts.isEmpty then [] else r.collect [] false ts) =
          ((Cutting.behind r.ends (ts.map r.mark)).map (List.filter r.isContent)).filter
            r.keeps := by
        cases ts with
        | nil => rfl
        | cons u ts =>
          rw [List.isEmpty_cons, if_neg (by simp), ih, List.reverse_nil,
            Cutting.glue_nil (by simp)]
      simp only [if_true]
      by_cases hk : (!taken'.isEmpty || r.keepEmpty) = true
      · have hkeeps : r.keeps taken'.reverse = true := by simpa [keeps] using hk
        rw [if_pos hk, hlater, List.map_cons, Cutting.glue, ← hrev, List.filter_cons, hkeeps,
          if_pos rfl]
      · have hkeeps : r.keeps taken'.reverse = false := by simpa [keeps] using hk
        obtain ⟨ht, hke⟩ : taken' = [] ∧ r.keepEmpty = false := by simpa using hk
        subst ht
        -- An empty sentence is not ended here, so the next one begins as if it were the first.
        have hreset : r.collect [] false ts = if ts.isEmpty then [] else r.collect [] false ts := by
          cases ts with
          | nil => simp [collect, hke]
          | cons u ts => rfl
        rw [if_neg hk, hreset, hlater, List.map_cons, Cutting.glue, ← hrev, List.filter_cons,
          hkeeps, if_neg (by simp)]

/-- The sentences of some tokens are the pieces behind the delimiters, as far as their content
goes. -/
theorem sentences_of_no_followers (r : SentenceRules) (hr : r.followers.isEmpty = true)
    (ts : List Token) :
    r.sentences ts =
      ((Cutting.behind r.ends (ts.map r.mark)).map (List.filter r.isContent)).filter r.keeps := by
  cases ts with
  | nil => rfl
  | cons t ts =>
    have h := r.collect_of_no_followers hr [] (t :: ts)
    rwa [List.reverse_nil, Cutting.glue_nil (by simp)] at h

/-- Without followers a sentence ends with its delimiter or with the tokens, so no token is read
that is not its own. -/
theorem gather_carries_nothing {r : SentenceRules} (hr : r.followers.isEmpty = true)
    {source source' : TokenSource} {taken : List Token} {sentence : Sentence}
    {carried : Option Token}
    (h : r.gather source taken false = (.ok (sentence, carried), source')) : carried = none := by
  generalize hended : false = ended at h
  fun_induction gather r source taken ended with
  | case1 source taken ended fault next hn => simp at h
  | case2 source taken ended next hn => simp_all
  | case3 source taken ended t next hn t' hc => simp [← hended] at hc
  | case4 source taken ended t next hn t' hc taken' ended' he hk => simp_all
  | case5 source taken ended t next hn t' hc taken' ended' he hk ih => exact ih rfl h
  | case6 source taken ended t next hn t' hc taken' ended' he ih =>
    rw [hr, Bool.and_true, Bool.not_eq_true] at he
    exact ih he.symm h

end SentenceRules

/-- The groups of some tokens with a given delimiter: a group ends with every token that is the
delimiter or, where newlines end sentences, stands for a newline. -/
def Config.delimitedGroups (c : Config) (delimiter newlineMark : Text) (ts : List Token) :
    List (List Token) :=
  Cutting.behind
    (fun t => t.word == delimiter || (Segmenter.newlinesEnd c && t.word == newlineMark))
    (ts.map (Tagged.mark c.tagDelimiter))

namespace Segmenter

/-- The states of a segmenter that is asked whether there are more sentences and for the next one,
in any order, while its stream may be closed or changed. -/
inductive Reaches (s : Segmenter) : Segmenter → Prop
  | start : Reaches s s
  | hasNext {u : Segmenter} : Reaches s u → Reaches s u.hasNext.state
  | next {u : Segmenter} : Reaches s u → Reaches s u.next.state
  | mapStream {u : Segmenter} (f : TextStream → TextStream) : Reaches s u → Reaches s (u.mapStream f)

/-- Nothing follows the delimiters, and no token is carried over. -/
structure Carryless (s : Segmenter) : Prop where
  followers : s.rules.followers.isEmpty = true
  carried : s.carried = none

theorem Carryless.build {s : Segmenter} (h : s.Carryless) : s.build.2.Carryless := by
  simp only [Segmenter.build, h.carried, Option.isSome_none, Bool.false_eq_true, if_false,
    Option.toList_none]
  split
  · exact ⟨h.followers, rfl⟩
  · exact ⟨h.followers, rfl⟩
  · split
    · exact ⟨h.followers, rfl⟩
    · next hg => exact ⟨h.followers, SentenceRules.gather_carries_nothing h.followers hg⟩

theorem Carryless.fill {s : Segmenter} (h : s.Carryless) : s.fill.state.Carryless := by
  unfold Segmenter.fill
  split
  · exact h
  · have hb := h.build
    split
    · next hs =>
      rw [hs] at hb
      split
      · exact ⟨hb.followers, hb.carried⟩
      · exact hb
    · next hs =>
      rw [hs] at hb
      exact ⟨hb.followers, hb.carried⟩
    · next hs =>
      rw [hs] at hb
      exact ⟨hb.followers, hb.carried⟩

theorem Carryless.andThen {α : Type} {s : Segmenter} (h : s.Carryless)
    {f : Unit → Segmenter → Reply Segmenter α} (hf : ∀ u, u.Carryless → (f () u).state.Carryless) :
    (s.fill.andThen f).state.Carryless := by
  unfold Reply.andThen
  split
  · exact h.fill
  · exact hf _ h.fill

theorem Carryless.reaches {s u : Segmenter} (h : s.Carryless) (hu : s.Reaches u) : u.Carryless := by
  induction hu with
  | start => exact h
  | hasNext _ ih => exact ih.andThen fun _ hv => hv
  | next _ ih =>
    refine ih.andThen fun v hv => ?_
    split
    · exact hv
    · exact ⟨hv.followers, hv.carried⟩
  | mapStream f _ ih => exact ⟨ih.followers, ih.carried⟩

theorem followers_of_explicit {c : Config} {stream : TextStream} {s : Segmenter} {d : Text}
    (hs : (ofStream c stream).1 = .ok s) (hx : c.explicitDelimiter = some d) :
    s.rules.followers.isEmpty = true := by
  simp [rules_of_ofStream hs, SentenceRules.ofConfig, SentenceRules.followersOf, hx]

/-- The sentences of a segmenter with an explicit delimiter are the content of the groups. -/
theorem sentences_eq_delimitedGroups {c : Config} {stream : TextStream} {s : Segmenter} {d : Text}
    (hs : (ofStream c stream).1 = .ok s) (hx : c.explicitDelimiter = some d) (ts : List Token) :
    s.rules.sentences ts =
      ((c.delimitedGroups d s.source.newlineMark ts).map (List.filter s.rules.isContent)).filter
        fun sentence => !sentence.isEmpty || c.keepEmptySentences := by
  have hends : s.rules.ends = fun t =>
      t.word == d || (newlinesEnd c && t.word == s.source.newlineMark) := by
    funext t
    rw [rules_of_ofStream hs]
    cases hn : newlinesEnd c with
    | true =>
      simp only [SentenceRules.ofConfig, SentenceRules.ends, SentenceRules.delimitersOf, hx,
        if_true, List.contains_cons, List.contains_nil, Bool.or_false, Bool.true_and]
      exact Bool.or_comm _ _
    | false =>
      simp only [SentenceRules.ofConfig, SentenceRules.ends, SentenceRules.delimitersOf, hx,
        Bool.false_eq_true, if_false, List.contains_cons, List.contains_nil, Bool.or_false,
        Bool.false_and]
  have hkeeps : s.rules.keeps = fun sentence => !sentence.isEmpty || c.keepEmptySentences := by
    funext sentence
    rw [SentenceRules.keeps, keepEmpty_of_ofStream hs]
  rw [s.rules.sentences_of_no_followers (followers_of_explicit hs hx), hends, mark_of_ofStream hs,
    hkeeps]
  rfl

/-- With a delimiter that is given explicitly the sentences of a segmenter are the content of the
groups of its tokens; those without content are kept as empty sentences or left out. No token is
ever carried over. -/
theorem gives_delimitedGroups {c : Config} {stream : TextStream} {s : Segmenter} {ts : List Token}
    {d : Text} (hs : (ofStream c stream).1 = .ok s) (hx : c.explicitDelimiter = some d)
    (he : c.escaper = none) (ht : s.source.Gives ts) :
    s.Gives (((c.delimitedGroups d s.source.newlineMark ts).map
      (List.filter s.rules.isContent)).filter fun sentence =>
        !sentence.isEmpty || c.keepEmptySentences) ∧
      ∀ u, s.Reaches u → u.carried = none := by
  have hg := gives_sentences_unescaped hs he ht
  rw [sentences_eq_delimitedGroups hs hx] at hg
  have hc : s.Carryless := ⟨followers_of_explicit hs hx, by rw [eq_ofSource hs]; rfl⟩
  exact ⟨hg, fun u hu => (hc.reaches hu).carried⟩

/-- A lone delimiter that is white space ends an empty sentence where these are kept, and what is
left behind the last delimiter is a sentence as well. -/
theorem gives_delimitedGroups_of_given :
    let ts : List Token := ["\n", "A", "*", "B", "\n", " "].map fun w => { word := w.toList }
    let c : Config :=
      { tokenizerMaker := some (.given ts ['*']), explicitDelimiter := some ['\n'],
        keepEmptySentences := true }
    let s := ofSource c true (.given ts ['*'] (.ofText []))
    (ofStream c (.ofText [])).1 = .ok s ∧ c.explicitDelimiter = some ['\n'] ∧ c.escaper = none ∧
      s.source.Gives ts ∧
      (∀ u, s.Reaches u → u.carried = none) ∧
      ∃ ss, s.Gives ss ∧ ss.map (List.map Token.word) = [[], [['A']], [['B']], []] := by
  intro ts c s
  have ht : s.source.Gives ts := TokenSource.gives_coming (TextStream.steady_ofText [])
  have hs : (ofStream c (.ofText [])).1 = .ok s := rfl
  have hx : c.explicitDelimiter = some ['\n'] := rfl
  obtain ⟨hg, hc⟩ := gives_delimitedGroups hs hx rfl ht
  exact ⟨hs, hx, rfl, ht, hc, _, hg, by decide⟩

end Segmenter

end SentenceReader

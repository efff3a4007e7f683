import SentenceReader.Proofs.Sentence.Content
import SentenceReader.Proofs.Sentence.Sequences
import SentenceReader.Proofs.Token.LineEnd

/-! Sentences of a text that grows. What is put behind the end of a line adds its own tokens, changes
none that stood there, and can only extend the last sentence. -/
namespace SentenceReader

/-- Sentences go on as some others: none of them changes, but the last one may be extended, and more
may follow. -/
inductive Sentence.Grows : List Sentence → List Sentence → Prop
  | nil (later : List Sentence) : Grows [] later
  | last (s more : Sentence) (later : List Sentence) : Grows [s] ((s ++ more) :: later)
  | cons (s : Sentence) {ss later : List Sentence} : Grows ss later → Grows (s :: ss) (s :: later)

/-- All sentences but the last one stay as they are. -/
theorem Sentence.Grows.dropLast_prefix {ss later : List Sentence} (h : Grows ss later) :
    ss.dropLast <+: later := by
  induction h with
  | nil later => exact List.nil_prefix
  | last s more later => exact List.nil_prefix
  | @cons s ss later _ ih =>
    cases ss with
    | nil => exact List.nil_prefix
    | cons s' ss =>
      rw [List.dropLast_cons_cons]
      exact (List.prefix_cons_inj s).2 ih

namespace SentenceRules

@[simp] theorem mark_bare (r : SentenceRules) (t : Token) : r.mark t.bare = (r.mark t).bare := by
  cases hd : r.tagDelimiter with
  | none => simp [mark, hd, Tagged.mark]
  | some d =>
    simp only [mark, hd, Tagged.mark, Token.bare]
    split <;> rfl

@[simp] theorem ends_bare (r : SentenceRules) (t : Token) : r.ends t.bare = r.ends t := rfl

@[simp] theorem follows_bare (r : SentenceRules) (t : Token) : r.follows t.bare = r.follows t := rfl

@[simp] theorem isContent_bare (r : SentenceRules) (t : Token) :
    r.isContent t.bare = r.isContent t := rfl

/-- Where sentences end, and which tokens they hold, rests on the words and tags alone. -/
theorem collect_map_bare (r : SentenceRules) (taken : List Token) (ended : Bool) (ts : List Token) :
    r.collect (taken.map Token.bare) ended (ts.map Token.bare) =
      (r.collect taken ended ts).map (List.map Token.bare) := by
  induction ts generalizing taken ended with
  | nil =>
    simp only [collect, List.map_nil, List.isEmpty_map]
    split
    · rfl
    · simp
  | cons t ts ih =>
    have htaken : (if r.isContent (r.mark t) then (r.mark t).bare :: taken.map Token.bare
        else taken.map Token.bare) =
        (if r.isContent (r.mark t) then r.mark t :: taken else taken).map Token.bare := by
      split <;> rfl
    simp only [List.map_cons, collect, mark_bare, ends_bare, follows_bare, isContent_bare, htaken,
      List.isEmpty_map]
    generalize (if r.isContent (r.mark t) then r.mark t :: taken else taken) = taken'
    have hnext := ih [] false
    have hcut := ih [r.mark t] false
    simp only [List.map_nil, List.map_cons] at hnext hcut
    split
    · rw [hcut, List.map_cons, List.map_reverse]
    · split
      · split
        · rw [List.map_cons, List.map_reverse]
          split
          · rfl
          · rw [hnext]
        · exact ih taken' false
      · exact ih taken' _

theorem sentences_map_bare (r : SentenceRules) (ts : List Token) :
    r.sentences (ts.map Token.bare) = (r.sentences ts).map (List.map Token.bare) := by
  have h := r.collect_map_bare [] false ts
  simp only [sentences, resume, List.isEmpty_map]
  split
  · rfl
  · exact h

/-- Where a sentence is begun that would be given out, it is given out with more behind it. -/
theorem collect_extends (r : SentenceRules) {taken : List Token}
    (hk : (taken.isEmpty && !r.keepEmpty) = false) (ended : Bool) (ts : List Token) :
    ∃ more later, r.collect taken ended ts = (taken.reverse ++ more) :: later := by
  induction ts generalizing taken ended with
  | nil => exact ⟨[], [], by simp [collect, hk]⟩
  | cons t ts ih =>
    obtain ⟨own, hown⟩ : ∃ own, (if r.isContent (r.mark t) then r.mark t :: taken else taken).reverse =
        taken.reverse ++ own := by
      split
      · exact ⟨[r.mark t], List.reverse_cons⟩
      · exact ⟨[], (List.append_nil _).symm⟩
    have hk' : ((if r.isContent (r.mark t) then r.mark t :: taken else taken).isEmpty &&
        !r.keepEmpty) = false := by
      split
      · rfl
      · exact hk
    simp only [collect]
    generalize (if r.isContent (r.mark t) then r.mark t :: taken else taken) = taken' at hown hk' ⊢
    split
    · exact ⟨[], _, by rw [List.append_nil]⟩
    · split
      · have hgiven : (!taken'.isEmpty || r.keepEmpty) = true := by
          rw [← Bool.not_eq_false', ← hk']
          cases taken'.isEmpty <;> cases r.keepEmpty <;> rfl
        rw [if_pos hgiven, hown]
        exact ⟨own, _, rfl⟩
      · obtain ⟨more, later, h⟩ := ih hk' (ended || r.ends (r.mark t))
        exact ⟨own ++ more, later, by rw [h, hown, List.append_assoc]⟩

/-- More tokens let the sentences go on: only the one in progress when they come may be extended. -/
theorem collect_grows (r : SentenceRules) (taken : List Token) (ended : Bool) (xs ys : List Token) :
    Sentence.Grows (r.collect taken ended xs) (r.collect taken ended (xs ++ ys)) := by
  induction xs generalizing taken ended with
  | nil =>
    rw [List.nil_append]
    cases hk : taken.isEmpty && !r.keepEmpty with
    | true =>
      rw [collect, hk, if_pos rfl]
      exact .nil _
    | false =>
      obtain ⟨more, later, h⟩ := r.collect_extends hk ended ys
      rw [h, collect, hk, if_neg Bool.false_ne_true]
      exact .last _ _ _
  | cons x xs ih =>
    rw [List.cons_append]
    simp only [collect]
    generalize (if r.isContent (r.mark x) then r.mark x :: taken else taken) = taken'
    split
    · exact .cons _ (ih _ _)
    · split
      · split
        · apply Sentence.Grows.cons
          cases xs with
          | nil => exact .nil _
          | cons x' xs => exact ih [] false
        · exact ih _ _
      · exact ih _ _

theorem sentences_grows (r : SentenceRules) (xs ys : List Token) :
    Sentence.Grows (r.sentences xs) (r.sentences (xs ++ ys)) := by
  cases xs with
  | nil => exact .nil _
  | cons x xs => exact r.collect_grows [] false (x :: xs) ys

end SentenceRules

/-- Under some settings a stream has these tokens, and these sentences. -/
def Config.Reads (c : Config) (stream : TextStream) (ts : List Token) (ss : List Sentence) : Prop :=
  ∃ s, (Segmenter.ofStream c stream).1 = .ok s ∧ s.source.Gives ts ∧ s.Gives ss

theorem Config.Reads.unique {c : Config} {stream : TextStream} {xs ys : List Token}
    {ss tt : List Sentence} (hx : c.Reads stream xs ss) (hy : c.Reads stream ys tt) :
    xs = ys ∧ ss = tt := by
  obtain ⟨s, hs, hxs, hss⟩ := hx
  obtain ⟨s', hs', hys, htt⟩ := hy
  obtain rfl := Except.ok.inj (hs.symm.trans hs')
  exact ⟨hxs.unique hys, hss.unique htt⟩

namespace Segmenter

/-- Under the same settings all streams have their tokens made line by line, in the same way. Where
newlines end sentences, each of them is a token. -/
theorem lineTokens_of_ofStream {c : Config} {stream : TextStream} {s : Segmenter}
    (hm : c.tokenizerMaker = none) (hs : (ofStream c stream).1 = .ok s) :
    ∃ newline tokens, LineTokens newline tokens ∧
      (∀ x, (s.withStream x).source.coming.map Token.bare = tokens x.rest) ∧
      (newlinesEnd c = true → newline = [{ word := s.source.newlineMark, isNewline := true }]) := by
  have hsource : ∀ x, (s.withStream x).source = s.source.mapStream fun _ => x := fun _ => rfl
  rcases tokensOf_cases (tokensOf_of_ofStream hm hs) with ⟨o, h, hn⟩ | ⟨newlines, h, hn⟩
  · refine ⟨_, _, o.lineTokens, ?_, ?_⟩
    · intro x
      rw [hsource, h]
      rfl
    · intro hends
      rw [if_pos (hn hends), h]
      rfl
  · refine ⟨_, _, SpacedSource.lineTokens newlines, ?_, ?_⟩
    · intro x
      rw [hsource, h]
      rfl
    · intro hends
      rw [if_pos (hn hends), h]
      rfl

/-- The tokens and the sentences of a steady stream, by a segmenter of the same settings. -/
theorem reads_withStream {c : Config} {stream x : TextStream} {s : Segmenter}
    (hs : (ofStream c stream).1 = .ok s) (he : c.escaper = none) (hx : x.Steady) :
    c.Reads x (s.withStream x).source.coming
      (s.rules.sentences (s.withStream x).source.coming) := by
  have hsx := ofStream_withStream hs x
  have hstream : (s.withStream x).source.stream = x := (stream_of_ofStream hsx).1
  have hg := TokenSource.gives_coming (s := (s.withStream x).source) (by rwa [hstream])
  exact ⟨_, hsx, hg, gives_sentences_unescaped hsx he hg⟩

/-- What is put behind the end of a line adds its own tokens behind those that stood there. All
sentences that stood there stay, but for the last one, which may be extended. -/
theorem reads_append {c : Config} (hm : c.tokenizerMaker = none) (ho : c.OptionsAccepted)
    (he : c.escaper = none) {x y z : TextStream} (hx : x.Steady) (hy : y.Steady) (hz : z.Steady)
    (hline : x.rest.EndsLine) (hrest : z.rest = x.rest ++ y.rest) :
    ∃ xs ys zs ss ss' later, c.Reads x xs ss ∧ c.Reads y ys ss' ∧ c.Reads z zs later ∧
      zs.map Token.bare = xs.map Token.bare ++ ys.map Token.bare ∧
      (ss.map (List.map Token.bare)).dropLast <+: later.map (List.map Token.bare) ∧
      Sentence.Grows (ss.map (List.map Token.bare)) (later.map (List.map Token.bare)) := by
  obtain ⟨s, hs, -⟩ := ofStream_accepted hm ho x
  obtain ⟨newline, tokens, htokens, hcoming, -⟩ := lineTokens_of_ofStream hm hs
  have happend : (s.withStream z).source.coming.map Token.bare =
      (s.withStream x).source.coming.map Token.bare ++
        (s.withStream y).source.coming.map Token.bare := by
    rw [hcoming, hcoming, hcoming, hrest, htokens.append _ _ hline]
  have hgrows : Sentence.Grows
      ((s.rules.sentences (s.withStream x).source.coming).map (List.map Token.bare))
      ((s.rules.sentences (s.withStream z).source.coming).map (List.map Token.bare)) := by
    rw [← SentenceRules.sentences_map_bare, ← SentenceRules.sentences_map_bare, happend]
    exact s.rules.sentences_grows _ _
  exact ⟨_, _, _, _, _, _, reads_withStream hs he hx, reads_withStream hs he hy,
    reads_withStream hs he hz, happend, hgrows.dropLast_prefix, hgrows⟩

/-- A bracket in the second line belongs to the sentence that the first line ended. -/
theorem reads_append_of_text :
    let c : Config := { tagDelimiter := some ['_'] }
    let x := TextStream.ofText "Dr. A_NN.\nGo.\n".toList
    let y := TextStream.ofText ") B".toList
    let z := TextStream.ofText "Dr. A_NN.\nGo.\n) B".toList
    (c.tokenizerMaker = none ∧ c.OptionsAccepted ∧ c.escaper = none ∧ x.Steady ∧ y.Steady ∧
        z.Steady ∧ x.rest.EndsLine ∧ z.rest = x.rest ++ y.rest) ∧
      ∃ xs zs ss later, c.Reads x xs ss ∧ c.Reads z zs later ∧
        Sentence.Grows (ss.map (List.map Token.bare)) (later.map (List.map Token.bare)) ∧
        ss.map (List.map Token.word) = [["Dr.", "A", "."], ["Go", "."]].map
          (List.map String.toList) ∧
        later.map (List.map Token.word) = [["Dr.", "A", "."], ["Go", ".", "-RRB-"], ["B"]].map
          (List.map String.toList) := by
  intro c x y z
  have ho : c.OptionsAccepted := ⟨_, rfl⟩
  have hx : x.Steady := TextStream.steady_ofText _
  have hy : y.Steady := TextStream.steady_ofText _
  have hz : z.Steady := TextStream.steady_ofText _
  have hline : x.rest.EndsLine := .inr rfl
  obtain ⟨xs, -, zs, ss, -, later, hxs, -, hzs, -, -, hgrows⟩ :=
    reads_append (c := c) rfl ho rfl hx hy hz hline rfl
  refine ⟨⟨rfl, ho, rfl, hx, hy, hz, hline, rfl⟩, xs, zs, ss, later, hxs, hzs, hgrows, ?_, ?_⟩
  · have hs : (ofStream c x).1 = .ok (ofSource c false (.lexed { stream := x, options := {} })) := rfl
    obtain ⟨-, rfl⟩ := hxs.unique (reads_withStream hs rfl hx)
    decide +kernel
  · have hs : (ofStream c z).1 = .ok (ofSource c false (.lexed { stream := z, options := {} })) := rfl
    obtain ⟨-, rfl⟩ := hzs.unique (reads_withStream hs rfl hz)
    decide +kernel

end Segmenter

end SentenceReader

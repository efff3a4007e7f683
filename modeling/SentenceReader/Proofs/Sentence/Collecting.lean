import SentenceReader.Proofs.Token.Coming
import SentenceReader.Sentence.Segmenter

/-! The sentences of a list of tokens. A segmenter over a source gives out exactly the sentences of
the tokens that the source gives, however it looks ahead and whatever it carries over. -/
namespace SentenceReader

namespace SentenceRules

/-- The sentences of some tokens, of which the first one was begun: some of its tokens were taken,
in reverse order, and `ended` says that its delimiter was met. -/
def collect (r : SentenceRules) (taken : List Token) (ended : Bool) : List Token → List Sentence
  | [] => if taken.isEmpty && !r.keepEmpty then [] else [taken.reverse]
  | t :: later =>
    let t := r.mark t
    if ended && !r.ends t && !r.follows t then taken.reverse :: collect r [t] false later
    else
      let taken := if r.isContent t then t :: taken else taken
      let ended := ended || r.ends t
      if ended && r.followers.isEmpty then
        if !taken.isEmpty || r.keepEmpty then
          taken.reverse :: if later.isEmpty then [] else collect r [] false later
        else collect r taken false later
      else collect r taken ended later

/-- The sentences of some tokens behind one that was carried over. -/
def resume (r : SentenceRules) (carried : Option Token) (ts : List Token) : List Sentence :=
  if carried.isNone && ts.isEmpty then [] else r.collect carried.toList false ts

def sentences (r : SentenceRules) (ts : List Token) : List Sentence := r.resume none ts

theorem gather_of_none {r : SentenceRules} {source source' : TokenSource} (taken : List Token)
    (ended : Bool) (h : source.next? = (.ok none, source')) :
    r.gather source taken ended = (.ok (taken.reverse, none), source') := by
  rw [gather]
  split
  · simp_all
  · simp_all
  · simp_all

theorem gather_of_some {r : SentenceRules} {source source' : TokenSource} {t : Token}
    (taken : List Token) (ended : Bool) (h : source.next? = (.ok (some t), source')) :
    r.gather source taken ended =
      if ended && !r.ends (r.mark t) && !r.follows (r.mark t) then
        (.ok (taken.reverse, some (r.mark t)), source')
      else
        let taken := if r.isContent (r.mark t) then r.mark t :: taken else taken
        let ended := ended || r.ends (r.mark t)
        if ended && r.followers.isEmpty then
          if !taken.isEmpty || r.keepEmpty then (.ok (taken.reverse, none), source')
          else r.gather source' taken false
        else r.gather source' taken ended := by
  rw [gather]
  split
  · simp_all
  · simp_all
  · next u next hn =>
    rw [h] at hn
    simp only [Prod.mk.injEq, Except.ok.injEq, Option.some.injEq] at hn
    obtain ⟨rfl, rfl⟩ := hn
    rfl

/-- Gathering takes the first of the sentences that are to come, and leaves the others. -/
theorem gather_gives (r : SentenceRules) {source : TokenSource} {ts : List Token}
    (h : source.Gives ts) (taken : List Token) (ended : Bool) :
    ∃ sentence carried source' later, r.gather source taken ended = (.ok (sentence, carried), source') ∧
      source'.Gives later ∧
      r.collect taken ended ts =
        if sentence.isEmpty && carried.isNone && !r.keepEmpty then []
        else sentence :: r.resume carried later := by
  induction ts generalizing source taken ended with
  | nil =>
    rw [TokenSource.gives_nil_iff] at h
    have hn : source.next? = (.ok none, source.next?.2) := Prod.ext h rfl
    exact ⟨_, _, _, _, gather_of_none taken ended hn, TokenSource.gives_nil_of_next? hn,
      by simp [collect, resume]⟩
  | cons t ts ih =>
    rw [TokenSource.gives_cons_iff] at h
    obtain ⟨hn, ht⟩ := h
    rw [gather_of_some taken ended (Prod.ext hn rfl), collect]
    by_cases hc : (ended && !r.ends (r.mark t) && !r.follows (r.mark t)) = true
    · simp only [hc, if_true]
      exact ⟨_, _, _, _, rfl, ht, by simp [resume]⟩
    · simp only [hc, Bool.false_eq_true, if_false]
      generalize (if r.isContent (r.mark t) then r.mark t :: taken else taken) = taken
      by_cases he : ((ended || r.ends (r.mark t)) && r.followers.isEmpty) = true
      · simp only [he, if_true]
        by_cases hk : (!taken.isEmpty || r.keepEmpty) = true
        · simp only [hk, if_true]
          refine ⟨_, _, _, _, rfl, ht, ?_⟩
          have hs : ¬ (taken.reverse.isEmpty && (none : Option Token).isNone && !r.keepEmpty) = true := by
            cases taken <;> simp_all
          rw [if_neg hs]
          simp [resume]
        · simp only [hk, Bool.false_eq_true, if_false]
          exact ih ht taken false
      · simp only [he, Bool.false_eq_true, if_false]
        exact ih ht taken _

end SentenceRules

namespace Segmenter

/-- A segmenter gives out exactly these sentences, and then says that there are no more. -/
def Gives (s : Segmenter) (ss : List Sentence) : Prop := Reply.Gives next .exhausted s ss

theorem Gives.unique {s : Segmenter} {xs ys : List Sentence} (hx : s.Gives xs) (hy : s.Gives ys) :
    xs = ys := (Reply.Gives.unique hx hy).1

/-- A segmenter that has not looked for its next sentence yet, and has met no end. -/
structure Waiting (s : Segmenter) : Prop where
  ready : s.ready = none
  finished : s.finished = false

/-- A segmenter over a stream is the one over its own tokens. -/
theorem eq_ofSource {c : Config} {stream : TextStream} {s : Segmenter}
    (h : (ofStream c stream).1 = .ok s) : s = ofSource c (newlinesEnd c) s.source := by
  unfold ofStream at h
  split at h
  · obtain rfl := Except.ok.inj h
    rfl
  · simp at h
  · cases ht : tokensOf c stream (newlinesEnd c) with
    | error fault => simp [ht, Except.map] at h
    | ok source =>
      simp only [ht, Except.map, Except.ok.injEq] at h
      subst h
      rfl

/-- A new segmenter has looked for no sentence yet, and has kept no token for one. -/
theorem waiting_of_ofStream {c : Config} {stream : TextStream} {s : Segmenter}
    (h : (ofStream c stream).1 = .ok s) : s.Waiting ∧ s.carried = none := by
  rw [eq_ofSource h]
  exact ⟨⟨rfl, rfl⟩, rfl⟩

theorem escaper_of_ofStream {c : Config} {stream : TextStream} {s : Segmenter}
    (h : (ofStream c stream).1 = .ok s) : s.escaper = c.escaper := by
  rw [eq_ofSource h]
  rfl

/-- Whether there is something to begin a sentence with. -/
def begins (s : Segmenter) : Except Fault Bool × TokenSource :=
  match s.carried with
  | none => s.source.hasNext
  | some _ => (.ok true, s.source)

theorem build_eq (s : Segmenter) :
    s.build =
      match s.begins with
      | (.error fault, source) => (.error fault, { s with source })
      | (.ok false, source) => (.ok none, { s with source })
      | (.ok true, source) =>
        match s.rules.gather source s.carried.toList false with
        | (.error fault, source) => (.error fault, { s with source, carried := none })
        | (.ok (sentence, carried), source) =>
          let isNone := sentence.isEmpty && carried.isNone && !s.rules.keepEmpty
          (.ok (if isNone then none else some sentence), { s with source, carried }) := by
  unfold build begins
  cases s.carried <;> rfl

/-- To look whether a sentence can be begun takes no token. -/
theorem begins_of_gives (s : Segmenter) {ts : List Token} (h : s.source.Gives ts) :
    ∃ source, s.begins = (.ok (s.carried.isSome || !ts.isEmpty), source) ∧ source.Gives ts := by
  unfold begins
  cases s.carried with
  | none =>
    obtain ⟨source, hn, hg⟩ := h.hasNext
    exact ⟨source, by simp [hn], hg⟩
  | some t => exact ⟨s.source, by simp, h⟩

/-- What a segmenter builds from its tokens: the first of the sentences that are to come, if there
is one, and it keeps the others. -/
theorem build_gives (s : Segmenter) {ts : List Token} (h : s.source.Gives ts) :
    (∃ s', s.build = (.ok none, s') ∧ s'.ready = s.ready ∧ s.rules.resume s.carried ts = []) ∨
      ∃ sentence carried source later,
        s.build = (.ok (some sentence), { s with source, carried }) ∧ source.Gives later ∧
          s.rules.resume s.carried ts = sentence :: s.rules.resume carried later := by
  obtain ⟨source, hs, hg⟩ := s.begins_of_gives h
  rw [build_eq]
  by_cases hm : (s.carried.isSome || !ts.isEmpty) = true
  · have hr : s.rules.resume s.carried ts = s.rules.collect s.carried.toList false ts := by
      rw [SentenceRules.resume, if_neg]
      cases hc : s.carried <;> simp_all
    obtain ⟨sentence, carried, source', later, hga, hl, hco⟩ :=
      s.rules.gather_gives hg s.carried.toList false
    rw [hr, hco]
    simp only [hs, hm, hga]
    split
    · exact .inl ⟨_, rfl, rfl, rfl⟩
    · exact .inr ⟨sentence, carried, source', later, rfl, hl, rfl⟩
  · refine .inl ⟨{ s with source }, ?_, rfl, ?_⟩
    · simp only [Bool.not_eq_true] at hm
      simp only [hs, hm]
    · rw [SentenceRules.resume, if_pos]
      cases hc : s.carried <;> simp_all

theorem next_of_build_none {s s' : Segmenter} (h : s.Waiting) (hb : s.build = (.ok none, s'))
    (hr : s'.ready = none) : s.next.result = .error .exhausted := by
  simp [next, fill, h.ready, h.finished, hb, Reply.andThen, Reply.after, finish, mapStream, hr]

theorem next_of_build_some {s s' : Segmenter} {sentence : Sentence} (h : s.Waiting)
    (hb : s.build = (.ok (some sentence), s')) :
    s.next.result = .ok (s'.escape sentence) ∧ s.next.state = { s' with ready := none } := by
  simp [next, fill, h.ready, h.finished, hb, Reply.andThen, Reply.after]

/-- A segmenter gives out the sentences of its tokens, each of them escaped. -/
theorem gives_resume {s : Segmenter} {ts : List Token} (h : s.Waiting) (ht : s.source.Gives ts) :
    s.Gives ((s.rules.resume s.carried ts).map s.escape) := by
  generalize hss : s.rules.resume s.carried ts = ss
  induction ss generalizing s ts with
  | nil =>
    rcases s.build_gives ht with ⟨s', hb, hr, -⟩ | ⟨sentence, carried, source, later, -, -, hr⟩
    · exact next_of_build_none h hb (hr.trans h.ready)
    · simp [hr] at hss
  | cons sentence ss ih =>
    rcases s.build_gives ht with ⟨s', -, -, hr⟩ | ⟨sentence', carried, source, later, hb, hl, hr⟩
    · simp [hr] at hss
    · rw [hr, List.cons.injEq] at hss
      obtain ⟨rfl, hss⟩ := hss
      obtain ⟨ho, hn⟩ := next_of_build_some h hb
      refine ⟨ho, ?_⟩
      rw [hn]
      exact ih ⟨rfl, h.finished⟩ hl hss

/-- The sentences that a segmenter over a stream gives out are those of the tokens of its source. -/
theorem gives_sentences {c : Config} {stream : TextStream} {s : Segmenter} {ts : List Token}
    (h : (ofStream c stream).1 = .ok s) (ht : s.source.Gives ts) :
    s.Gives ((s.rules.sentences ts).map s.escape) := by
  obtain ⟨hw, hc⟩ := waiting_of_ofStream h
  have hg := gives_resume hw ht
  rwa [hc] at hg

theorem rules_of_ofStream {c : Config} {stream : TextStream} {s : Segmenter}
    (h : (ofStream c stream).1 = .ok s) :
    s.rules = .ofConfig c (newlinesEnd c) s.source.newlineMark := by
  rw [eq_ofSource h]
  rfl

theorem mark_of_ofStream {c : Config} {stream : TextStream} {s : Segmenter}
    (h : (ofStream c stream).1 = .ok s) : s.rules.mark = Tagged.mark c.tagDelimiter := by
  rw [rules_of_ofStream h]
  rfl

theorem keepEmpty_of_ofStream {c : Config} {stream : TextStream} {s : Segmenter}
    (h : (ofStream c stream).1 = .ok s) : s.rules.keepEmpty = c.keepEmptySentences := by
  rw [rules_of_ofStream h]
  rfl

theorem newlineMark_of_ofStream {c : Config} {stream : TextStream} {s : Segmenter}
    (h : (ofStream c stream).1 = .ok s) : s.rules.newlineMark = s.source.newlineMark := by
  rw [rules_of_ofStream h]
  rfl

theorem escape_of_ofStream {c : Config} {stream : TextStream} {s : Segmenter}
    (h : (ofStream c stream).1 = .ok s) (he : c.escaper = none) (sentence : Sentence) :
    s.escape sentence = sentence := by
  rw [escape, escaper_of_ofStream h, he]

/-- Without an escaper the sentences are given out as they are collected. -/
theorem gives_sentences_unescaped {c : Config} {stream : TextStream} {s : Segmenter}
    {ts : List Token} (h : (ofStream c stream).1 = .ok s) (he : c.escaper = none)
    (ht : s.source.Gives ts) : s.Gives (s.rules.sentences ts) := by
  have hg := gives_sentences h ht
  rwa [List.map_congr_left fun sentence _ => escape_of_ofStream h he sentence, List.map_id'] at hg

/-- A segmenter that gives out its sentences as they are collected. -/
def unescaped (s : Segmenter) : Segmenter := { s with escaper := none }

theorem gives_unescaped {c : Config} {stream : TextStream} {s : Segmenter} {ts : List Token}
    (h : (ofStream c stream).1 = .ok s) (ht : s.source.Gives ts) :
    s.unescaped.Gives (s.rules.sentences ts) := by
  obtain ⟨⟨hready, hfinished⟩, hcarried⟩ := waiting_of_ofStream h
  have hw : s.unescaped.Waiting := ⟨hready, hfinished⟩
  have hc : s.unescaped.carried = none := hcarried
  have hescape : s.unescaped.escape = id := rfl
  have hg := gives_resume hw ht
  rwa [hc, hescape, List.map_id] at hg

/-- Where newlines end sentences without an explicit delimiter, they are among the delimiters. -/
theorem newlineMark_mem_delimiters {c : Config} {stream : TextStream} {s : Segmenter}
    (h : (ofStream c stream).1 = .ok s) (hx : c.explicitDelimiter = none)
    (hn : newlinesEnd c = true) : s.source.newlineMark ∈ c.sentenceDelimiters := by
  by_cases hm : (c.tokenizerMaker.isNone && c.tokenizer = .tokenized) = true
  · simp only [newlinesEnd, hm, if_true, SentenceRules.delimitersOf, hx] at hn
    simp only [Bool.and_eq_true, Option.isNone_iff_eq_none, decide_eq_true_eq] at hm
    simp only [ofStream, hm.1, tokensOf, Config.makeTokenizer, hm.2] at h
    obtain rfl := Except.ok.inj h
    simpa [ofSource, TokenSource.newlineMark] using hn
  · simp [newlinesEnd, hm, SentenceRules.newlinesEnd, hx] at hn

end Segmenter

end SentenceReader

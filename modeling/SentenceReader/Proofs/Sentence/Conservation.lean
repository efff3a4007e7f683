import SentenceReader.Proofs.Sentence.Content
import SentenceReader.Proofs.Sentence.Explicit
import SentenceReader.Proofs.Sentence.Followers

/-! What becomes of the tokens of a text. Every token that is content is in a sentence, and the
order stays. A newline that is a token gets into a sentence only where it is carried over. -/
namespace SentenceReader

namespace SentenceRules

/-- The groups behind the first one begin with content. -/
def OpensWithContent (r : SentenceRules) (groups : List (List Token)) : Prop :=
  ∀ group ∈ groups.tail, ∀ t, group.head? = some t → r.isContent t = true

theorem forall_mem_carriedContent (r : SentenceRules) (group : List Token) :
    (∀ t ∈ r.carriedContent group, r.isContent t = true) ↔
      ∀ t, group.head? = some t → r.isContent t = true := by
  cases group <;> simp [carriedContent]

/-- A sentence holds nothing but content exactly if its group begins with content. -/
theorem forall_mem_ofGroups (r : SentenceRules) (groups : List (List Token)) :
    (∀ t ∈ (r.ofGroups groups).flatten, r.isContent t = true) ↔ r.OpensWithContent groups := by
  cases groups with
  | nil => simp [ofGroups, OpensWithContent]
  | cons first later =>
    rw [ofGroups]
    split
    · next h =>
      simp only [Bool.and_eq_true, List.isEmpty_iff] at h
      simp [OpensWithContent, h.1.2]
    · constructor
      · intro h group hg
        rw [← forall_mem_carriedContent]
        intro t ht
        refine h t (List.mem_flatten.2 ⟨_, List.mem_cons_of_mem _ (List.mem_map_of_mem hg), ht⟩)
      · intro h t ht
        simp only [List.flatten_cons, List.mem_append, List.mem_filter, List.mem_flatten,
          List.mem_map] at ht
        rcases ht with ht | ⟨sentence, ⟨group, hg, rfl⟩, ht⟩
        · exact ht.2
        · exact (r.forall_mem_carriedContent group).2 (h group hg) t ht

theorem flatten_filter_keeps (keepEmpty : Bool) (ss : List Sentence) :
    (ss.filter fun sentence => !sentence.isEmpty || keepEmpty).flatten = ss.flatten := by
  induction ss with
  | nil => rfl
  | cons s ss ih => cases s <;> cases keepEmpty <;> simp_all

end SentenceRules

/-- Without an explicit delimiter no group behind the first one begins with a newline. -/
def Config.KeepsNewlinesOut (c : Config) (ts : List Token) : Prop :=
  c.explicitDelimiter = none →
    ∀ group ∈ (c.followedGroups ts).tail, ∀ t, group.head? = some t → t.isNewline = false

instance (c : Config) (ts : List Token) : Decidable (c.KeepsNewlinesOut ts) :=
  inferInstanceAs (Decidable (c.explicitDelimiter = none →
    ∀ group ∈ (c.followedGroups ts).tail, ∀ t ∈ group.head?, t.isNewline = false))

namespace Segmenter

/-- Without tags all tokens that are content are in the sentences, in their order. -/
theorem filter_flatten_sentences {c : Config} {stream : TextStream} {s : Segmenter}
    (hs : (ofStream c stream).1 = .ok s) (ht : c.tagDelimiter = none) (ts : List Token) :
    (s.rules.sentences ts).flatten.filter s.rules.isContent = ts.filter s.rules.isContent := by
  have hm : ts.map (Tagged.mark c.tagDelimiter) = ts := by rw [ht, Tagged.map_mark_none]
  cases hx : c.explicitDelimiter with
  | none =>
    rw [sentences_eq_ofGroups hs hx, s.rules.filter_flatten_ofGroups, Config.followedGroups,
      Cutting.flatten_before, hm]
  | some d =>
    rw [sentences_eq_delimitedGroups hs hx, SentenceRules.flatten_filter_keeps,
      ← List.filter_flatten, List.filter_filter, Config.delimitedGroups, Cutting.flatten_behind, hm]
    simp

theorem forall_mem_sentences {c : Config} {stream : TextStream} {s : Segmenter}
    (hs : (ofStream c stream).1 = .ok s) (ts : List Token) :
    (∀ t ∈ (s.rules.sentences ts).flatten, s.rules.isContent t = true) ↔
      (c.explicitDelimiter = none → s.rules.OpensWithContent (c.followedGroups ts)) := by
  cases hx : c.explicitDelimiter with
  | none =>
    rw [sentences_eq_ofGroups hs hx, s.rules.forall_mem_ofGroups]
    simp
  | some d =>
    rw [sentences_eq_delimitedGroups hs hx, SentenceRules.flatten_filter_keeps, ← List.filter_flatten]
    simp +contextual

/-- Over the tokens of a text, groups that no newline begins are those that begin with content. -/
theorem keepsNewlinesOut_iff {c : Config} {stream : TextStream} {s : Segmenter}
    (hm : c.tokenizerMaker = none) (hs : (ofStream c stream).1 = .ok s) :
    c.KeepsNewlinesOut s.source.coming ↔
      (c.explicitDelimiter = none → s.rules.OpensWithContent (c.followedGroups s.source.coming)) := by
  have hcontent : ∀ group ∈ c.followedGroups s.source.coming, ∀ t, group.head? = some t →
      (s.rules.isContent t = true ↔ t.isNewline = false) := by
    intro group hg t hh
    obtain ⟨u, hu, rfl⟩ := Config.mem_of_mem_followedGroups hg (List.mem_of_head? hh)
    rw [isContent_mark hm hs hu, Tagged.isNewline_mark, Bool.not_eq_true']
  constructor
  · intro h hx group hg t hh
    exact (hcontent group (List.mem_of_mem_tail hg) t hh).2 (h hx group hg t hh)
  · intro h hx group hg t hh
    exact (hcontent group (List.mem_of_mem_tail hg) t hh).1 (h hx group hg t hh)

/-- All tokens of a text that are content are in its sentences, in their order. That nothing else is
in them holds exactly if, without an explicit delimiter, no newline begins a new group. -/
theorem conserves_iff {c : Config} {stream : TextStream} (hm : c.tokenizerMaker = none)
    (ho : c.OptionsAccepted) (ht : c.tagDelimiter = none) (he : c.escaper = none)
    (hst : stream.Steady) :
    ∃ s ts ss, (ofStream c stream).1 = .ok s ∧ s.source.Gives ts ∧ s.Gives ss ∧
      ss.flatten.filter s.rules.isContent = ts.filter s.rules.isContent ∧
      (ss.flatten = ts.filter s.rules.isContent ↔ c.KeepsNewlinesOut ts) ∧
      ((∀ t ∈ ss.flatten, s.rules.isContent t = true) ↔ c.KeepsNewlinesOut ts) := by
  obtain ⟨s, hs, hstream⟩ := ofStream_accepted hm ho stream
  have hg := TokenSource.gives_coming (s := s.source) (hstream ▸ hst)
  have hf := filter_flatten_sentences hs ht s.source.coming
  have hp := forall_mem_sentences hs s.source.coming
  rw [← keepsNewlinesOut_iff hm hs] at hp
  refine ⟨s, _, _, hs, hg, gives_sentences_unescaped hs he hg, hf, ?_, hp⟩
  rw [← hp, ← hf, eq_comm, List.filter_eq_self]

/-- A newline that ends a line but not its sentence is left out. -/
theorem conserves_iff_of_text :
    let c : Config := { tokenizerOptions := "tokenizeNLs".toList }
    let stream := TextStream.ofText "A\nB.".toList
    (c.tokenizerMaker = none ∧ c.OptionsAccepted ∧ c.tagDelimiter = none ∧ c.escaper = none ∧
        stream.Steady) ∧
      ∃ s ss, (ofStream c stream).1 = .ok s ∧ s.Gives ss ∧
        ss.flatten.map Token.word = [['A'], ['B'], ['.']] := by
  intro c stream
  have hm : c.tokenizerMaker = none := rfl
  have ho : c.OptionsAccepted := ⟨_, rfl⟩
  have hst : stream.Steady := TextStream.steady_ofText _
  obtain ⟨s, ts, ss, hs, ht, hss, -, hiff, -⟩ := conserves_iff hm ho rfl rfl hst
  obtain rfl : ofSource c false (.lexed { stream, options := { newlines := true } }) = s :=
    Except.ok.inj hs
  obtain rfl := ht.unique (TokenSource.gives_coming hst)
  refine ⟨⟨hm, ho, rfl, rfl, hst⟩, _, ss, hs, hss, ?_⟩
  rw [hiff.2 (by decide +kernel)]
  decide +kernel

/-- A newline right behind the end of a sentence is carried over into the next one. -/
theorem newline_carried_over :
    let c : Config := { tokenizerOptions := "tokenizeNLs".toList }
    let stream := TextStream.ofText "A.\nB".toList
    (c.issues = [] ∧ c.tokenizerMaker = none ∧ c.OptionsAccepted ∧ c.tagDelimiter = none ∧
        c.escaper = none ∧ stream.Steady) ∧
      ∃ s ts ss, (ofStream c stream).1 = .ok s ∧ s.source.Gives ts ∧ s.Gives ss ∧
        ss.flatten ≠ ts.filter s.rules.isContent ∧
        ∃ t ∈ ss.flatten, s.rules.isContent t = false := by
  intro c stream
  have hst : stream.Steady := TextStream.steady_ofText _
  let s := ofSource c false (.lexed { stream, options := { newlines := true } })
  have hs : (ofStream c stream).1 = .ok s := rfl
  have ht : s.source.Gives s.source.coming := TokenSource.gives_coming hst
  refine ⟨⟨rfl, rfl, ⟨_, rfl⟩, rfl, rfl, hst⟩, s, _, _, hs, ht, gives_sentences_unescaped hs rfl ht, ?_, ?_⟩
  · decide +kernel
  · decide +kernel

end Segmenter

end SentenceReader

import SentenceReader.Proofs.Sentence.Content
import SentenceReader.Proofs.Sentence.Followers

/-! The sentences of a text as they were written. Where tokens keep their characters, the sentences
of a text give the text back: neighbours share the white space between them, and nothing else. -/
namespace SentenceReader

namespace Token

def kept (t : Token) : Text × Text × Text := (t.before, t.source, t.after)

end Token

namespace Sentence

/-- The white space that a sentence keeps in front of its first token. -/
def lead (s : Sentence) : Text := (s.head?.map Token.before).getD []

/-- The characters of some sentences. The white space in front of a sentence stands behind the one
before it already. -/
def rawText : List Sentence → Text
  | [] => []
  | s :: later => s.rawLine ++ later.flatMap fun u => u.rawLine.drop u.lead.length

/-- One sentence follows another: the last token of the one meets the first token of the other. -/
def Follows (s u : Sentence) : Prop :=
  ∀ t ∈ s.getLast?, ∀ v ∈ u.head?, Token.Meets t v

theorem rawLine_eq_lead_append (s : Sentence) :
    s.rawLine = s.lead ++ s.flatMap fun t => t.source ++ t.after := by
  cases s <;> simp [rawLine, lead]

theorem drop_lead_rawLine (s : Sentence) :
    s.rawLine.drop s.lead.length = s.flatMap fun t => t.source ++ t.after := by
  rw [rawLine_eq_lead_append, List.drop_left]

/-- The characters of some sentences are those of all their tokens together. -/
theorem rawText_eq_rawLine_flatten {ss : List Sentence} (h : ∀ s ∈ ss, s ≠ []) :
    rawText ss = rawLine ss.flatten := by
  cases ss with
  | nil => rfl
  | cons s later =>
    have hl : lead (s ++ later.flatten) = lead s := by
      cases s with
      | nil => exact absurd rfl (h [] (by simp))
      | cons t rest => rfl
    rw [rawText, List.flatten_cons, rawLine_eq_lead_append s, rawLine_eq_lead_append (s ++ _), hl,
      List.flatMap_append, List.append_assoc]
    simp only [drop_lead_rawLine, List.flatten_eq_flatMap, List.flatMap_assoc, id]

theorem rawLine_congr {s u : Sentence} (h : s.map Token.kept = u.map Token.kept) :
    s.rawLine = u.rawLine := by
  have hlead : ∀ s : Sentence, s.lead = ((s.map Token.kept).head?.map Prod.fst).getD [] := by
    intro s
    cases s <;> rfl
  have hbody : ∀ s : Sentence, (s.flatMap fun t => t.source ++ t.after) =
      (s.map Token.kept).flatMap fun k => k.2.1 ++ k.2.2 := by
    intro s
    rw [List.flatMap_map]
    rfl
  rw [rawLine_eq_lead_append, rawLine_eq_lead_append, hlead, hbody, h, ← hlead, ← hbody]

theorem isChain_meets_congr {s u : Sentence} (h : s.map Token.kept = u.map Token.kept)
    (hs : s.IsChain Token.Meets) : u.IsChain Token.Meets := by
  let meets (k l : Text × Text × Text) : Prop := k.2.2 = l.1 ∧ ∀ c ∈ k.2.2, isBlank c = true
  have hmap : ∀ s : Sentence, (s.map Token.kept).IsChain meets ↔ s.IsChain Token.Meets := by
    intro s
    rw [List.isChain_map]
    rfl
  rwa [← hmap, ← h, hmap]

end Sentence

theorem Tagged.kept_mark (d : Option Text) {t : Token} (h : t.raw.isSome = true) :
    (mark d t).kept = t.kept := by
  obtain ⟨raw, hr⟩ := Option.isSome_iff_exists.1 h
  cases d with
  | none => rfl
  | some d =>
    rw [mark]
    split
    · simp [Token.kept, Token.source, hr]
    · rfl

theorem Treebank.map_kept_escapeFrom (quoteOpen : Bool) (s : Sentence) :
    (escapeFrom quoteOpen s).map Token.kept = s.map Token.kept := by
  induction s generalizing quoteOpen with
  | nil => rfl
  | cons t rest ih =>
    have ht : (respell t (spell quoteOpen t.word)).kept = t.kept := by
      unfold respell
      split
      · rfl
      · rfl
    rw [escapeFrom, List.map_cons, List.map_cons, ht, ih]

theorem SentenceRules.ofGroups_eq_self {r : SentenceRules} {groups : List (List Token)}
    (hne : ∀ group ∈ groups, group ≠ [])
    (hc : ∀ group ∈ groups, ∀ t ∈ group, r.isContent t = true) : r.ofGroups groups = groups := by
  cases groups with
  | nil => rfl
  | cons first later =>
    obtain ⟨hfirst, hlater⟩ := List.forall_mem_cons.1 hc
    have hf : first.filter r.isContent = first := List.filter_eq_self.2 hfirst
    have hl : later.map r.carriedContent = later := by
      rw [List.map_congr_left (g := id), List.map_id]
      intro group hg
      cases group with
      | nil => rfl
      | cons t rest =>
        rw [carriedContent, List.filter_eq_self.2 (List.forall_mem_cons.1 (hlater _ hg)).2]
        rfl
    rw [ofGroups, hf, hl, if_neg]
    simp [hne first (by simp)]

namespace Segmenter

theorem map_kept_escape {c : Config} {stream : TextStream} {s : Segmenter}
    (hs : (ofStream c stream).1 = .ok s) (he : c.escaper = none ∨ c.escaper = some .treebank)
    (sentence : Sentence) : (s.escape sentence).map Token.kept = sentence.map Token.kept := by
  have hse : s.escaper = c.escaper := escaper_of_ofStream hs
  rcases he with he | he
  · rw [escape, hse, he]
  · rw [escape, hse, he]
    exact Treebank.map_kept_escapeFrom false sentence

/-- The sentences of a text without newlines among its tokens are its groups, all of which is
content. -/
theorem sentences_eq_followedGroups {c : Config} {stream : TextStream} {s : Segmenter}
    (hm : c.tokenizerMaker = none) (hx : c.explicitDelimiter = none)
    (hs : (ofStream c stream).1 = .ok s) (hn : ∀ t ∈ s.source.coming, t.isNewline = false) :
    s.rules.sentences s.source.coming = c.followedGroups s.source.coming := by
  rw [sentences_eq_ofGroups hs hx]
  refine SentenceRules.ofGroups_eq_self (fun group => Cutting.ne_nil_of_mem_before) ?_
  intro group hg t ht
  obtain ⟨u, hu, rfl⟩ := Config.mem_of_mem_followedGroups hg ht
  rw [isContent_mark hm hs hu, hn u hu]
  rfl

/-- Neither a tag that is split off nor the escaper changes what is kept of the text. -/
theorem map_kept_followedGroups {c : Config} {stream : TextStream} {s : Segmenter} {ts : List Token}
    (hs : (ofStream c stream).1 = .ok s) (he : c.escaper = none ∨ c.escaper = some .treebank)
    (hraw : ∀ t ∈ ts, t.raw.isSome = true) :
    ((c.followedGroups ts).map s.escape).flatten.map Token.kept = ts.map Token.kept := by
  have hescape : ((c.followedGroups ts).map s.escape).flatten.map Token.kept =
      (c.followedGroups ts).flatten.map Token.kept := by
    rw [List.map_flatten, List.map_flatten, List.map_map]
    exact congrArg List.flatten
      (List.map_congr_left fun sentence _ => map_kept_escape hs he sentence)
  rw [hescape, Config.followedGroups, Cutting.flatten_before, List.map_map]
  exact List.map_congr_left fun t ht => Tagged.kept_mark _ (hraw t ht)

theorem ne_nil_of_mem_escaped {c : Config} {stream : TextStream} {s : Segmenter}
    (hs : (ofStream c stream).1 = .ok s) (he : c.escaper = none ∨ c.escaper = some .treebank)
    (ts : List Token) :
    ∀ sentence ∈ (c.followedGroups ts).map s.escape, sentence ≠ [] := by
  intro sentence hmem h0
  obtain ⟨group, hgroup, rfl⟩ := List.mem_map.1 hmem
  have hmap := map_kept_escape hs he group
  rw [h0, List.map_nil, eq_comm, List.map_eq_nil_iff] at hmap
  exact Cutting.ne_nil_of_mem_before hgroup hmap

/-- Where tokens keep their characters, the sentences of a text that is not blank give it back; a
blank text has no sentences. -/
theorem gives_rawText {c : Config} {o : LexedOptions} {stream : TextStream}
    (hm : c.tokenizerMaker = none) (ht : c.tokenizer = .running) (hx : c.explicitDelimiter = none)
    (ho : LexedOptions.read c.tokenizerOptions = .ok o) (hi : o.invertible = true)
    (hn : o.newlines = false) (he : c.escaper = none ∨ c.escaper = some .treebank)
    (hst : stream.Steady) :
    ∃ s ss, (ofStream c stream).1 = .ok s ∧ s.Gives ss ∧
      ((∃ ch ∈ stream.rest, isBlank ch = false) →
        (∀ sentence ∈ ss, sentence ≠ []) ∧ ss.IsChain Sentence.Follows ∧
          Sentence.rawText ss = stream.rest) ∧
      ((∀ ch ∈ stream.rest, isBlank ch = true) → ss = []) := by
  have hs := ofStream_running hm ht ho stream
  rw [newlinesEnd_running ht hx, Bool.false_or] at hs
  generalize hseg : ofSource c false (.lexed { stream, options := { o with newlines := o.newlines } }) =
    s at hs
  have hcoming : s.source.coming = o.tokensOf stream.rest := by
    rw [← hseg]
    rfl
  have hsteady : s.source.stream.Steady := by
    rw [← hseg]
    exact hst
  have hnewline : ∀ t ∈ s.source.coming, t.isNewline = false := by
    intro t hmem
    rw [hcoming] at hmem
    rcases LexedOptions.word_of_mem_tokensOf hmem with ⟨h, -⟩ | ⟨-, -, h⟩
    · exact h
    · rw [hn] at h
      exact Bool.noConfusion h
  have hg := gives_sentences hs (TokenSource.gives_coming hsteady)
  rw [sentences_eq_followedGroups hm hx hs hnewline, hcoming] at hg
  have hne := ne_nil_of_mem_escaped hs he (o.tokensOf stream.rest)
  have hkept :=
    map_kept_followedGroups hs he (LexedOptions.raw_isSome_of_mem_tokensOf hi (t := stream.rest))
  -- All sentences together keep what the tokens kept, so chain and text carry over from the tokens.
  refine ⟨s, _, hs, hg, fun hblank => ⟨hne, ?_, ?_⟩, fun hblank => ?_⟩
  · have hchain := Sentence.isChain_meets_congr hkept.symm (LexedOptions.isChain_tokensOf hi _)
    exact ((List.isChain_flatten fun hmem => hne [] hmem rfl).1 hchain).2
  · have hts : o.tokensOf stream.rest ≠ [] := by
      rw [ne_eq, LexedOptions.tokensOf_eq_nil_iff hn]
      obtain ⟨ch, hmem, hch⟩ := hblank
      intro hall
      rw [hall ch hmem] at hch
      exact Bool.noConfusion hch
    rw [Sentence.rawText_eq_rawLine_flatten hne, Sentence.rawLine_congr hkept,
      LexedOptions.rawLine_tokensOf hi hts]
  · rw [(LexedOptions.tokensOf_eq_nil_iff hn _).2 hblank]
    rfl

/-- The quotes are escaped and a tag is split off, but the text is all there. -/
theorem gives_rawText_of_text :
    let c : Config :=
      { tokenizerOptions := "invertible".toList, tagDelimiter := some ['_'],
        escaper := some .treebank }
    let o : LexedOptions := { invertible := true }
    let stream := TextStream.ofText " \"A_D.\" \n Don't".toList
    (c.tokenizerMaker = none ∧ c.tokenizer = .running ∧ c.explicitDelimiter = none ∧
        LexedOptions.read c.tokenizerOptions = .ok o ∧ o.invertible = true ∧ o.newlines = false ∧
        c.escaper = some .treebank ∧ stream.Steady ∧ ∃ ch ∈ stream.rest, isBlank ch = false) ∧
      ∃ s ss, (ofStream c stream).1 = .ok s ∧ s.Gives ss ∧ ss.IsChain Sentence.Follows ∧
        Sentence.rawText ss = stream.rest ∧
        ss.map (List.map Token.word) = [["``", "A", ".", "''"], ["Do", "n't"]].map
          (List.map String.toList) := by
  intro c o stream
  have ho : LexedOptions.read c.tokenizerOptions = .ok o := rfl
  have hst : stream.Steady := TextStream.steady_ofText _
  have hblank : ∃ ch ∈ stream.rest, isBlank ch = false := ⟨'A', by decide, by decide⟩
  obtain ⟨s, ss, hs, hg, htext, -⟩ := gives_rawText rfl rfl rfl ho rfl rfl (.inr rfl) hst
  obtain ⟨-, hchain, hraw⟩ := htext hblank
  refine ⟨⟨rfl, rfl, rfl, ho, rfl, rfl, rfl, hst, hblank⟩, s, ss, hs, hg, hchain, hraw, ?_⟩
  obtain rfl : ofSource c false (.lexed { stream, options := o }) = s := Except.ok.inj hs
  obtain rfl := hg.unique (gives_sentences hs (TokenSource.gives_coming hst))
  decide +kernel

end Segmenter

end SentenceReader

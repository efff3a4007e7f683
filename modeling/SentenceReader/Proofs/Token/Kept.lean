import SentenceReader.Proofs.Token.Lossless

/-! What a token keeps of the text where tokens keep their characters: some characters of its own,
which are a word or a newline, and the white space on both sides of it. -/
namespace SentenceReader

/-- White space, with no newline in it where newlines are tokens. -/
def LexedOptions.IsGap (o : LexedOptions) (run : Text) : Prop :=
  ∀ c ∈ run, isBlank c = true ∧ (o.newlines = true → c ≠ '\n')

/-- A token with its characters and the white space around it. -/
structure Token.Keeps (o : LexedOptions) (u : Token) : Prop where
  before : o.IsGap u.before
  after : o.IsGap u.after
  raw : ∃ raw, u.raw = some raw ∧ raw ≠ [] ∧
    if u.isNewline then raw = ['\n'] else ∀ c ∈ raw, isBlank c = false

namespace LexedOptions

variable {o : LexedOptions}

theorem isGap_nil : o.IsGap [] := by
  intro c hc
  exact absurd hc List.not_mem_nil

theorem IsGap.append {a b : Text} (ha : o.IsGap a) (hb : o.IsGap b) : o.IsGap (a ++ b) := by
  intro c hc
  rcases List.mem_append.1 hc with hc | hc
  · exact ha c hc
  · exact hb c hc

end LexedOptions

namespace LinePart

theorem mem_of_space_mem_ofBreaks {runs : List Text} {run : Text} (h : space run ∈ ofBreaks runs) :
    run ∈ runs := by
  fun_induction ofBreaks runs with
  | case1 => simp at h
  | case2 only => simpa using h
  | case3 first rest hne ih =>
    simp only [List.mem_cons, reduceCtorEq, false_or, space.injEq] at h ⊢
    exact h.imp_right ih

/-- Where newlines are words, they part the white space. -/
theorem newline_not_mem_of_mem_ofGap {o : LexedOptions} (ho : o.newlines = true) {gap run : Text}
    (h : space run ∈ ofGap o gap) : '\n' ∉ run := by
  rw [ofGap, if_pos ho] at h
  intro hc
  have hb := Text.eq_false_of_mem_splitOnP (mem_of_space_mem_ofBreaks h) '\n' hc
  simp at hb

theorem space_not_mem_ofRaw (o : LexedOptions) (raw run : Text) (opening : Bool) :
    space run ∉ ofRaw o raw opening := by
  unfold ofRaw
  split <;> simp

/-- The white space of a text is white space, without newlines where these are words. -/
theorem isGap_of_mem_ofText {o : LexedOptions} {t run : Text} (h : space run ∈ ofText o t) :
    o.IsGap run := by
  intro c hc
  constructor
  · cases proper_ofText o t _ h with
    | space hrun => exact hrun c hc
  · rintro ho rfl
    obtain ⟨line, -, h⟩ := List.mem_flatMap.1 h
    rw [ofLine, List.mem_append, List.mem_flatMap] at h
    rcases h with ⟨l, -, h⟩ | h
    · rcases List.mem_append.1 h with h | h
      · exact newline_not_mem_of_mem_ofGap ho h hc
      · exact space_not_mem_ofRaw o l.raw run l.opening h
    · exact newline_not_mem_of_mem_ofGap ho h hc

end LinePart

namespace OpenToken

variable {o : LexedOptions}

theorem length_close (o : LexedOptions) (p : OpenToken) :
    (p.close o).length = p.last.toList.length := by
  cases h : p.last <;> simp [OpenToken.close, h]

/-- An open token keeps what it should, and so does the white space behind it so far. -/
structure Keeps (o : LexedOptions) (s : OpenToken) : Prop where
  last : ∀ t, s.last = some t → t.Keeps o
  gap : o.IsGap s.gap

theorem keeps_empty : ({} : OpenToken).Keeps o := by
  constructor
  · simp
  · exact LexedOptions.isGap_nil

theorem Keeps.space {s : OpenToken} (h : s.Keeps o) {run : Text} (hr : o.IsGap run) :
    Keeps o { s with runs := run :: s.runs } := by
  refine ⟨h.last, ?_⟩
  rw [gap_cons]
  exact h.gap.append hr

/-- A closed token keeps the white space up to the next one. -/
theorem Keeps.close (hi : o.invertible = true) {s : OpenToken} (h : s.Keeps o) :
    ∀ u ∈ s.close o, u.Keeps o := by
  intro u hu
  cases hl : s.last with
  | none => simp [OpenToken.close, hl] at hu
  | some t =>
    have ht := h.last t hl
    simp only [OpenToken.close, hl, hi, if_true, List.mem_singleton] at hu
    subst hu
    exact ⟨ht.before, h.gap, ht.raw⟩

/-- The token that a word makes keeps the white space in front of it. -/
theorem keeps_token (hi : o.invertible = true) {gap w raw : Text} {isNewline : Bool}
    (hg : o.IsGap gap) (hp : (LinePart.word w raw isNewline).Proper o) :
    (token o gap w raw isNewline).Keeps o := by
  rw [token, if_pos hi]
  refine ⟨hg, LexedOptions.isGap_nil, raw, rfl, ?_⟩
  cases hp with
  | word hw hr hn => exact ⟨hn, hr.isBlank_eq_false⟩
  | newline ho => exact ⟨List.cons_ne_nil _ _, rfl⟩

theorem keeps_of_mem_tokens (hi : o.invertible = true) {s : OpenToken} {parts : List LinePart}
    (hs : s.Keeps o) (hp : ∀ p ∈ parts, p.Proper o)
    (hg : ∀ run, LinePart.space run ∈ parts → o.IsGap run) : ∀ u ∈ s.tokens o parts, u.Keeps o := by
  induction parts generalizing s with
  | nil =>
    rw [tokens_nil]
    exact hs.close hi
  | cons p rest ih =>
    obtain ⟨hhead, hrest⟩ := List.forall_mem_cons.1 hp
    have hgaps : ∀ run, LinePart.space run ∈ rest → o.IsGap run :=
      fun run hr => hg run (List.mem_cons_of_mem p hr)
    cases p with
    | space run =>
      rw [tokens_space, if_pos hi]
      exact ih (hs.space (hg run List.mem_cons_self)) hrest hgaps
    | word w raw isNewline =>
      rw [tokens_word]
      intro u hu
      rcases List.mem_append.1 hu with hu | hu
      · exact hs.close hi u hu
      · refine ih ⟨fun t ht => ?_, LexedOptions.isGap_nil⟩ hrest hgaps u hu
        rw [← Option.some.inj ht]
        exact keeps_token hi hs.gap hhead

end OpenToken

namespace LexedOptions

theorem keeps_of_mem_tokensOf {o : LexedOptions} (hi : o.invertible = true) (t : Text) :
    ∀ u ∈ o.tokensOf t, u.Keeps o :=
  OpenToken.keeps_of_mem_tokens hi OpenToken.keeps_empty (LinePart.proper_ofText o t)
    fun _ => LinePart.isGap_of_mem_ofText

end LexedOptions

end SentenceReader

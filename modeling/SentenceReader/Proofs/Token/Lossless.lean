import Mathlib.Data.List.Chain
import SentenceReader.Proofs.Token.Parts

/-! The tokens of a text. Where they keep their characters the text is what they keep, and each of
them ends where the next one begins. -/
namespace SentenceReader

namespace Token

/-- A token as far as its word and its tag go, without what it keeps of the text. -/
def bare (t : Token) : Token := { word := t.word, tag := t.tag, isNewline := t.isNewline }

/-- A token without the white space around it. -/
def placeless (t : Token) : Token := { t with before := [], after := [] }

theorem map_word_bare (ts : List Token) : (ts.map bare).map word = ts.map word := by
  rw [List.map_map]
  rfl

/-- A token is followed by another one, with white space between them. -/
def Meets (t u : Token) : Prop := t.after = u.before ∧ ∀ c ∈ t.after, isBlank c = true

end Token

namespace LinePart

/-- The token of a part, without the white space around it; white space has none. -/
def token? (o : LexedOptions) : LinePart → Option Token
  | space _ => none
  | word w raw isNewline => some (OpenToken.token o [] w raw isNewline)

theorem map_bare_token? (o : LexedOptions) (p : LinePart) : (p.token? o).map Token.bare = p.bare? := by
  cases p with
  | space run => rfl
  | word w raw isNewline =>
    by_cases hi : o.invertible = true <;> simp [token?, bare?, OpenToken.token, hi, Token.bare]

end LinePart

namespace OpenToken

theorem tokens_space (o : LexedOptions) (s : OpenToken) (run : Text) (rest : List LinePart) :
    s.tokens o (.space run :: rest) =
      (if o.invertible then { s with runs := run :: s.runs } else s).tokens o rest := rfl

theorem tokens_word (o : LexedOptions) (s : OpenToken) (w raw : Text) (isNewline : Bool)
    (rest : List LinePart) :
    s.tokens o (.word w raw isNewline :: rest) =
      s.close o ++ OpenToken.tokens o ⟨some (token o s.gap w raw isNewline), []⟩ rest := by
  simp [tokens, addParts]

theorem gap_cons (last : Option Token) (run : Text) (runs : List Text) :
    (OpenToken.mk last (run :: runs)).gap = (OpenToken.mk last runs).gap ++ run := by
  simp [gap]

theorem map_placeless_close (o : LexedOptions) (s : OpenToken) :
    (s.close o).map Token.placeless = s.last.toList.map Token.placeless := by
  cases h : s.last with
  | none => simp [close, h]
  | some t => by_cases hi : o.invertible = true <;> simp [close, h, hi, Token.placeless]

/-- The tokens of some parts, whatever white space is around them, are those of one part each. -/
theorem map_placeless_tokens (o : LexedOptions) (s : OpenToken) (parts : List LinePart) :
    (s.tokens o parts).map Token.placeless =
      s.last.toList.map Token.placeless ++ parts.filterMap (LinePart.token? o) := by
  induction parts generalizing s with
  | nil => simp [map_placeless_close]
  | cons p rest ih =>
    cases p with
    | space run =>
      have hl : (if o.invertible then { s with runs := run :: s.runs } else s).last = s.last := by
        split <;> rfl
      rw [tokens_space, ih, hl]
      rfl
    | word w raw isNewline =>
      have hb : (token o s.gap w raw isNewline).placeless = token o [] w raw isNewline := by
        by_cases hi : o.invertible = true <;> simp [token, hi, Token.placeless]
      rw [tokens_word, List.map_append, map_placeless_close, ih]
      simp [LinePart.token?, hb]

/-- The words of some parts are the words of their tokens, whatever the tokens keep. -/
theorem map_bare_tokens (o : LexedOptions) (s : OpenToken) (parts : List LinePart) :
    (s.tokens o parts).map Token.bare =
      s.last.toList.map Token.bare ++ parts.filterMap LinePart.bare? := by
  have hbare : Token.bare = Token.bare ∘ Token.placeless := rfl
  have hparts : LinePart.bare? = fun p => (p.token? o).map Token.bare :=
    funext fun p => (p.map_bare_token? o).symm
  rw [hbare, ← List.map_map, map_placeless_tokens, List.map_append, List.map_map, ← hbare,
    List.map_filterMap, hparts]

variable {o : LexedOptions}

/-- Behind an open token the characters of its own, of the white space and of the parts follow. -/
theorem flatMap_tokens (hi : o.invertible = true) {t : Token} (runs : List Text)
    (parts : List LinePart) :
    (OpenToken.tokens o ⟨some t, runs⟩ parts).flatMap (fun u => u.source ++ u.after) =
      t.source ++ OpenToken.gap ⟨some t, runs⟩ ++ parts.flatMap LinePart.chars := by
  induction parts generalizing t runs with
  | nil => simp [close, hi, Token.source]
  | cons p rest ih =>
    cases p with
    | space run =>
      rw [tokens_space, if_pos hi, ih, gap_cons]
      simp [LinePart.chars]
    | word w raw isNewline =>
      rw [tokens_word, List.flatMap_append, ih]
      simp [close, hi, token, LinePart.chars, gap, Token.source]

/-- The tokens behind an open one begin with it, and each meets the next. -/
theorem isChain_tokens_some (hi : o.invertible = true) {t : Token} {runs : List Text}
    {parts : List LinePart} (hr : ∀ run ∈ runs, ∀ c ∈ run, isBlank c = true)
    (hp : ∀ p ∈ parts, p.Proper o) :
    ∃ first later, OpenToken.tokens o ⟨some t, runs⟩ parts = first :: later ∧
      first.before = t.before ∧ (first :: later).IsChain Token.Meets := by
  induction parts generalizing t runs with
  | nil => exact ⟨{ t with after := OpenToken.gap ⟨some t, runs⟩ }, [], by simp [close, hi], rfl, by simp⟩
  | cons p rest ih =>
    obtain ⟨hhead, hrest⟩ := List.forall_mem_cons.1 hp
    cases p with
    | space run =>
      cases hhead with
      | space hrun =>
        rw [tokens_space, if_pos hi]
        exact ih (List.forall_mem_cons.2 ⟨hrun, hr⟩) hrest
    | word w raw isNewline =>
      have hgap : ∀ c ∈ OpenToken.gap ⟨some t, runs⟩, isBlank c = true := by
        intro c hc
        obtain ⟨run, hm, hc⟩ := List.mem_flatten.1 hc
        exact hr run (List.mem_reverse.1 hm) c hc
      -- The open token ends with this gap, and the next one begins with it.
      obtain ⟨u, later, ht, hb, hchain⟩ :=
        ih (t := token o (OpenToken.gap ⟨some t, runs⟩) w raw isNewline) (List.forall_mem_nil _) hrest
      refine ⟨{ t with after := OpenToken.gap ⟨some t, runs⟩ }, u :: later, ?_, rfl, ?_⟩
      · rw [tokens_word, ht]
        simp [close, hi]
      · rw [List.isChain_cons_cons]
        refine ⟨⟨?_, hgap⟩, hchain⟩
        rw [hb]
        simp [token, hi]

/-- The first token keeps the white space in front of it, so all characters are kept. -/
theorem rawLine_tokens (hi : o.invertible = true) (runs : List Text) {parts : List LinePart}
    (hp : ∀ p ∈ parts, p.Proper o) (hne : OpenToken.tokens o ⟨none, runs⟩ parts ≠ []) :
    Sentence.rawLine (OpenToken.tokens o ⟨none, runs⟩ parts) =
      OpenToken.gap ⟨none, runs⟩ ++ parts.flatMap LinePart.chars := by
  induction parts generalizing runs with
  | nil => simp [close] at hne
  | cons p rest ih =>
    have hrest := (List.forall_mem_cons.1 hp).2
    cases p with
    | space run =>
      rw [tokens_space, if_pos hi] at hne ⊢
      rw [ih _ hrest hne, gap_cons]
      simp [LinePart.chars]
    | word w raw isNewline =>
      generalize hu : token o (OpenToken.gap ⟨none, runs⟩) w raw isNewline = u
      have hf := flatMap_tokens hi (t := u) [] rest
      obtain ⟨first, later, ht, hb, -⟩ := isChain_tokens_some hi (t := u) (List.forall_mem_nil _) hrest
      have hall : OpenToken.tokens o ⟨none, runs⟩ (.word w raw isNewline :: rest) = first :: later := by
        rw [tokens_word, hu, ht]
        rfl
      rw [ht] at hf
      rw [hall, Sentence.rawLine, hf, hb, ← hu]
      simp [token, hi, Token.source, gap, LinePart.chars]

theorem isChain_tokens (hi : o.invertible = true) (runs : List Text) {parts : List LinePart}
    (hp : ∀ p ∈ parts, p.Proper o) :
    (OpenToken.tokens o ⟨none, runs⟩ parts).IsChain Token.Meets := by
  induction parts generalizing runs with
  | nil => simp [close]
  | cons p rest ih =>
    have hrest := (List.forall_mem_cons.1 hp).2
    cases p with
    | space run =>
      rw [tokens_space, if_pos hi]
      exact ih _ hrest
    | word w raw isNewline =>
      obtain ⟨first, later, ht, -, hc⟩ :=
        isChain_tokens_some hi (t := token o (OpenToken.gap ⟨none, runs⟩) w raw isNewline)
          (List.forall_mem_nil _) hrest
      rw [tokens_word, ht]
      simpa [close] using hc

theorem raw_isSome_of_mem_tokens (hi : o.invertible = true) {s : OpenToken} (parts : List LinePart)
    (hs : ∀ t, s.last = some t → t.raw.isSome = true) :
    ∀ u ∈ s.tokens o parts, u.raw.isSome = true := by
  have hclose : ∀ s : OpenToken, (∀ t, s.last = some t → t.raw.isSome = true) →
      ∀ u ∈ s.close o, u.raw.isSome = true := by
    intro s hs u hu
    cases h : s.last with
    | none => simp [close, h] at hu
    | some t =>
      simp only [close, h, hi, if_true, List.mem_singleton] at hu
      subst hu
      exact hs t h
  induction parts generalizing s with
  | nil => exact hclose s hs
  | cons p rest ih =>
    cases p with
    | space run =>
      rw [tokens_space, if_pos hi]
      exact ih hs
    | word w raw isNewline =>
      intro u hu
      rw [tokens_word, List.mem_append] at hu
      rcases hu with hu | hu
      · exact hclose s hs u hu
      · refine ih (fun t ht => ?_) u hu
        rw [← Option.some.inj ht]
        simp [token, hi]

end OpenToken

namespace LexedOptions

def tokensOf (o : LexedOptions) (t : Text) : List Token :=
  OpenToken.tokens o {} (LinePart.ofText o t)

/-- Tokens that keep their characters keep the whole text. -/
theorem rawLine_tokensOf {o : LexedOptions} (hi : o.invertible = true) {t : Text}
    (hne : o.tokensOf t ≠ []) : Sentence.rawLine (o.tokensOf t) = t := by
  rw [tokensOf, OpenToken.rawLine_tokens hi [] (LinePart.proper_ofText o t) hne,
    LinePart.chars_ofText]
  rfl

theorem isChain_tokensOf {o : LexedOptions} (hi : o.invertible = true) (t : Text) :
    (o.tokensOf t).IsChain Token.Meets :=
  OpenToken.isChain_tokens hi [] (LinePart.proper_ofText o t)

theorem raw_isSome_of_mem_tokensOf {o : LexedOptions} (hi : o.invertible = true) {t : Text} :
    ∀ u ∈ o.tokensOf t, u.raw.isSome = true :=
  OpenToken.raw_isSome_of_mem_tokens hi _ (by simp)

theorem map_bare_tokensOf (o : LexedOptions) (t : Text) :
    (o.tokensOf t).map Token.bare = (LinePart.ofText o t).filterMap LinePart.bare? :=
  OpenToken.map_bare_tokens o {} (LinePart.ofText o t)

/-- Behind the end of a line the tokens go on with those of the text that stands there. -/
theorem map_bare_tokensOf_append (o : LexedOptions) {t : Text} (h : t.EndsLine) (u : Text) :
    (o.tokensOf (t ++ u)).map Token.bare =
      (o.tokensOf t).map Token.bare ++ (o.tokensOf u).map Token.bare := by
  rw [map_bare_tokensOf, map_bare_tokensOf, map_bare_tokensOf, LinePart.ofText_append o h,
    List.filterMap_append]

/-- Where newlines are no tokens, only white space has no tokens. -/
theorem tokensOf_eq_nil_iff {o : LexedOptions} (ho : o.newlines = false) (t : Text) :
    o.tokensOf t = [] ↔ ∀ c ∈ t, isBlank c = true := by
  have hn : o.newlines = true → '\n' ∉ t := fun h => absurd (ho.symm.trans h) Bool.false_ne_true
  rw [← LinePart.filterMap_bare?_ofText_eq_nil_iff hn, ← map_bare_tokensOf, List.map_eq_nil_iff]

/-- A token stands for a newline, where newlines are tokens, or has a word without white space. -/
theorem word_of_mem_tokensOf {o : LexedOptions} {t : Text} {u : Token} (h : u ∈ o.tokensOf t) :
    (u.isNewline = false ∧ Text.Solid u.word) ∨
      (u.isNewline = true ∧ u.word = newlineMark ∧ o.newlines = true) := by
  have hb : u.bare ∈ (LinePart.ofText o t).filterMap LinePart.bare? := by
    rw [← map_bare_tokensOf]
    exact List.mem_map_of_mem h
  obtain ⟨p, hp, hpu⟩ := List.mem_filterMap.1 hb
  cases LinePart.proper_ofText o t p hp with
  | space _ => simp [LinePart.bare?] at hpu
  | word hw _ _ =>
    simp only [LinePart.bare?, Option.some.injEq, Token.bare, Token.mk.injEq] at hpu
    exact .inl ⟨hpu.2.2.1.symm, hpu.1 ▸ hw⟩
  | newline ho =>
    simp only [LinePart.bare?, Option.some.injEq, Token.bare, Token.mk.injEq] at hpu
    exact .inr ⟨hpu.2.2.1.symm, hpu.1.symm, ho⟩

end LexedOptions

end SentenceReader

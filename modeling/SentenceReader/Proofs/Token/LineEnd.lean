import SentenceReader.Proofs.Token.Lossless
import SentenceReader.Proofs.Token.Printed
import SentenceReader.Proofs.Token.Spacing

/-! The newline at the end of a line. No rule for words looks at it, so a line has the same words with
it and without it, and it is a token of its own where newlines are tokens. -/
namespace SentenceReader

/-- A newline at the end of a line is white space behind its lexemes, which are the same without
it. -/
theorem Lexeme.scan_append_newline (previous : Option Char) (t : Text) :
    scan previous (t ++ ['\n']) = extend ['\n'] (scan previous t) := by
  have hblank : ∀ c ∈ ['\n'], isBlank c = true := List.forall_mem_singleton.2 isBlank_newline
  rw [scan_append isBlank_newline [], scan_of_blank none hblank]
  rfl

namespace LinePart

/-- White space without newlines has no words. -/
theorem filterMap_bare?_ofGap (o : LexedOptions) {gap : Text} (h : '\n' ∉ gap) :
    (ofGap o gap).filterMap bare? = [] := by
  rw [ofGap, Text.fields, List.splitOn_eq_singleton h]
  split <;> rfl

/-- A newline behind white space is a word where newlines are words. -/
theorem filterMap_bare?_ofGap_append (o : LexedOptions) {gap : Text} (h : '\n' ∉ gap) :
    (ofGap o (gap ++ ['\n'])).filterMap bare? =
      if o.newlines then [{ word := newlineMark, isNewline := true }] else [] := by
  rw [ofGap, Text.fields, List.splitOn_append_cons_self, List.splitOn_eq_singleton h]
  split <;> rfl

/-- The words of a line are the same with its newline, which is a word behind them where newlines are
words. -/
theorem filterMap_bare?_ofLine_append (o : LexedOptions) {body : Text} (h : '\n' ∉ body) :
    (ofLine o (body ++ ['\n'])).filterMap bare? =
      (ofLine o body).filterMap bare? ++
        if o.newlines then [{ word := newlineMark, isNewline := true }] else [] := by
  have hgap : '\n' ∉ (Lexeme.scan none body).2 := by
    intro hm
    have hbody := (Lexeme.scan_spec none body).2.2
    exact h (hbody ▸ List.mem_append_right _ hm)
  rw [ofLine, Lexeme.ofLine, Lexeme.scan_append_newline, ofLine, Lexeme.ofLine]
  simp only [Lexeme.extend, List.filterMap_append]
  rw [filterMap_bare?_ofGap_append o hgap, filterMap_bare?_ofGap o hgap, List.append_nil]

/-- The words of a text without newlines are those of its only line. -/
theorem filterMap_bare?_ofText (o : LexedOptions) {body : Text} (h : '\n' ∉ body) :
    (ofText o body).filterMap bare? = (ofLine o body).filterMap bare? := by
  cases body with
  | nil =>
    rw [ofLine, Lexeme.ofLine, Lexeme.scan_of_blank none (List.forall_mem_nil _)]
    exact (filterMap_bare?_ofGap o h).symm
  | cons c rest =>
    rw [ofText, Text.lines_eq_singleton h (List.cons_ne_nil c rest), List.flatMap_singleton]

end LinePart

/-- Tokens of texts are made line by line: those of a text behind the end of a line stand behind those
in front, and a newline behind a line has tokens of its own. Without newlines a text has tokens that
are no newlines, and none only if it is white space. -/
structure LineTokens (newline : List Token) (tokens : Text → List Token) : Prop where
  append : ∀ t u : Text, t.EndsLine → tokens (t ++ u) = tokens t ++ tokens u
  newline : ∀ body : Text, '\n' ∉ body → tokens (body ++ ['\n']) = tokens body ++ newline
  isNewline_eq_false : ∀ body : Text, '\n' ∉ body → ∀ t ∈ tokens body, t.isNewline = false
  eq_nil_iff : ∀ body : Text, '\n' ∉ body → (tokens body = [] ↔ ∀ c ∈ body, isBlank c = true)

/-- The tokens of running text are made line by line. -/
theorem LexedOptions.lineTokens (o : LexedOptions) :
    LineTokens (if o.newlines then [{ word := newlineMark, isNewline := true }] else [])
      fun t => (o.tokensOf t).map Token.bare where
  append t u h := o.map_bare_tokensOf_append h u
  newline body h := by
    rw [map_bare_tokensOf, map_bare_tokensOf, LinePart.filterMap_bare?_ofText o h,
      ← LinePart.filterMap_bare?_ofLine_append o h, LinePart.ofText, Text.lines_append_cons h]
    simp
  isNewline_eq_false body h t ht := by
    rw [map_bare_tokensOf] at ht
    obtain ⟨p, hp, hpt⟩ := List.mem_filterMap.1 ht
    cases LinePart.proper_ofText o body p hp with
    | space _ => simp [LinePart.bare?] at hpt
    | word _ _ _ => rw [← Option.some.inj hpt]
    | newline _ =>
      have hmem : '\n' ∈ (LinePart.ofText o body).flatMap LinePart.chars :=
        List.mem_flatMap.2 ⟨_, hp, by simp [LinePart.chars]⟩
      rw [LinePart.chars_ofText] at hmem
      exact absurd hmem h
  eq_nil_iff body h := by
    rw [map_bare_tokensOf]
    exact LinePart.filterMap_bare?_ofText_eq_nil_iff fun _ => h

namespace SpacedSource

theorem tokensOf_of_not_mem (newlines : Bool) {body : Text} (h : '\n' ∉ body) :
    tokensOf newlines body = (Text.words body).map ofWord := by
  have hlast : body.getLast? ≠ some '\n' := fun hl => h (List.mem_of_getLast? hl)
  simp [tokensOf_eq, hlast]

theorem flatMap_lines_of_not_mem (newlines : Bool) {body : Text} (h : '\n' ∉ body) :
    (Text.lines body).flatMap (tokensOf newlines) = (Text.words body).map ofWord := by
  cases body with
  | nil => rfl
  | cons c rest =>
    rw [Text.lines_eq_singleton h (List.cons_ne_nil c rest), List.flatMap_singleton,
      tokensOf_of_not_mem newlines h]

theorem tokensOf_append_newline (newlines : Bool) (body : Text) :
    tokensOf newlines (body ++ ['\n']) =
      (Text.words body).map ofWord ++ if newlines then [newline] else [] := by
  simp [tokensOf_eq, Text.words_append_newline]

/-- The tokens of tokenized text are made line by line. -/
theorem lineTokens (newlines : Bool) :
    LineTokens (if newlines then [newline.bare] else [])
      fun t => ((Text.lines t).flatMap (tokensOf newlines)).map Token.bare where
  append t u h := by rw [Text.lines_append h, List.flatMap_append, List.map_append]
  newline body h := by
    rw [Text.lines_append_cons h, Text.lines, Cutting.behind, List.flatMap_singleton,
      tokensOf_append_newline, flatMap_lines_of_not_mem newlines h, List.map_append]
    split <;> rfl
  isNewline_eq_false body h t ht := by
    rw [flatMap_lines_of_not_mem newlines h, List.map_map] at ht
    obtain ⟨w, -, rfl⟩ := List.mem_map.1 ht
    rfl
  eq_nil_iff body h := by
    rw [flatMap_lines_of_not_mem newlines h, List.map_eq_nil_iff, List.map_eq_nil_iff,
      Text.words_eq_nil_iff]

end SpacedSource

end SentenceReader

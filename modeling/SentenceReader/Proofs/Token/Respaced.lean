import SentenceReader.Proofs.Token.LineEnd

/-! Texts in which some newlines give way to spaces. Where newlines are no tokens the words stay the
same, except that an abbreviation at the end of a line is one with its full stop if its line goes on
now. -/
namespace SentenceReader

namespace Text

/-- A text with spaces in place of some of its newlines. -/
def Respaced (t u : Text) : Prop := List.Forall₂ (fun c e => c = e ∨ c = '\n' ∧ e = ' ') t u

/-- What stands in front of the first newline of a text. -/
def firstLine (t : Text) : Text := t.takeWhile (· != '\n')

/-- What stands behind the last newline of a text. -/
def lastLine (t : Text) : Text := (t.reverse.takeWhile (· != '\n')).reverse

/-- The last lexeme of a line is the full stop of an abbreviation. -/
def EndsAbbreviated (line : Text) : Prop :=
  ∃ front l stop, (Lexeme.ofLine line).1 = front ++ [l, stop] ∧ Lexeme.abbreviates l stop = true

/-- An abbreviation at the end of one text is joined with its full stop if a space and the other text
are put behind. -/
def Joins (t u : Text) : Prop := EndsAbbreviated (lastLine t) ∧ (firstLine u).any (!isBlank ·) = true

/-- Somewhere a space in place of a newline joins an abbreviation with its full stop. -/
def JoinsAbbreviation (t u : Text) : Prop :=
  ∃ i, t[i]? = some '\n' ∧ u[i]? = some ' ' ∧ Joins (t.take i) (u.drop (i + 1))

instance (t u : Text) : Decidable (Respaced t u) :=
  inferInstanceAs (Decidable (List.Forall₂ _ t u))

theorem newline_not_mem_takeWhile (t : Text) : '\n' ∉ t.takeWhile (· != '\n') := by
  intro h
  have hp := List.all_eq_true.1 List.all_takeWhile _ h
  simp at hp

/-- A text is some lines and its last line. -/
theorem exists_append_lastLine (t : Text) :
    ∃ front : Text, front.EndsLine ∧ t = front ++ lastLine t ∧ '\n' ∉ lastLine t := by
  refine ⟨(t.reverse.dropWhile (· != '\n')).reverse, ?_, ?_, ?_⟩
  · cases hdrop : t.reverse.dropWhile (· != '\n') with
    | nil => exact .inl rfl
    | cons c rest =>
      have hc := List.head?_dropWhile_not (· != '\n') t.reverse
      refine .inr ?_
      rw [List.getLast?_reverse]
      simpa [hdrop] using hc
  · rw [lastLine, ← List.reverse_append, List.takeWhile_append_dropWhile, List.reverse_reverse]
  · rw [lastLine, List.mem_reverse]
    exact newline_not_mem_takeWhile t.reverse

/-- A text is its first line, and a newline and more if there is any. -/
theorem eq_firstLine_or (t : Text) :
    '\n' ∉ firstLine t ∧ (t = firstLine t ∨ ∃ later, t = firstLine t ++ '\n' :: later) := by
  refine ⟨newline_not_mem_takeWhile t, ?_⟩
  have happend := List.takeWhile_append_dropWhile (p := (· != '\n')) (l := t)
  cases hdrop : t.dropWhile (· != '\n') with
  | nil =>
    rw [hdrop, List.append_nil] at happend
    exact .inl happend.symm
  | cons c later =>
    have hc := List.head?_dropWhile_not (· != '\n') t
    simp only [hdrop, List.head?_cons] at hc
    obtain rfl : c = '\n' := by simpa using hc
    rw [hdrop] at happend
    exact .inr ⟨later, happend.symm⟩

/-- Whether a space or a newline stands at one place makes no difference to what is joined at another. -/
theorem joins_at_iff (front t u : Text) {i : Nat} (hi : i ≠ front.length) :
    ((front ++ '\n' :: t)[i]? = some '\n' ∧ (front ++ ' ' :: u)[i]? = some ' ' ∧
        Joins ((front ++ '\n' :: t).take i) ((front ++ ' ' :: u).drop (i + 1))) ↔
      ((front ++ '\n' :: t)[i]? = some '\n' ∧ (front ++ '\n' :: u)[i]? = some ' ' ∧
        Joins ((front ++ '\n' :: t).take i) ((front ++ '\n' :: u).drop (i + 1))) := by
  rcases Nat.lt_or_gt_of_ne hi with hlt | hgt
  · -- In front of the place both texts are the same, so that no space stands for a newline.
    have hnone : ∀ c, (front ++ '\n' :: t)[i]? = some '\n' → (front ++ c :: u)[i]? ≠ some ' ' := by
      intro c ht hu
      rw [List.getElem?_append_left hlt] at ht hu
      exact absurd (ht.symm.trans hu) (by decide)
    constructor
    · rintro ⟨ht, hu, -⟩
      exact absurd hu (hnone ' ' ht)
    · rintro ⟨ht, hu, -⟩
      exact absurd hu (hnone '\n' ht)
  · -- Behind it nothing is left of what stands there.
    obtain ⟨k, rfl⟩ := Nat.exists_eq_add_of_lt hgt
    have hget : ∀ c, (front ++ c :: u)[front.length + k + 1]? = u[k]? := by
      intro c
      have hk : front.length + k + 1 - front.length = k + 1 := by omega
      rw [List.getElem?_append_right (by omega), hk, List.getElem?_cons_succ]
    have hdrop : ∀ c, (front ++ c :: u).drop (front.length + k + 1 + 1) = u.drop (k + 1) := by
      intro c
      have hk : front.length + k + 1 + 1 - front.length = k + 1 + 1 := by omega
      rw [List.drop_append, List.drop_of_length_le (by omega), List.nil_append, hk, List.drop_succ_cons]
    rw [hget ' ', hget '\n', hdrop ' ', hdrop '\n']

/-- What is joined by some spaces is joined by the first of them or by the others. -/
theorem joinsAbbreviation_append_cons (front t u : Text) :
    JoinsAbbreviation (front ++ '\n' :: t) (front ++ ' ' :: u) ↔
      Joins front u ∨ JoinsAbbreviation (front ++ '\n' :: t) (front ++ '\n' :: u) := by
  constructor
  · rintro ⟨i, h⟩
    by_cases hi : i = front.length
    · subst hi
      left
      simpa using h.2.2
    · exact .inr ⟨i, (joins_at_iff front t u hi).1 h⟩
  · rintro (hj | ⟨i, h⟩)
    · exact ⟨front.length, by simp, by simp, by simpa using hj⟩
    · by_cases hi : i = front.length
      · simp [hi] at h
      · exact ⟨i, (joins_at_iff front t u hi).2 h⟩

end Text

namespace Lexeme

theorem joinStop_of_abbreviates (front : List Lexeme) {l stop : Lexeme}
    (h : abbreviates l stop = true) :
    joinStop (front ++ [l, stop]) = front ++ [{ l with raw := l.raw ++ stop.raw }] := by
  induction front with
  | nil => simp [joinStop, h]
  | cons first front ih =>
    rw [List.cons_append, joinStop_cons, ih, List.cons_append]
    intro m hm
    have hlength := congrArg List.length hm
    simp at hlength

theorem joinStop_eq_self {ls : List Lexeme}
    (h : ∀ front l stop, ls = front ++ [l, stop] → abbreviates l stop = false) :
    joinStop ls = ls := by
  induction ls with
  | nil => rfl
  | cons first ls ih =>
    rw [joinStop_cons, ih]
    · intro front l stop hls
      exact h (first :: front) l stop (by rw [hls, List.cons_append])
    · intro stop hls
      exact h [] first stop (by rw [hls, List.nil_append])

/-- Lexemes are other ones with the last abbreviation joined exactly if they end in one. -/
theorem joinStop_ne_self_iff {ls : List Lexeme} :
    joinStop ls ≠ ls ↔ ∃ front l stop, ls = front ++ [l, stop] ∧ abbreviates l stop = true := by
  constructor
  · intro hne
    by_contra hnone
    refine hne (joinStop_eq_self fun front l stop hls => ?_)
    rw [← Bool.not_eq_true]
    exact fun hl => hnone ⟨front, l, stop, hls, hl⟩
  · rintro ⟨front, l, stop, rfl, hl⟩ heq
    have hlength := congrArg List.length heq
    rw [joinStop_of_abbreviates front hl] at hlength
    simp at hlength

def words (o : LexedOptions) (l : Lexeme) : List Token :=
  (LinePart.ofRaw o l.raw l.opening).filterMap LinePart.bare?

/-- A lexeme without a clitic is a word. -/
theorem length_words_of_splitClitic? (o : LexedOptions) {l : Lexeme}
    (h : splitClitic? l.raw = none) : (l.words o).length = 1 := by
  rw [words, LinePart.ofRaw, h]
  rfl

/-- An abbreviation and its full stop are a word each, and one word together. -/
theorem length_words_of_abbreviates (o : LexedOptions) {l stop : Lexeme}
    (h : abbreviates l stop = true) :
    (l.words o).length = 1 ∧ (stop.words o).length = 1 ∧
      (words o { l with raw := l.raw ++ stop.raw }).length = 1 := by
  have hclitics : ∀ a ∈ abbreviations, splitClitic? a = none ∧ splitClitic? (a ++ ['.']) = none := by
    decide +kernel
  have hstop : splitClitic? ['.'] = none := by decide +kernel
  simp only [abbreviates, Bool.and_eq_true, beq_iff_eq, List.contains_iff_mem] at h
  obtain ⟨⟨ha, -⟩, hraw⟩ := h
  obtain ⟨halone, hjoined⟩ := hclitics _ ha
  refine ⟨length_words_of_splitClitic? o halone, ?_, ?_⟩
  · apply length_words_of_splitClitic?
    rw [hraw, hstop]
  · apply length_words_of_splitClitic?
    rw [hraw, hjoined]

/-- The words of lexemes and of those behind, put together. -/
theorem flatMap_words_follow (o : LexedOptions) (r s : List Lexeme × Text) :
    (follow r s).1.flatMap (words o) =
      (if s.1 = [] then r.1 else joinStop r.1).flatMap (words o) ++ s.1.flatMap (words o) := by
  obtain ⟨lexemes, left⟩ := s
  cases lexemes with
  | nil => simp [follow]
  | cons l later =>
    simp only [follow, List.flatMap_append, List.flatMap_cons, List.cons_ne_nil, if_false]
    rfl

theorem opensAfter_of_blank {gap : Text} (h : ∀ c ∈ gap, isBlank c = true) :
    opensAfter (gap.getLast? <|> none) = true := by
  cases hlast : gap.getLast? with
  | none => rfl
  | some c =>
    have hc := h c (List.mem_of_getLast? hlast)
    simp [opensAfter, hc]

/-- White space in front of a line changes no word in it. -/
theorem flatMap_words_scan_cons (o : LexedOptions) {d : Char} (hd : isBlank d = true) (t : Text) :
    (scan none (d :: t)).1.flatMap (words o) = (scan none t).1.flatMap (words o) := by
  have hdrop : (d :: t).dropWhile isBlank = t.dropWhile isBlank := List.dropWhile_cons_of_pos hd
  cases ht : t.dropWhile isBlank with
  | nil =>
    have hblank := List.dropWhile_eq_nil_iff.1 ht
    rw [scan_of_blank none hblank, scan_of_blank none (List.forall_mem_cons.2 ⟨hd, hblank⟩)]
  | cons c rest =>
    have hgap : ∀ u : Text, ∀ e ∈ u.takeWhile isBlank, isBlank e = true := fun u =>
      List.all_eq_true.1 List.all_takeWhile
    rw [scan_of_first none (hdrop.trans ht) rfl, scan_of_first none ht rfl,
      opensAfter_of_blank (hgap _), opensAfter_of_blank (hgap _)]
    rfl

end Lexeme

namespace Text

instance (line : Text) : Decidable (EndsAbbreviated line) :=
  decidable_of_iff _ Lexeme.joinStop_ne_self_iff

instance (t u : Text) : Decidable (Joins t u) := inferInstanceAs (Decidable (_ ∧ _))

instance (t u : Text) : Decidable (JoinsAbbreviation t u) :=
  decidable_of_iff (∃ i < t.length, t[i]? = some '\n' ∧ u[i]? = some ' ' ∧
    Joins (t.take i) (u.drop (i + 1))) <| by
    constructor
    · rintro ⟨i, -, h⟩
      exact ⟨i, h⟩
    · rintro ⟨i, ht, h⟩
      exact ⟨i, (List.getElem?_eq_some_iff.1 ht).1, ht, h⟩

example : JoinsAbbreviation "A\nMr. \nB".toList "A Mr.  B".toList := by decide +kernel
example : ¬JoinsAbbreviation "A\nMr. \n \nB".toList "A Mr.   \nB".toList := by decide +kernel

end Text

namespace LinePart

variable {o : LexedOptions} (hn : o.newlines = false)
include hn

/-- Where newlines are no words, the words of a line are those of its lexemes. -/
theorem filterMap_bare?_ofLine (line : Text) :
    (ofLine o line).filterMap bare? = (Lexeme.ofLine line).1.flatMap (Lexeme.words o) := by
  have hgap : ∀ gap, (ofGap o gap).filterMap bare? = [] := by
    intro gap
    rw [ofGap, hn]
    rfl
  simp only [ofLine, List.filterMap_append, List.filterMap_flatMap, hgap, List.append_nil,
    List.nil_append]
  rfl

/-- The words of two lines with a space between them, if nothing is joined by it. -/
theorem filterMap_bare?_ofLine_space {line t : Text}
    (h : line.EndsAbbreviated → t.any (!isBlank ·) = false) :
    (ofLine o (line ++ ' ' :: t)).filterMap bare? =
      (ofLine o line).filterMap bare? ++ (ofLine o t).filterMap bare? := by
  have hjoin : (if (Lexeme.scan none (' ' :: t)).1 = [] then (Lexeme.scan none line).1
      else Lexeme.joinStop (Lexeme.scan none line).1) = (Lexeme.scan none line).1 := by
    split
    · rfl
    · next hne =>
      apply Lexeme.joinStop_eq_self
      intro front l stop hls
      rw [← Bool.not_eq_true]
      intro hl
      rw [Lexeme.fst_scan_eq_nil_iff, List.any_cons, h ⟨front, l, stop, hls, hl⟩] at hne
      exact hne rfl
  rw [filterMap_bare?_ofLine hn, filterMap_bare?_ofLine hn, filterMap_bare?_ofLine hn]
  simp only [Lexeme.ofLine]
  rw [Lexeme.scan_append isBlank_space, Lexeme.flatMap_words_follow, hjoin,
    Lexeme.flatMap_words_scan_cons o isBlank_space]

/-- Two lines with a space between them have a word less if it joins an abbreviation with its full
stop. -/
theorem length_filterMap_bare?_ofLine_space {line t : Text} (h : line.EndsAbbreviated)
    (ht : t.any (!isBlank ·) = true) :
    ((ofLine o (line ++ ' ' :: t)).filterMap bare?).length + 1 =
      ((ofLine o line).filterMap bare?).length + ((ofLine o t).filterMap bare?).length := by
  obtain ⟨front, l, stop, hls, hl⟩ := h
  have hne : (Lexeme.scan none (' ' :: t)).1 ≠ [] := by
    rw [Ne, Lexeme.fst_scan_eq_nil_iff, List.any_cons, ht, Bool.or_true]
    exact Bool.noConfusion
  obtain ⟨hword, hstop, hjoined⟩ := Lexeme.length_words_of_abbreviates o hl
  rw [filterMap_bare?_ofLine hn, filterMap_bare?_ofLine hn, filterMap_bare?_ofLine hn, hls]
  simp only [Lexeme.ofLine] at hls ⊢
  rw [Lexeme.scan_append isBlank_space, Lexeme.flatMap_words_follow, if_neg hne, hls,
    Lexeme.joinStop_of_abbreviates front hl, Lexeme.flatMap_words_scan_cons o isBlank_space]
  simp only [List.flatMap_append, List.flatMap_cons, List.flatMap_nil, List.length_append,
    List.append_nil, hword, hstop, hjoined]
  omega

end LinePart

/-- Where newlines have no tokens, a newline parts the tokens in front of it from those behind. -/
theorem LineTokens.append_cons {tokens : Text → List Token} (h : LineTokens [] tokens) (t u : Text) :
    tokens (t ++ '\n' :: u) = tokens t ++ tokens u := by
  obtain ⟨front, hfront, ht, hline⟩ := t.exists_append_lastLine
  have hends : Text.EndsLine (front ++ (t.lastLine ++ ['\n'])) := by
    right
    rw [← List.append_assoc, List.getLast?_concat]
  calc tokens (t ++ '\n' :: u)
      = tokens ((front ++ (t.lastLine ++ ['\n'])) ++ u) := by
        rw [← List.append_assoc front, ← ht, List.append_assoc, List.singleton_append]
    _ = tokens front ++ tokens t.lastLine ++ tokens u := by
        rw [h.append _ u hends, h.append front _ hfront, h.newline _ hline, List.append_nil]
    _ = tokens t ++ tokens u := by rw [← h.append front _ hfront, ← ht]

namespace LexedOptions

theorem map_bare_tokensOf_line (o : LexedOptions) {line : Text} (h : '\n' ∉ line) :
    (o.tokensOf line).map Token.bare = (LinePart.ofLine o line).filterMap LinePart.bare? := by
  rw [map_bare_tokensOf, LinePart.filterMap_bare?_ofText o h]

variable {o : LexedOptions} (hn : o.newlines = false)
include hn

theorem lineTokens_of_no_newlines : LineTokens [] fun t => (o.tokensOf t).map Token.bare := by
  have h := o.lineTokens
  rwa [hn] at h

/-- Only the line in front of a newline and the one behind it have other tokens with a space in its
place. -/
theorem exists_tokens_around (front back : Text) :
    ∃ before behind,
      (o.tokensOf (front ++ '\n' :: back)).map Token.bare =
        before ++ ((LinePart.ofLine o front.lastLine).filterMap LinePart.bare? ++
          (LinePart.ofLine o back.firstLine).filterMap LinePart.bare?) ++ behind ∧
      (o.tokensOf (front ++ ' ' :: back)).map Token.bare =
        before ++ (LinePart.ofLine o (front.lastLine ++ ' ' :: back.firstLine)).filterMap LinePart.bare?
          ++ behind := by
  have hlines := lineTokens_of_no_newlines hn
  obtain ⟨lines, hends, hfront, hlast⟩ := front.exists_append_lastLine
  obtain ⟨hfirst, hback⟩ := back.eq_firstLine_or
  have hline : '\n' ∉ front.lastLine ++ ' ' :: back.firstLine := by
    rw [List.mem_append, List.mem_cons, not_or, not_or]
    exact ⟨hlast, by decide, hfirst⟩
  have htokens : (o.tokensOf front).map Token.bare = (o.tokensOf lines).map Token.bare ++
      (LinePart.ofLine o front.lastLine).filterMap LinePart.bare? := by
    rw [← map_bare_tokensOf_line o hlast, ← hlines.append lines _ hends, ← hfront]
  have hspace : (o.tokensOf (front ++ ' ' :: back.firstLine)).map Token.bare =
      (o.tokensOf lines).map Token.bare ++ (LinePart.ofLine o
        (front.lastLine ++ ' ' :: back.firstLine)).filterMap LinePart.bare? := by
    rw [← map_bare_tokensOf_line o hline, ← hlines.append lines _ hends, ← List.append_assoc, ← hfront]
  have hnewline := hlines.append_cons front back
  rcases hback with hback | ⟨later, hback⟩
  · refine ⟨(o.tokensOf lines).map Token.bare, [], ?_, ?_⟩
    · rw [hnewline, htokens, List.append_nil, List.append_assoc, ← map_bare_tokensOf_line o hfirst,
        ← hback]
    · rw [List.append_nil, ← hspace, ← hback]
  · refine ⟨(o.tokensOf lines).map Token.bare, (o.tokensOf later).map Token.bare, ?_, ?_⟩
    · have htail := hlines.append_cons back.firstLine later
      rw [← hback] at htail
      rw [hnewline, htokens, htail, map_bare_tokensOf_line o hfirst]
      simp only [List.append_assoc]
    · have htail := hlines.append_cons (front ++ ' ' :: back.firstLine) later
      rw [List.append_assoc, List.cons_append, ← hback] at htail
      rw [htail, hspace]

/-- A space in place of a newline changes no token if it joins nothing. -/
theorem map_bare_tokensOf_space {front back : Text} (h : ¬Text.Joins front back) :
    (o.tokensOf (front ++ ' ' :: back)).map Token.bare =
      (o.tokensOf (front ++ '\n' :: back)).map Token.bare := by
  obtain ⟨before, behind, hnewline, hspace⟩ := exists_tokens_around hn front back
  have hends : front.lastLine.EndsAbbreviated → back.firstLine.any (!isBlank ·) = false := by
    intro hline
    rw [← Bool.not_eq_true]
    exact fun hany => h ⟨hline, hany⟩
  rw [hspace, hnewline, LinePart.filterMap_bare?_ofLine_space hn hends]

/-- A space in place of a newline leaves a token less if it joins an abbreviation with its full stop. -/
theorem length_tokensOf_space {front back : Text} (h : Text.Joins front back) :
    (o.tokensOf (front ++ ' ' :: back)).length + 1 =
      (o.tokensOf (front ++ '\n' :: back)).length := by
  obtain ⟨before, behind, hnewline, hspace⟩ := exists_tokens_around hn front back
  have hline := LinePart.length_filterMap_bare?_ofLine_space hn h.1 h.2
  have hlengths := congrArg List.length hnewline
  have hlengths' := congrArg List.length hspace
  simp only [List.length_map, List.length_append] at hlengths hlengths' hline ⊢
  omega

/-- The tokens of a text with spaces in place of some newlines are the same, or fewer if an
abbreviation is joined with its full stop. -/
theorem tokensOf_respaced {t u : Text} (h : Text.Respaced t u) (front : Text) :
    (Text.JoinsAbbreviation (front ++ t) (front ++ u) →
        (o.tokensOf (front ++ u)).length < (o.tokensOf (front ++ t)).length) ∧
      (¬Text.JoinsAbbreviation (front ++ t) (front ++ u) →
        (o.tokensOf (front ++ u)).map Token.bare = (o.tokensOf (front ++ t)).map Token.bare) := by
  -- The newlines give way one by one, the last one first: the text in front of each is as it was.
  induction h generalizing front with
  | nil =>
    refine ⟨?_, fun _ => rfl⟩
    rintro ⟨i, ht, hu, -⟩
    exact absurd (ht.symm.trans hu) (by decide)
  | @cons c e t u hce _ ih =>
    rcases hce with rfl | ⟨rfl, rfl⟩
    · have hlater := ih (front ++ [c])
      rwa [List.append_assoc, List.append_assoc] at hlater
    · obtain ⟨hfewer, hsame⟩ := ih (front ++ ['\n'])
      rw [List.append_assoc, List.append_assoc] at hfewer hsame
      change Text.JoinsAbbreviation (front ++ '\n' :: t) (front ++ '\n' :: u) → _ at hfewer
      change ¬Text.JoinsAbbreviation (front ++ '\n' :: t) (front ++ '\n' :: u) → _ at hsame
      rw [Text.joinsAbbreviation_append_cons]
      by_cases hj : Text.Joins front u
      · have hle : (o.tokensOf (front ++ '\n' :: u)).length ≤
            (o.tokensOf (front ++ '\n' :: t)).length := by
          by_cases hl : Text.JoinsAbbreviation (front ++ '\n' :: t) (front ++ '\n' :: u)
          · exact (hfewer hl).le
          · have hlengths := congrArg List.length (hsame hl)
            simp only [List.length_map] at hlengths
            exact hlengths.le
        have hless := length_tokensOf_space hn hj
        exact ⟨fun _ => by omega, fun hnot => absurd (.inl hj) hnot⟩
      · have hspace := map_bare_tokensOf_space hn hj
        have hlengths := congrArg List.length hspace
        simp only [List.length_map] at hlengths
        constructor
        · intro hl
          rw [hlengths]
          exact hfewer (hl.resolve_left hj)
        · intro hnot
          rw [hspace]
          exact hsame fun hl => hnot (.inr hl)

end LexedOptions

end SentenceReader

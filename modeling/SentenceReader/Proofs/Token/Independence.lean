import SentenceReader.Proofs.Token.Kept

/-! The options for tokens of running text, each of them on and off. Whether tokens keep their text,
whether newlines are tokens and how words are spelt has no influence on the other two, and none on
where the tokens are. -/
namespace SentenceReader

/-- A token in the spelling of its text, as far as it keeps it. A newline has its mark for a word. -/
def Token.unspelled (t : Token) : Token :=
  { t with word := if t.isNewline then newlineMark else t.source }

namespace LinePart

/-- A part in the spelling of its text. -/
def unspelled : LinePart → LinePart
  | space run => space run
  | word _ raw isNewline => word (if isNewline then newlineMark else raw) raw isNewline

theorem map_unspelled_ofGap (o : LexedOptions) (gap : Text) :
    (ofGap o gap).map unspelled = ofGap o gap := by
  unfold ofGap
  split
  · refine (List.map_congr_left fun p hp => ?_).trans (List.map_id _)
    rcases mem_ofBreaks hp with ⟨run, rfl⟩ | rfl
    · rfl
    · rfl
  · rfl

theorem map_unspelled_ofRaw (o : LexedOptions) (raw : Text) (opening : Bool) :
    (ofRaw o raw opening).map unspelled = ofRaw { o with escaping := false } raw opening := by
  unfold ofRaw
  cases Lexeme.splitClitic? raw with
  | none => rfl
  | some parts => rfl

/-- Where words are not escaped, the parts of a text are those that it has otherwise, in the spelling
of the text. -/
theorem map_unspelled_ofText (o : LexedOptions) (t : Text) :
    (ofText o t).map unspelled = ofText { o with escaping := false } t := by
  have hline : ∀ line, (ofLine o line).map unspelled = ofLine { o with escaping := false } line := by
    intro line
    simp only [ofLine, List.map_append, List.map_flatMap, map_unspelled_ofGap, map_unspelled_ofRaw]
    rfl
  rw [ofText, List.map_flatMap, ofText]
  exact List.flatMap_congr fun line _ => hline line

/-- The newlines among some parts are those of their characters, where white space has none. -/
theorem countP_isNewline {o : LexedOptions} {parts : List LinePart} (hp : ∀ p ∈ parts, p.Proper o)
    (hs : ∀ run, space run ∈ parts → '\n' ∉ run) :
    (parts.filterMap bare?).countP Token.isNewline = (parts.flatMap chars).count '\n' := by
  induction parts with
  | nil => rfl
  | cons p parts ih =>
    obtain ⟨hhead, hrest⟩ := List.forall_mem_cons.1 hp
    have hcount := ih hrest fun run hrun => hs run (List.mem_cons_of_mem p hrun)
    rw [List.flatMap_cons, List.count_append, ← hcount]
    cases hhead with
    | @space run _ =>
      rw [chars, List.count_eq_zero_of_not_mem (hs run List.mem_cons_self), Nat.zero_add]
      rfl
    | @word w raw _ hr _ =>
      have hn : '\n' ∉ raw := fun hm => absurd (hr.isBlank_eq_false '\n' hm) (by decide)
      rw [chars, List.count_eq_zero_of_not_mem hn, Nat.zero_add]
      rfl
    | newline _ =>
      have hmark : bare? (word newlineMark ['\n'] true) =
          some { word := newlineMark, isNewline := true } := rfl
      rw [List.filterMap_cons_some hmark, List.countP_cons_of_pos rfl, Nat.add_comm]
      rfl

def bareWords (parts : List LinePart) : List Token :=
  (parts.filterMap bare?).filter (!·.isNewline)

theorem bareWords_append (xs ys : List LinePart) :
    bareWords (xs ++ ys) = bareWords xs ++ bareWords ys := by
  rw [bareWords, List.filterMap_append, List.filter_append, bareWords, bareWords]

theorem bareWords_flatMap {ι : Type} (items : List ι) (parts : ι → List LinePart) :
    bareWords (items.flatMap parts) = items.flatMap fun i => bareWords (parts i) := by
  rw [bareWords, List.filterMap_flatMap, List.filter_flatMap]
  rfl

theorem bareWords_ofGap (o : LexedOptions) (gap : Text) : bareWords (ofGap o gap) = [] := by
  rw [bareWords, List.filter_eq_nil_iff]
  intro u hu
  obtain ⟨p, hp, hpu⟩ := List.mem_filterMap.1 hu
  unfold ofGap at hp
  split at hp
  · rcases mem_ofBreaks hp with ⟨run, rfl⟩ | rfl
    · simp [bare?] at hpu
    · simp [← Option.some.inj hpu]
  · rw [List.mem_singleton] at hp
    simp [hp, bare?] at hpu

/-- Words that are no newlines are the same whether newlines are words or not. -/
theorem bareWords_ofText (o : LexedOptions) (newlines : Bool) (t : Text) :
    bareWords (ofText { o with newlines } t) = bareWords (ofText o t) := by
  have hline : ∀ line, bareWords (ofLine { o with newlines } line) = bareWords (ofLine o line) := by
    intro line
    simp only [ofLine, bareWords_append, bareWords_flatMap, bareWords_ofGap]
    rfl
  rw [ofText, bareWords_flatMap, ofText, bareWords_flatMap]
  exact List.flatMap_congr fun line _ => hline line

end LinePart

namespace OpenToken

/-- Tokens that keep nothing are the words of their parts and no more. -/
theorem tokens_of_not_invertible {o : LexedOptions} (hi : o.invertible = false) (s : OpenToken)
    (parts : List LinePart) :
    s.tokens o parts = s.last.toList ++ parts.filterMap LinePart.bare? := by
  have hclose : ∀ s : OpenToken, s.close o = s.last.toList := by
    intro s
    cases h : s.last <;> simp [close, h, hi]
  induction parts generalizing s with
  | nil => rw [tokens_nil, hclose, List.filterMap_nil, List.append_nil]
  | cons p rest ih =>
    cases p with
    | space run =>
      rw [tokens_space, hi, if_neg Bool.false_ne_true, ih]
      rfl
    | word w raw isNewline =>
      rw [tokens_word, hclose, ih, token, hi, if_neg Bool.false_ne_true]
      rfl

/-- Parts in the spelling of their text make the tokens in that spelling. -/
theorem map_unspelled_tokens {o : LexedOptions} (hi : o.invertible = true) (s : OpenToken)
    (parts : List LinePart) :
    (s.tokens o parts).map Token.unspelled =
      OpenToken.tokens { o with escaping := false } ⟨s.last.map Token.unspelled, s.runs⟩
        (parts.map LinePart.unspelled) := by
  have hclose : ∀ s : OpenToken, (s.close o).map Token.unspelled =
      OpenToken.close { o with escaping := false } ⟨s.last.map Token.unspelled, s.runs⟩ := by
    intro s
    cases h : s.last with
    | none => simp [close, h]
    | some t => simp [close, h, hi, Token.unspelled, Token.source, gap]
  induction parts generalizing s with
  | nil => rw [tokens_nil, List.map_nil, tokens_nil, hclose]
  | cons p rest ih =>
    cases p with
    | space run =>
      rw [tokens_space, hi, if_pos rfl, ih, List.map_cons, LinePart.unspelled, tokens_space]
      simp only [hi, if_true]
    | word w raw isNewline =>
      rw [tokens_word, List.map_append, hclose, ih, List.map_cons, LinePart.unspelled, tokens_word]
      simp [token, hi, Token.unspelled, Token.source, gap]

end OpenToken

namespace LexedOptions

variable (o : LexedOptions) (t : Text)

theorem map_bare_tokensOf_invertible :
    (tokensOf { o with invertible := true } t).map Token.bare =
      tokensOf { o with invertible := false } t := by
  rw [map_bare_tokensOf, tokensOf, OpenToken.tokens_of_not_invertible rfl]
  rfl

theorem countP_isNewline_tokensOf :
    (tokensOf { o with newlines := true } t).countP Token.isNewline = t.count '\n' := by
  have hspace : ∀ run, LinePart.space run ∈ LinePart.ofText { o with newlines := true } t →
      '\n' ∉ run := fun run hrun hc => (LinePart.isGap_of_mem_ofText hrun '\n' hc).2 rfl rfl
  have hcount := LinePart.countP_isNewline (LinePart.proper_ofText _ t) hspace
  rw [LinePart.chars_ofText, ← map_bare_tokensOf, List.countP_map] at hcount
  exact hcount

theorem map_bare_filter_tokensOf :
    ((tokensOf { o with newlines := true } t).filter (!·.isNewline)).map Token.bare =
      (tokensOf { o with newlines := false } t).map Token.bare := by
  have hnone : ∀ u ∈ (tokensOf { o with newlines := false } t).map Token.bare,
      (!u.isNewline) = true := by
    intro u hu
    obtain ⟨v, hv, rfl⟩ := List.mem_map.1 hu
    rcases word_of_mem_tokensOf hv with ⟨h, -⟩ | ⟨-, -, h⟩
    · simpa [Token.bare] using h
    · exact Bool.noConfusion h
  have hwords := LinePart.bareWords_ofText { o with newlines := false } true t
  simp only [LinePart.bareWords, ← map_bare_tokensOf] at hwords
  rw [List.filter_eq_self.2 hnone, List.filter_map] at hwords
  exact hwords

theorem map_unspelled_tokensOf :
    (tokensOf { o with escaping := true, invertible := true } t).map Token.unspelled =
      tokensOf { o with escaping := false, invertible := true } t := by
  rw [tokensOf, OpenToken.map_unspelled_tokens rfl, LinePart.map_unspelled_ofText]
  rfl

/-- Without escaping the words are the characters that tokens keep with it. Only newlines have their
mark for a word. -/
theorem map_word_tokensOf_plain :
    (tokensOf { o with escaping := false } t).map (fun u => some u.word) =
      (tokensOf { o with escaping := true, invertible := true } t).map fun u =>
        if u.isNewline then some newlineMark else u.raw := by
  have hword : ∀ o : LexedOptions, (tokensOf o t).map (fun u => some u.word) =
      ((LinePart.ofText o t).filterMap LinePart.bare?).map fun u => some u.word := by
    intro o
    rw [← map_bare_tokensOf, List.map_map]
    rfl
  have hplain : (tokensOf { o with escaping := false } t).map (fun u => some u.word) =
      (tokensOf { o with escaping := false, invertible := true } t).map fun u => some u.word := by
    rw [hword, hword]
    rfl
  rw [hplain, ← map_unspelled_tokensOf, List.map_map]
  refine List.map_congr_left fun u hu => ?_
  obtain ⟨raw, hraw⟩ := Option.isSome_iff_exists.1 (raw_isSome_of_mem_tokensOf rfl u hu)
  simp only [Function.comp_apply, Token.unspelled, Token.source, hraw, Option.getD_some]
  split <;> rfl

/-- The place of a token in its text: its characters, and the white space on both sides. -/
theorem map_place_tokensOf_plain :
    (tokensOf { o with escaping := false, invertible := true } t).map
        (fun u => (u.before, u.raw, u.after)) =
      (tokensOf { o with escaping := true, invertible := true } t).map
        fun u => (u.before, u.raw, u.after) := by
  rw [← map_unspelled_tokensOf, List.map_map]
  rfl

theorem raw_of_isNewline {o : LexedOptions} (hi : o.invertible = true) {t : Text} {u : Token}
    (hu : u ∈ o.tokensOf t) (hn : u.isNewline = true) : u.raw = some ['\n'] := by
  obtain ⟨raw, hraw, -, hchars⟩ := (keeps_of_mem_tokensOf hi t u hu).raw
  rw [hn, if_pos rfl] at hchars
  rw [hraw, hchars]

/-- Each option for the tokens of a text has its own effect and no other. Tokens that keep their text
are the same as those that do not, but for what they keep. Newlines are as many tokens as the text has
newlines, and without these the words are the same. Escaping changes how words are spelt, but not
where they begin and end: the words are the characters of the tokens without it, and newlines have
their mark for a word in either case. -/
theorem options_independent {stream : TextStream} (hst : stream.Steady) :
    (∀ written o, read written = .ok o →
      ∃ s, TokenSource.ofText stream written = .ok s ∧ s.Gives (o.tokensOf stream.rest)) ∧
    ∀ o : LexedOptions,
      (tokensOf { o with invertible := true } stream.rest).map Token.bare =
        tokensOf { o with invertible := false } stream.rest ∧
      ((tokensOf { o with newlines := true } stream.rest).countP Token.isNewline =
          stream.rest.count '\n' ∧
        ((tokensOf { o with newlines := true } stream.rest).filter (!·.isNewline)).map Token.word =
          (tokensOf { o with newlines := false } stream.rest).map Token.word) ∧
      ((tokensOf { o with escaping := false } stream.rest).map (fun u => some u.word) =
          (tokensOf { o with escaping := true, invertible := true } stream.rest).map (fun u =>
            if u.isNewline then some newlineMark else u.raw) ∧
        (tokensOf { o with escaping := false, invertible := true } stream.rest).map
            (fun u => (u.before, u.raw, u.after)) =
          (tokensOf { o with escaping := true, invertible := true } stream.rest).map
            (fun u => (u.before, u.raw, u.after)) ∧
        ∀ u ∈ tokensOf { o with escaping := true, invertible := true } stream.rest,
          u.isNewline = true → u.raw = some ['\n']) := by
  constructor
  · intro written o ho
    exact ⟨.lexed { stream, options := o }, by rw [TokenSource.ofText, ho]; rfl,
      TokenSource.gives_coming hst⟩
  · intro o
    have hwords := congrArg (List.map Token.word) (map_bare_filter_tokensOf o stream.rest)
    rw [Token.map_word_bare, Token.map_word_bare] at hwords
    exact ⟨map_bare_tokensOf_invertible o _, ⟨countP_isNewline_tokensOf o _, hwords⟩,
      map_word_tokensOf_plain o _, map_place_tokensOf_plain o _,
      fun u hu => raw_of_isNewline rfl hu⟩

/-- A bracket and quotes are escaped, an ending is parted from its stem, and a line is empty. -/
theorem options_independent_of_text :
    let stream := TextStream.ofText "\"(It's\"\n\n “so” ".toList
    stream.Steady ∧
      (∃ s ts, TokenSource.ofText stream "tokenizeNLs, invertible=off".toList = .ok s ∧ s.Gives ts ∧
        ts.map Token.word =
          ["\x60\x60", "-LRB-", "It", "'s", "''", "*NL*", "*NL*", "\x60\x60", "so", "''"].map
            String.toList ∧
        ts.countP Token.isNewline = 2) ∧
      ∃ s ts, TokenSource.ofText stream "ptb3Escaping=no".toList = .ok s ∧ s.Gives ts ∧
        ts.map Token.word = ["\"", "(", "It", "'s", "\"", "“", "so", "”"].map String.toList ∧
        ts.map (fun u => some u.word) =
          (tokensOf { invertible := true } stream.rest).map fun u =>
            if u.isNewline then some newlineMark else u.raw := by
  intro stream
  have hst : stream.Steady := TextStream.steady_ofText _
  obtain ⟨hread, hindependent⟩ := options_independent hst
  obtain ⟨-, ⟨hcount, -⟩, hwords, -⟩ := hindependent {}
  obtain ⟨s, hs, hg⟩ := hread "tokenizeNLs, invertible=off".toList { newlines := true } rfl
  obtain ⟨s', hs', hg'⟩ := hread "ptb3Escaping=no".toList { escaping := false } rfl
  exact ⟨hst, ⟨s, _, hs, hg, by decide +kernel, hcount⟩, s', _, hs', hg', by decide +kernel, hwords⟩

/-- The mark of a newline is not the character that its token keeps. -/
theorem newline_spelt_as_mark :
    let stream := TextStream.ofText ['\n']
    stream.Steady ∧
      ∃ s s' xs ys, TokenSource.ofText stream "tokenizeNLs,ptb3Escaping=false".toList = .ok s ∧
        TokenSource.ofText stream "tokenizeNLs,ptb3Escaping=true,invertible=true".toList = .ok s' ∧
        s.Gives xs ∧ s'.Gives ys ∧ xs.map Token.word = [newlineMark] ∧
        ys.map Token.raw = [some ['\n']] ∧ xs.map (fun u => some u.word) ≠ ys.map Token.raw := by
  intro stream
  have hst : stream.Steady := TextStream.steady_ofText _
  exact ⟨hst, .lexed { stream, options := { newlines := true, escaping := false } },
    .lexed { stream, options := { newlines := true, invertible := true } }, _, _, rfl, rfl,
    TokenSource.gives_coming hst, TokenSource.gives_coming hst, by decide +kernel, by decide +kernel,
    by decide +kernel⟩

end LexedOptions

end SentenceReader

import Mathlib.Data.List.Forall2
import SentenceReader.Proofs.Sentence.Growing
import SentenceReader.Proofs.Sentence.Respaced
import SentenceReader.Proofs.Token.Independence

/-! Sentences of running text whose words are escaped, and of the same text as it is written. Where
sentences end is found by the spelling of words, and of the marks that follow the end of a sentence one
does so in its escaped spelling alone: the closing brace. -/
namespace SentenceReader

def closingBrace : Text := ['\x7d']

namespace LinePart

/-- Neither the stem of a word nor its ending is a brace. -/
theorem splitClitic?_ne_closingBrace {raw stem ending : Text}
    (h : Lexeme.splitClitic? raw = some (stem, ending)) :
    stem ≠ closingBrace ∧ ending ≠ closingBrace := by
  unfold Lexeme.splitClitic? at h
  obtain ⟨known, hm, hk⟩ := List.exists_of_findSome?_eq_some h
  dsimp only at hk
  split at hk
  · next hc =>
    simp only [Bool.and_eq_true] at hc
    simp only [Option.some.injEq, Prod.mk.injEq] at hk
    obtain ⟨rfl, rfl⟩ := hk
    constructor
    · intro hstem
      have hword := hc.1.2
      rw [hstem] at hword
      exact absurd hword (by decide +kernel)
    · intro hending
      have hlong : ∀ e ∈ Lexeme.clitics, e.length ≠ 1 := by decide
      have hlength := length_of_isClitic hc.2
      rw [hending] at hlength
      exact hlong known hm hlength.symm
  · simp at hk

/-- The words of a text are spelt as lexemes are, or they are the stem or the ending of one. -/
theorem word_of_mem_ofText {o : LexedOptions} {t w raw : Text}
    (h : word w raw false ∈ ofText o t) :
    (∃ opening, w = spell o raw opening) ∨ w = raw ∧ raw ≠ closingBrace := by
  have hraw : ∀ lexeme opening, word w raw false ∈ ofRaw o lexeme opening →
      (∃ opening, w = spell o raw opening) ∨ w = raw ∧ raw ≠ closingBrace := by
    intro lexeme opening h
    unfold ofRaw at h
    split at h
    · next stem ending hs =>
      obtain ⟨hstem, hending⟩ := splitClitic?_ne_closingBrace hs
      simp only [List.mem_cons, word.injEq, and_true, List.not_mem_nil, or_false] at h
      rcases h with ⟨rfl, rfl⟩ | ⟨rfl, rfl⟩
      · exact .inr ⟨rfl, hstem⟩
      · exact .inr ⟨rfl, hending⟩
    · simp only [List.mem_singleton, word.injEq, and_true] at h
      obtain ⟨rfl, rfl⟩ := h
      exact .inl ⟨opening, rfl⟩
  have hgap : ∀ gap, word w raw false ∉ ofGap o gap := by
    intro gap h
    unfold ofGap at h
    split at h
    · rcases mem_ofBreaks h with ⟨run, hrun⟩ | hrun
      · exact LinePart.noConfusion hrun
      · simp at hrun
    · simp at h
  obtain ⟨line, -, h⟩ := List.mem_flatMap.1 h
  rw [ofLine, List.mem_append, List.mem_flatMap] at h
  rcases h with ⟨l, -, h⟩ | h
  · rcases List.mem_append.1 h with h | h
    · exact absurd h (hgap l.gap)
    · exact hraw l.raw l.opening h
  · exact absurd h (hgap _)

/-- The marks that have a spelling of their own wherever they stand, with this spelling. -/
def spellings : List (Text × Text) :=
  (['“'], Treebank.openQuote) :: (['”'], Treebank.closeQuote) :: Treebank.brackets

/-- Apart from straight double quotes, a lexeme is one of these marks or its own spelling. -/
theorem spell_eq_or_mem_spellings (o : LexedOptions) {raw : Text} (hq : raw ≠ ['"'])
    (opening : Bool) :
    (spell { o with escaping := true } raw opening = raw ∧ raw ≠ closingBrace) ∨
      (raw, spell { o with escaping := true } raw opening) ∈ spellings := by
  simp only [spell, Bool.not_true, Bool.false_eq_true, if_false, if_neg hq]
  split
  · next h =>
    subst h
    exact .inr List.mem_cons_self
  · split
    · next h =>
      subst h
      exact .inr (List.mem_cons_of_mem _ List.mem_cons_self)
    · rcases Treebank.escapeWord_cases raw with hb | ⟨hw, hno⟩
      · exact .inr (List.mem_cons_of_mem _ (List.mem_cons_of_mem _ hb))
      · refine .inl ⟨hw, ?_⟩
        rintro rfl
        exact hno "-RCB-".toList (by decide)

end LinePart

namespace SentenceRules

/-- A token in its written and in its escaped spelling. Both are the same to the rules, but for a
closing brace: it follows the end of a sentence only where it is escaped. -/
inductive Respelt (r : SentenceRules) (t u : Token) : Prop
  | alike (word : t.word ≠ closingBrace) (ends : r.ends u = r.ends t)
      (follows : r.follows u = r.follows t) (isContent : r.isContent u = r.isContent t)
  | brace (word : t.word = closingBrace) (ends : r.ends t = false) (ends' : r.ends u = false)
      (follows : r.follows t = false) (follows' : r.follows u = true)
      (isContent : r.isContent t = true) (isContent' : r.isContent u = true)

/-- No closing brace stands right behind the end of a sentence, where some tokens are seen already,
the nearest first. -/
def BracesWithin (delimiters followers : List Text) (seen ts : List Token) : Prop :=
  ∀ front t later, ts = front ++ t :: later → t.word = closingBrace →
    closes delimiters followers (front.reverse ++ seen) = false

theorem bracesWithin_nil (delimiters followers : List Text) (seen : List Token) :
    BracesWithin delimiters followers seen [] := by
  intro front t later h
  simp at h

theorem bracesWithin_cons {delimiters followers : List Text} {seen ts : List Token} {t : Token} :
    BracesWithin delimiters followers seen (t :: ts) ↔
      (t.word = closingBrace → closes delimiters followers seen = false) ∧
        BracesWithin delimiters followers (t :: seen) ts := by
  constructor
  · intro h
    refine ⟨h [] t ts rfl, fun front u later hts hu => ?_⟩
    have hclose := h (t :: front) u later (by rw [hts, List.cons_append]) hu
    rwa [List.reverse_cons, List.append_assoc, List.singleton_append] at hclose
  · rintro ⟨ht, hts⟩ front u later h hu
    cases front with
    | nil =>
      rw [List.nil_append, List.cons.injEq] at h
      exact ht (h.1 ▸ hu)
    | cons v front =>
      rw [List.cons_append, List.cons.injEq] at h
      rw [List.reverse_cons, List.append_assoc, List.singleton_append, ← h.1]
      exact hts front u later h.2 hu

/-- The flag of a sentence that is being collected, behind one token more. -/
theorem closes_cons_eq (r : SentenceRules) (seen : List Token) (t : Token) :
    closes r.delimiters r.followers (t :: seen) =
      if closes r.delimiters r.followers seen && !r.ends t && !r.follows t then false
      else closes r.delimiters r.followers seen || r.ends t := by
  rw [isCut_eq]
  split
  · next h => exact closes_of_isCut h
  · next h => exact closes_of_not_isCut (Bool.eq_false_iff.2 h)

section Collecting

variable {r : SentenceRules} (hf : r.followers.isEmpty = false) (ht : r.tagDelimiter = none)
include hf ht

/-- One token more: it begins a sentence behind a cut, or else it goes to the one that was begun. -/
theorem collect_cons_of_followers (taken : List Token) (ended : Bool) (t : Token) (ts : List Token) :
    r.collect taken ended (t :: ts) =
      if ended && !r.ends t && !r.follows t then taken.reverse :: r.collect [t] false ts
      else r.collect (if r.isContent t then t :: taken else taken) (ended || r.ends t) ts := by
  have hmark : r.mark t = t := congrArg (Tagged.mark · t) ht
  simp only [collect, hmark, hf, Bool.and_false, Bool.false_eq_true, if_false]

/-- The sentences of two spellings have the same lengths exactly if no closing brace stands right
behind the end of a sentence. Up to such a brace both go on alike. There the written text begins a
sentence, while the escaped one extends the sentence that was begun. -/
theorem map_length_collect_iff {xs ys : List Token} (h : List.Forall₂ r.Respelt xs ys)
    {taken taken' : List Token} (hl : taken.length = taken'.length) (seen : List Token) :
    (r.collect taken (closes r.delimiters r.followers seen) xs).map List.length =
        (r.collect taken' (closes r.delimiters r.followers seen) ys).map List.length ↔
      BracesWithin r.delimiters r.followers seen xs := by
  induction h generalizing taken taken' seen with
  | nil =>
    have hempty : taken.isEmpty = taken'.isEmpty := by
      rw [Bool.eq_iff_iff, List.isEmpty_iff_length_eq_zero, List.isEmpty_iff_length_eq_zero, hl]
    simp only [collect, hempty, bracesWithin_nil, iff_true]
    split
    · rfl
    · simp [hl]
  | @cons x y xs ys hxy _ ih =>
    have hflag := closes_cons_eq r seen x
    rw [bracesWithin_cons, collect_cons_of_followers hf ht, collect_cons_of_followers hf ht]
    cases hxy with
    | alike hword hends hfollows hcontent =>
      have hword' : (x.word = closingBrace → closes r.delimiters r.followers seen = false) :=
        fun h => absurd h hword
      rw [hends, hfollows, hcontent, and_iff_right hword']
      split
      · next hcut =>
        rw [if_pos hcut] at hflag
        have hnext := @ih [x] [y] rfl (x :: seen)
        rw [hflag] at hnext
        simp [hl, hnext]
      · next hcut =>
        rw [if_neg hcut] at hflag
        rw [← hflag]
        refine ih ?_ (x :: seen)
        split <;> simp [hl]
    | brace hword hends hends' hfollows hfollows' hcontent hcontent' =>
      rw [hends, hfollows, Bool.not_false, Bool.and_true, Bool.and_true, Bool.or_false] at hflag
      rw [hends, hends', hfollows, hfollows', hcontent, hcontent']
      cases hclose : closes r.delimiters r.followers seen with
      | false =>
        rw [hclose] at hflag
        have hlonger : (x :: taken).length = (y :: taken').length := by simp [hl]
        have hnext := ih hlonger (x :: seen)
        rw [hflag] at hnext
        simpa [hword] using hnext
      | true =>
        have hkept : ((y :: taken').isEmpty && !r.keepEmpty) = false := rfl
        obtain ⟨more, later, hextends⟩ := r.collect_extends hkept true ys
        constructor
        · intro hlengths
          -- The first sentence ends here as it is written, and takes the brace where it is escaped.
          have hfirst := congrArg List.head? hlengths
          simp [hextends] at hfirst
          omega
        · rintro ⟨hnever, -⟩
          exact Bool.noConfusion (hnever hword)

theorem map_length_sentences_iff {xs ys : List Token} (h : List.Forall₂ r.Respelt xs ys) :
    (r.sentences xs).map List.length = (r.sentences ys).map List.length ↔
      BracesWithin r.delimiters r.followers [] xs := by
  cases h with
  | nil => exact iff_of_true rfl (bracesWithin_nil _ _ _)
  | cons hxy h => exact map_length_collect_iff hf ht (.cons hxy h) rfl []

end Collecting

theorem Respelt.of_bare {r : SentenceRules} {t u : Token} (h : r.Respelt t.bare u.bare) :
    r.Respelt t u := by
  cases h with
  | alike word ends follows isContent => exact .alike word ends follows isContent
  | brace word ends ends' follows follows' isContent isContent' =>
    exact .brace word ends ends' follows follows' isContent isContent'

section Usual

variable {r : SentenceRules} (hd : r.delimiters = [['.'], ['?'], ['!']])
variable (hf : r.followers = closingMarks) (hn : r.newlineMark = SentenceReader.newlineMark)
include hd hf hn

/-- Of the marks with a spelling of their own only the closing brace is told apart by it. -/
theorem respelt_of_mem_spellings {raw w : Text} (h : (raw, w) ∈ LinePart.spellings) :
    r.Respelt { word := raw } { word := w } := by
  have hcontent : ∀ e ∈ LinePart.spellings,
      (!(Text.isBlankText e.1 || false || e.1 == SentenceReader.newlineMark)) = true ∧
        (!(Text.isBlankText e.2 || false || e.2 == SentenceReader.newlineMark)) = true := by decide
  have hends : ∀ e ∈ LinePart.spellings, [['.'], ['?'], ['!']].contains e.1 = false ∧
      [['.'], ['?'], ['!']].contains e.2 = false := by decide
  have hfollows : ∀ e ∈ LinePart.spellings,
      (e.1 ≠ closingBrace ∧ closingMarks.contains e.2 = closingMarks.contains e.1) ∨
        (e.1 = closingBrace ∧ closingMarks.contains e.1 = false ∧
          closingMarks.contains e.2 = true) := by decide
  obtain ⟨hc, hc'⟩ := hcontent _ h
  obtain ⟨he, he'⟩ := hends _ h
  rcases hfollows _ h with ⟨hb, hf'⟩ | ⟨hb, hf', hf''⟩
  · refine .alike hb ?_ ?_ ?_
    · simp only [ends, hd, he, he']
    · simp only [follows, hf, hf']
    · simp only [isContent, hn, hc, hc']
  · refine .brace hb ?_ ?_ ?_ ?_ ?_ ?_
    · simp only [ends, hd, he]
    · simp only [ends, hd, he']
    · simp only [follows, hf, hf']
    · simp only [follows, hf, hf'']
    · simp only [isContent, hn, hc]
    · simp only [isContent, hn, hc']

/-- The tokens of a text without straight double quotes, as they are written and as they are
escaped. -/
theorem forall₂_respelt_tokensOf {o : LexedOptions} {t : Text} (hq : '"' ∉ t) :
    List.Forall₂ r.Respelt (LexedOptions.tokensOf { o with escaping := false } t)
      (LexedOptions.tokensOf { o with escaping := true } t) := by
  have hword : ∀ w raw n, LinePart.word w raw n ∈ LinePart.ofText { o with escaping := true } t →
      r.Respelt { word := if n then SentenceReader.newlineMark else raw, isNewline := n }
        { word := w, isNewline := n } := by
    intro w raw n hmem
    cases LinePart.proper_ofText _ t _ hmem with
    | newline _ => exact .alike (by decide) rfl rfl rfl
    | word _ _ _ =>
      rcases LinePart.word_of_mem_ofText hmem with ⟨opening, rfl⟩ | ⟨rfl, hb⟩
      · have hraw : raw ≠ ['"'] := by
          rintro rfl
          apply hq
          rw [← LinePart.chars_ofText { o with escaping := true } t]
          exact List.mem_flatMap.2 ⟨_, hmem, List.mem_singleton_self '"'⟩
        rcases LinePart.spell_eq_or_mem_spellings o hraw opening with ⟨hs, hb⟩ | hs
        · rw [hs]
          exact .alike hb rfl rfl rfl
        · exact respelt_of_mem_spellings hd hf hn hs
      · exact .alike hb rfl rfl rfl
  have hparts : ∀ parts : List LinePart,
      (∀ w raw n, LinePart.word w raw n ∈ parts →
        r.Respelt { word := if n then SentenceReader.newlineMark else raw, isNewline := n }
          { word := w, isNewline := n }) →
      List.Forall₂ r.Respelt ((parts.map LinePart.unspelled).filterMap LinePart.bare?)
        (parts.filterMap LinePart.bare?) := by
    intro parts h
    induction parts with
    | nil => exact .nil
    | cons p parts ih =>
      have hrest := ih fun w raw n hmem => h w raw n (List.mem_cons_of_mem p hmem)
      cases p with
      | space run => exact hrest
      | word w raw n => exact .cons (h w raw n List.mem_cons_self) hrest
  have hbare := hparts _ hword
  rw [LinePart.map_unspelled_ofText, ← LexedOptions.map_bare_tokensOf,
    ← LexedOptions.map_bare_tokensOf, List.forall₂_map_left_iff, List.forall₂_map_right_iff] at hbare
  exact hbare.imp fun _ _ => Respelt.of_bare

end Usual

end SentenceRules

namespace Segmenter

/-- With the usual delimiters, and without tags, the sentences of a text without straight double quotes
have as many tokens each where words are escaped as where they are not, exactly if no closing brace
stands right behind the end of a sentence. -/
theorem lengths_respelt_iff {c : Config} {o : LexedOptions} {plain escaped : Text}
    (hm : c.tokenizerMaker = none) (ht : c.tokenizer = .running)
    (hd : c.sentenceDelimiters = [['.'], ['?'], ['!']]) (hx : c.explicitDelimiter = none)
    (htag : c.tagDelimiter = none)
    (hplain : LexedOptions.read plain = .ok { o with escaping := false })
    (hescaped : LexedOptions.read escaped = .ok { o with escaping := true })
    {stream : TextStream} (hst : stream.Steady) (hq : '"' ∉ stream.rest) :
    ∃ s s' ts ss ss', (ofStream { c with tokenizerOptions := plain } stream).1 = .ok s ∧
      (ofStream { c with tokenizerOptions := escaped } stream).1 = .ok s' ∧ s.source.Gives ts ∧
      s.unescaped.Gives ss ∧ s'.unescaped.Gives ss' ∧
      s.Gives (ss.map s.escape) ∧ s'.Gives (ss'.map s'.escape) ∧
      (ss.map List.length = ss'.map List.length ↔
        ∀ front t later, ts = front ++ t :: later → t.word = closingBrace →
          SentenceRules.closes c.sentenceDelimiters SentenceRules.closingMarks front.reverse =
            false) := by
  have hs := ofStream_running_of_no_explicit (c := { c with tokenizerOptions := plain }) hm ht hplain hx
    stream
  have hs' := ofStream_running_of_no_explicit (c := { c with tokenizerOptions := escaped }) hm ht
    hescaped hx stream
  have hg := TokenSource.gives_coming
    (s := .lexed { stream, options := { o with escaping := false } }) hst
  have hg' := TokenSource.gives_coming
    (s := .lexed { stream, options := { o with escaping := true } }) hst
  refine ⟨_, _, _, _, _, hs, hs', hg, gives_unescaped hs hg, gives_unescaped hs' hg',
    gives_sentences hs hg, gives_sentences hs' hg', ?_⟩
  have hdelimiters : (runningRules c).delimiters = c.sentenceDelimiters := by
    simp [runningRules, SentenceRules.ofConfig, SentenceRules.delimitersOf, hx]
  have hfollowers : (runningRules c).followers = SentenceRules.closingMarks := by
    simp [runningRules, SentenceRules.ofConfig, SentenceRules.followersOf, hx]
  have hiff := SentenceRules.map_length_sentences_iff (r := runningRules c)
    (by rw [hfollowers]; rfl) htag
    (SentenceRules.forall₂_respelt_tokensOf (hdelimiters.trans hd) hfollowers rfl (o := o) hq)
  rw [SentenceRules.BracesWithin, hdelimiters, hfollowers] at hiff
  simp only [List.append_nil] at hiff
  exact hiff

/-- Braces within a sentence, and other marks behind the end of one. -/
theorem lengths_respelt_iff_of_text :
    let c : Config := { escaper := some .treebank }
    let plain := "ptb3Escaping=false".toList
    let escaped := "ptb3Escaping=true".toList
    let stream := TextStream.ofText "\x7b“A\x7d b.”) [C]!] D".toList
    (c.tokenizerMaker = none ∧ c.tokenizer = .running ∧ c.sentenceDelimiters = [['.'], ['?'], ['!']] ∧
        c.explicitDelimiter = none ∧ c.tagDelimiter = none ∧
        LexedOptions.read plain = .ok { escaping := false } ∧
        LexedOptions.read escaped = .ok { escaping := true } ∧ stream.Steady ∧ '"' ∉ stream.rest) ∧
      ∃ s s' ts ss ss', (ofStream { c with tokenizerOptions := plain } stream).1 = .ok s ∧
        (ofStream { c with tokenizerOptions := escaped } stream).1 = .ok s' ∧ s.source.Gives ts ∧
        s.unescaped.Gives ss ∧ s'.unescaped.Gives ss' ∧
        s.Gives (ss.map s.escape) ∧ s'.Gives (ss'.map s'.escape) ∧
        (∀ front t later, ts = front ++ t :: later → t.word = closingBrace →
          SentenceRules.closes c.sentenceDelimiters SentenceRules.closingMarks front.reverse =
            false) ∧
        ss.map List.length = [8, 5, 1] ∧ ss'.map List.length = [8, 5, 1] := by
  intro c plain escaped stream
  have hplain : LexedOptions.read plain = .ok { escaping := false } := rfl
  have hescaped : LexedOptions.read escaped = .ok { escaping := true } := rfl
  have hst : stream.Steady := TextStream.steady_ofText _
  have hq : '"' ∉ stream.rest := by decide
  obtain ⟨s, s', ts, ss, ss', hs, hs', ht, hg, hg', he, he', hiff⟩ :=
    lengths_respelt_iff (c := c) (o := {}) rfl rfl rfl rfl rfl hplain hescaped hst hq
  have hknown := ofStream_running_of_no_explicit (c := { c with tokenizerOptions := plain }) rfl rfl
    hplain rfl stream
  obtain rfl := Except.ok.inj (hknown.symm.trans hs)
  obtain rfl := hg.unique (gives_unescaped hs (TokenSource.gives_coming hst))
  have hknown' := ofStream_running_of_no_explicit (c := { c with tokenizerOptions := escaped }) rfl rfl
    hescaped rfl stream
  obtain rfl := Except.ok.inj (hknown'.symm.trans hs')
  obtain rfl := hg'.unique (gives_unescaped hs' (TokenSource.gives_coming hst))
  exact ⟨⟨rfl, rfl, rfl, rfl, rfl, hplain, hescaped, hst, hq⟩, _, _, ts, _, _, hs, hs', ht, hg, hg',
    he, he', hiff.1 (by decide +kernel), by decide +kernel, by decide +kernel⟩

/-- A closing brace behind a full stop is parted from the sentence that it closes. -/
theorem brace_parted_from_sentence :
    let c : Config := {}
    let plain := "ptb3Escaping=false".toList
    let escaped := "ptb3Escaping=true".toList
    let stream := TextStream.ofText "A.\x7d B".toList
    (c.issues = [] ∧ c.tokenizerMaker = none ∧ c.tokenizer = .running ∧
        c.sentenceDelimiters = [['.'], ['?'], ['!']] ∧ c.explicitDelimiter = none ∧
        c.tagDelimiter = none ∧ c.escaper = none ∧
        LexedOptions.read plain = .ok { escaping := false } ∧
        LexedOptions.read escaped = .ok { escaping := true } ∧ stream.Steady ∧ '"' ∉ stream.rest) ∧
      ∃ s s' ss ss', (ofStream { c with tokenizerOptions := plain } stream).1 = .ok s ∧
        (ofStream { c with tokenizerOptions := escaped } stream).1 = .ok s' ∧
        s.Gives ss ∧ s'.Gives ss' ∧
        ss.map (List.map Token.word) = [["A", "."], ["\x7d", "B"]].map (List.map String.toList) ∧
        ss'.map (List.map Token.word) = [["A", ".", "-RCB-"], ["B"]].map (List.map String.toList) ∧
        ss.map List.length ≠ ss'.map List.length := by
  intro c plain escaped stream
  have hplain : LexedOptions.read plain = .ok { escaping := false } := rfl
  have hescaped : LexedOptions.read escaped = .ok { escaping := true } := rfl
  have hst : stream.Steady := TextStream.steady_ofText _
  obtain ⟨s, hs, hg⟩ := gives_sentences_running (c := { c with tokenizerOptions := plain }) rfl rfl
    hplain rfl rfl hst
  obtain ⟨s', hs', hg'⟩ := gives_sentences_running (c := { c with tokenizerOptions := escaped }) rfl rfl
    hescaped rfl rfl hst
  refine ⟨⟨rfl, rfl, rfl, rfl, rfl, rfl, rfl, hplain, hescaped, hst, by decide⟩, s, s', _, _, hs, hs',
    hg, hg', ?_, ?_, ?_⟩ <;> decide +kernel

end Segmenter

end SentenceReader

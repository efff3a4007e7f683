import SentenceReader.Proofs.Token.Endings
import SentenceReader.Proofs.Token.Lossless
import SentenceReader.Proofs.Token.Spacing

/-! Lines as they are read: raw tokens with white space between them. Which raw tokens a line has
follows from the form of the rules alone, and the tokens that are given out are those of the raw
tokens. -/
namespace SentenceReader

namespace Lexeme

/-- A text as it is read: white space and a raw token that the first rule takes, as often as there is
one, and white space at the end. Each raw token comes with the white space in front of it. -/
inductive Reads : Text → List (Text × Text) → Text → Prop
  | blank {t : Text} (h : ∀ c ∈ t, isBlank c = true) : Reads t [] t
  | raw {gap raw left last : Text} {later : List (Text × Text)}
    (hg : ∀ c ∈ gap, isBlank c = true) (hr : RawRule.FirstTakes RawRule.order raw left)
    (hl : Reads left later last) : Reads (gap ++ (raw ++ left)) ((gap, raw) :: later) last

/-- No raw token begins with white space. -/
theorem exists_cons_of_firstTakes {raw left : Text}
    (h : RawRule.FirstTakes RawRule.order raw left) :
    ∃ c rest, raw ++ left = c :: rest ∧ isBlank c = false := by
  obtain ⟨rule, -, hr⟩ :=
    List.exists_of_findSome?_eq_some ((RawRule.findSome?_read?_eq_some_iff _).2 ⟨rfl, h⟩)
  by_cases hrule : rule = .sign
  · subst hrule
    obtain ⟨-, c, hc, -, rfl⟩ := RawRule.sign.read?_eq_some_iff.1 hr
    exact ⟨c, left, rfl, hc⟩
  · have hmem : rule.read? ∈ rules := by
      cases rule <;> simp_all [rules, RawRule.read?]
    have hsolid := Text.solid_of_all (takesSolid_of_mem_rules hmem _ _ hr)
    obtain ⟨c, rest, rfl⟩ :=
      List.exists_cons_of_ne_nil (splits_of_mem_rules hmem _ _ hr).2
    exact ⟨c, rest ++ left, rfl, hsolid.isBlank_eq_false c List.mem_cons_self⟩

theorem scan_of_reads {t last : Text} {pieces : List (Text × Text)} (h : Reads t pieces last)
    (previous : Option Char) :
    (scan previous t).1.map (fun l => (l.gap, l.raw)) = pieces ∧ (scan previous t).2 = last := by
  induction h generalizing previous with
  | blank h =>
    rw [scan_of_blank previous h]
    exact ⟨rfl, rfl⟩
  | @raw gap raw left last later hg hr hl ih =>
    obtain ⟨c, rest, hcons, hc⟩ := exists_cons_of_firstTakes hr
    have hdrop : (gap ++ (raw ++ left)).dropWhile isBlank = c :: rest := by
      rw [List.dropWhile_append_of_pos hg, hcons, List.dropWhile_cons_of_neg (by simp [hc])]
    have htake : (gap ++ (raw ++ left)).takeWhile isBlank = gap := by
      rw [List.takeWhile_append_of_pos hg, hcons, List.takeWhile_cons_of_neg (by simp [hc]),
        List.append_nil]
    rw [scan_of_first previous hdrop ((first_eq_iff hc).2 ⟨hcons, hr⟩), htake]
    obtain ⟨hpieces, hlast⟩ := ih raw.getLast?
    exact ⟨congrArg ((gap, raw) :: ·) hpieces, hlast⟩

theorem reads_scan (previous : Option Char) (t : Text) :
    Reads t ((scan previous t).1.map fun l => (l.gap, l.raw)) (scan previous t).2 := by
  fun_induction scan previous t with
  | case1 previous t h => exact .blank (List.dropWhile_eq_nil_iff.1 h)
  | case2 previous t c rest h gap found later ih =>
    have hc : isBlank c = false := by
      have := List.head?_dropWhile_not isBlank t
      simpa [h] using this
    have hfound : first c rest = (found.1, found.2) := rfl
    obtain ⟨happend, htakes⟩ := (first_eq_iff hc).1 hfound
    have ht : gap ++ (found.1 ++ found.2) = t := by
      rw [happend, ← h, List.takeWhile_append_dropWhile]
    have hgap : ∀ c ∈ gap, isBlank c = true := fun c => isBlank_of_mem_takeWhile
    rw [← ht]
    exact .raw hgap htakes ih

/-- A line is read in one way only, and the reader reads it so. -/
theorem reads_iff {line last : Text} {pieces : List (Text × Text)} :
    Reads line pieces last ↔
      (ofLine line).1.map (fun l => (l.gap, l.raw)) = pieces ∧ (ofLine line).2 = last := by
  constructor
  · exact fun h => scan_of_reads h none
  · rintro ⟨rfl, rfl⟩
    exact reads_scan none line

end Lexeme

/-- A token that shows a word, and the characters that it comes from where tokens keep these. -/
structure Token.Shows (o : LexedOptions) (w raw : Text) (u : Token) : Prop where
  word : u.word = w
  isNewline : u.isNewline = false
  raw : u.raw = if o.invertible then some raw else none

namespace LinePart

def isWord : LinePart → Bool
  | space _ => false
  | word _ _ isNewline => !isNewline

theorem filter_isWord_ofGap (o : LexedOptions) (gap : Text) : (ofGap o gap).filter isWord = [] := by
  rw [List.filter_eq_nil_iff]
  intro p hp
  unfold ofGap at hp
  split at hp
  · rcases mem_ofBreaks hp with ⟨run, rfl⟩ | rfl
    · exact Bool.false_ne_true
    · exact Bool.false_ne_true
  · rw [List.mem_singleton.1 hp]
    exact Bool.false_ne_true

theorem filter_isWord_ofRaw (o : LexedOptions) (raw : Text) (opening : Bool) :
    (ofRaw o raw opening).filter isWord = ofRaw o raw opening := by
  unfold ofRaw
  split <;> rfl

/-- The words of a text are those of the lexemes of its lines. -/
theorem filter_isWord_ofText (o : LexedOptions) (t : Text) :
    (ofText o t).filter isWord =
      ((Text.lines t).flatMap fun line => (Lexeme.ofLine line).1).flatMap fun l =>
        ofRaw o l.raw l.opening := by
  have hline : ∀ line, (ofLine o line).filter isWord =
      (Lexeme.ofLine line).1.flatMap fun l => ofRaw o l.raw l.opening := by
    intro line
    simp only [ofLine, List.filter_append, List.filter_flatMap, filter_isWord_ofGap,
      filter_isWord_ofRaw, List.nil_append, List.append_nil]
  rw [ofText, List.filter_flatMap, List.flatMap_assoc]
  exact List.flatMap_congr fun line _ => hline line

theorem filter_filterMap_token? (o : LexedOptions) (parts : List LinePart) :
    (parts.filterMap (token? o)).filter (!·.isNewline) =
      (parts.filter isWord).filterMap (token? o) := by
  have htoken : ∀ w raw isNewline, (OpenToken.token o [] w raw isNewline).isNewline = isNewline := by
    intro w raw isNewline
    rw [OpenToken.token]
    split <;> rfl
  induction parts with
  | nil => rfl
  | cons p parts ih =>
    cases p with
    | space run => exact ih
    | word w raw isNewline =>
      cases isNewline <;> simp [token?, isWord, htoken, ih]

end LinePart

namespace OpenToken

theorem shows_of_placeless {o : LexedOptions} {u : Token} {w raw : Text}
    (h : u.placeless = token o [] w raw false) : u.Shows o w raw := by
  have hword := congrArg Token.word h
  have hnewline := congrArg Token.isNewline h
  have hraw := congrArg Token.raw h
  by_cases hi : o.invertible = true
  · simp only [token, hi, if_true, Token.placeless] at hword hnewline hraw
    exact ⟨hword, hnewline, by rw [hi, if_pos rfl, hraw]⟩
  · simp only [token, hi, Bool.false_eq_true, if_false, Token.placeless] at hword hnewline hraw
    exact ⟨hword, hnewline, by rw [if_neg hi, hraw]⟩

end OpenToken

/-- The tokens of a raw token: its stem and its ending as they are written, where it has an ending,
and otherwise itself as it is spelt. -/
inductive Lexeme.RawTokens (o : LexedOptions) (raw : Text) : List Token → Prop
  | parted {stem ending : Text} {u v : Token} (h : HasEnding raw stem ending)
    (hu : u.Shows o stem stem) (hv : v.Shows o ending ending) : RawTokens o raw [u, v]
  | whole {opening : Bool} {u : Token} (h : ∀ stem ending, ¬HasEnding raw stem ending)
    (hu : u.Shows o (LinePart.spell o raw opening) raw) : RawTokens o raw [u]

theorem Lexeme.rawTokens_of_ofRaw {o : LexedOptions} {raw : Text} {opening : Bool}
    {group : List Token}
    (h : group.map Token.placeless =
      (LinePart.ofRaw o raw opening).filterMap (LinePart.token? o)) :
    RawTokens o raw group := by
  unfold LinePart.ofRaw at h
  cases hs : splitClitic? raw with
  | some parts =>
    obtain ⟨stem, ending⟩ := parts
    simp only [hs, List.filterMap_cons, LinePart.token?, List.filterMap_nil,
      List.map_eq_cons_iff, List.map_eq_nil_iff] at h
    obtain ⟨u, _, rfl, hu, v, _, rfl, hv, rfl⟩ := h
    exact .parted (splitClitic?_eq_some_iff.1 hs) (OpenToken.shows_of_placeless hu)
      (OpenToken.shows_of_placeless hv)
  | none =>
    simp only [hs, List.filterMap_cons, LinePart.token?, List.filterMap_nil,
      List.map_eq_cons_iff, List.map_eq_nil_iff] at h
    obtain ⟨u, _, rfl, hu, rfl⟩ := h
    exact .whole (splitClitic?_eq_none_iff.1 hs) (OpenToken.shows_of_placeless hu)

/-- What is made of some lists, one behind the other, falls into what is made of each of them. -/
theorem exists_flatten_of_map_eq_flatMap {α β ι : Type} {f : α → β} {g : ι → List β}
    {items : List ι} {xs : List α} (h : xs.map f = items.flatMap g) :
    ∃ groups, List.Forall₂ (fun i group => group.map f = g i) items groups ∧
      groups.flatten = xs := by
  induction items generalizing xs with
  | nil => exact ⟨[], .nil, by simpa using h.symm⟩
  | cons i items ih =>
    rw [List.flatMap_cons, List.map_eq_append_iff] at h
    obtain ⟨group, rest, rfl, hgroup, hrest⟩ := h
    obtain ⟨groups, hgroups, rfl⟩ := ih hrest
    exact ⟨group :: groups, .cons hgroup hgroups, rfl⟩

namespace TokenSource

/-- A line has the raw tokens that the rules take by their form, with white space between them and
around them, and is read in no other way. The tokens that a source gives out are those of the raw
tokens of its lines, and the newlines between them. -/
theorem gives_rawTokens {written : Text} {o : LexedOptions}
    (ho : LexedOptions.read written = .ok o) {stream : TextStream} (hst : stream.Steady) :
    (∀ line pieces last, Lexeme.Reads line pieces last ↔
      (Lexeme.ofLine line).1.map (fun l => (l.gap, l.raw)) = pieces ∧
        (Lexeme.ofLine line).2 = last) ∧
    ∃ s ts found groups, ofText stream written = .ok s ∧ s.Gives ts ∧
      List.Forall₂ (fun line (read : List (Text × Text) × Text) => Lexeme.Reads line read.1 read.2)
        (Text.lines stream.rest) found ∧
      List.Forall₂ (Lexeme.RawTokens o) (found.flatMap fun read => read.1.map Prod.snd) groups ∧
      groups.flatten = ts.filter (!·.isNewline) := by
  refine ⟨fun _ _ _ => Lexeme.reads_iff, ?_⟩
  have hwords := OpenToken.map_placeless_tokens o {} (LinePart.ofText o stream.rest)
  have hfilter := congrArg (List.filter (!·.isNewline)) hwords
  have hnone : ({} : OpenToken).last.toList.map Token.placeless = [] := rfl
  rw [hnone, List.nil_append, LinePart.filter_filterMap_token?, LinePart.filter_isWord_ofText,
    List.filterMap_flatMap, List.filter_map] at hfilter
  obtain ⟨groups, hgroups, hflat⟩ := exists_flatten_of_map_eq_flatMap hfilter
  refine ⟨.lexed { stream, options := o }, o.tokensOf stream.rest,
    (Text.lines stream.rest).map fun line =>
      ((Lexeme.ofLine line).1.map fun l => (l.gap, l.raw), (Lexeme.ofLine line).2),
    groups, by rw [ofText, ho]; rfl, gives_coming hst, ?_, ?_, hflat⟩
  · rw [List.forall₂_map_right_iff]
    exact List.forall₂_same.2 fun line _ => Lexeme.reads_iff.2 ⟨rfl, rfl⟩
  · have hraws : ((Text.lines stream.rest).map fun line =>
        ((Lexeme.ofLine line).1.map fun l => (l.gap, l.raw), (Lexeme.ofLine line).2)).flatMap
          (fun read => read.1.map Prod.snd) =
        ((Text.lines stream.rest).flatMap fun line => (Lexeme.ofLine line).1).map Lexeme.raw := by
      rw [List.flatMap_map, List.map_flatMap]
      exact List.flatMap_congr fun line _ => List.map_map
    rw [hraws, List.forall₂_map_left_iff]
    exact hgroups.imp fun l group h => Lexeme.rawTokens_of_ofRaw h

/-- Letters with full stops, a number, a word with an ending in capitals, and an abbreviation within
the line and at its end. -/
theorem gives_rawTokens_of_line :
    let stream := TextStream.ofText "Mr. X can'T: e.g. 3:05-x etc.\n".toList
    let pieces : List (Text × Text) :=
      [("", "Mr."), (" ", "X"), (" ", "can'T"), ("", ":"), (" ", "e.g."), (" ", "3:05"), ("", "-"),
        ("", "x"), (" ", "etc"), ("", ".")].map fun p => (p.1.toList, p.2.toList)
    LexedOptions.read [] = .ok {} ∧ stream.Steady ∧ Lexeme.Reads stream.rest pieces ['\n'] ∧
      ∃ s ts, ofText stream [] = .ok s ∧ s.Gives ts ∧
        ts.map Token.word =
          ["Mr.", "X", "ca", "n'T", ":", "e.g.", "3:05", "-", "x", "etc", "."].map
            String.toList := by
  intro stream pieces
  have ho : LexedOptions.read [] = .ok {} := rfl
  have hst : stream.Steady := TextStream.steady_ofText _
  obtain ⟨hreads, s, ts, -, -, hs, hg, -⟩ := gives_rawTokens ho hst
  refine ⟨ho, hst, (hreads _ _ _).2 (by decide +kernel), s, ts, hs, hg, ?_⟩
  obtain rfl := Except.ok.inj (hs.symm.trans (show ofText stream [] = .ok _ from rfl))
  rw [hg.unique (gives_coming hst)]
  decide +kernel

end TokenSource

end SentenceReader

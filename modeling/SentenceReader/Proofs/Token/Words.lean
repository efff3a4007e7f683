import SentenceReader.Proofs.Text.Pieces
import SentenceReader.Token.Lexeme

/-! What the words of a line are made of. There is no white space in them. In a lexeme there is also
no asterisk unless it stands alone, so none is mistaken for the mark of a newline. -/
namespace SentenceReader

/-- The code points of white space. -/
def blanks : List Nat :=
  [9, 10, 11, 12, 13, 0x1C, 0x1D, 0x1E, 0x1F, 0x20, 0x85, 0xA0, 0x1680, 0x2000, 0x2001, 0x2002,
   0x2003, 0x2004, 0x2005, 0x2006, 0x2007, 0x2008, 0x2009, 0x200A, 0x2028, 0x2029, 0x202F, 0x205F,
   0x3000]

theorem toNat_mem_blanks {c : Char} (h : isBlank c = true) : c.toNat ∈ blanks := by
  simp only [isBlank, Bool.or_eq_true, Bool.and_eq_true, decide_eq_true_eq, beq_iff_eq] at h
  simp only [blanks, List.mem_cons, List.not_mem_nil, or_false]
  omega

/-- A text without white space, in which an asterisk stands alone. -/
structure Text.Solid (w : Text) : Prop where
  isBlank_eq_false : ∀ c ∈ w, isBlank c = false
  asterisk : '*' ∈ w → w = ['*']

/-- A character that is neither white space nor an asterisk. -/
def isSolid (c : Char) : Bool := !isBlank c && c != '*'

/-- A class of characters is solid if it has neither white space nor the asterisk in it. -/
theorem isSolid_of_class {p : Char → Bool} (hp : ∀ n ∈ 0x2A :: blanks, p (Char.ofNat n) = false)
    {c : Char} (h : p c = true) : isSolid c = true := by
  have hn : c.toNat ∉ 0x2A :: blanks := by
    intro hm
    have hf := hp _ hm
    rw [Char.ofNat_toNat, h] at hf
    exact Bool.noConfusion hf
  rw [List.mem_cons, not_or] at hn
  rw [isSolid, Bool.and_eq_true, Bool.not_eq_true', ← Bool.not_eq_true, bne_iff_ne]
  exact ⟨fun hb => hn.2 (toNat_mem_blanks hb), fun hc => hn.1 (by rw [hc]; rfl)⟩

theorem isSolid_of_isWordChar {c : Char} (h : isWordChar c = true) : isSolid c = true :=
  isSolid_of_class (by decide +kernel) h

theorem isSolid_of_isDigitChar {c : Char} (h : isDigitChar c = true) : isSolid c = true :=
  isSolid_of_class (by decide +kernel) h

theorem isSolid_of_isAlpha {c : Char} (h : c.isAlpha = true) : isSolid c = true :=
  isSolid_of_class (by decide +kernel) h

namespace Text

theorem solid_of_all {w : Text} (h : w.all isSolid = true) : Solid w := by
  simp only [List.all_eq_true, isSolid, Bool.and_eq_true, Bool.not_eq_true', bne_iff_ne] at h
  exact ⟨fun c hc => (h c hc).1, fun hc => absurd rfl (h _ hc).2⟩

theorem solid_singleton {c : Char} (h : isBlank c = false) : Solid [c] := by
  constructor
  · simpa using h
  · intro hc
    rw [List.mem_singleton.1 hc]

theorem Solid.sublist {v w : Text} (h : Solid w) (hv : v.Sublist w) : Solid v := by
  constructor
  · exact fun c hc => h.isBlank_eq_false c (hv.subset hc)
  · intro hc
    rw [h.asterisk (hv.subset hc)] at hv
    exact hv.eq_of_length (Nat.le_antisymm hv.length_le (List.length_pos_of_mem hc))

theorem isBlank_of_mem_words {t w : Text} (h : w ∈ words t) : ∀ c ∈ w, isBlank c = false :=
  eq_false_of_mem_splitOnP (List.mem_filter.1 h).1

/-- White space parts the words in front of it from those behind. -/
theorem words_append_blank {c : Char} (hc : isBlank c = true) (t rest : Text) :
    words (t ++ c :: rest) = words t ++ words rest := by
  rw [words, List.splitOnP_append_cons t rest hc, List.filter_append, words, words]

theorem words_append_newline (t : Text) : words (t ++ ['\n']) = words t := by
  rw [words_append_blank isBlank_newline t []]
  exact List.append_nil _

/-- The words of a text are its characters that are not white space. -/
theorem flatten_words (t : Text) : (words t).flatten = t.filter (!isBlank ·) := by
  have hflat : ∀ runs : List Text, (runs.filter (!·.isEmpty)).flatten = runs.flatten := by
    intro runs
    induction runs with
    | nil => rfl
    | cons run runs ih => cases run <;> simp [ih]
  rw [words, hflat]
  induction t with
  | nil => rfl
  | cons c t ih =>
    rw [List.splitOnP_cons_eq_if_modifyHead]
    cases hc : isBlank c with
    | true => simp [hc, ih]
    | false =>
      obtain ⟨first, later, hs⟩ := List.exists_cons_of_ne_nil (List.splitOnP_ne_nil isBlank t)
      rw [hs, List.flatten_cons] at ih
      simp [hc, hs, ih]

/-- Only white space has no words. -/
theorem words_eq_nil_iff (t : Text) : words t = [] ↔ ∀ c ∈ t, isBlank c = true := by
  have hflat := flatten_words t
  constructor
  · intro h
    rw [h, List.flatten_nil, eq_comm, List.filter_eq_nil_iff] at hflat
    exact fun c hc => by simpa using hflat c hc
  · intro h
    have hnil : t.filter (!isBlank ·) = [] := List.filter_eq_nil_iff.2 fun c hc => by simp [h c hc]
    rw [hnil, List.flatten_eq_nil_iff] at hflat
    refine List.eq_nil_iff_forall_not_mem.2 fun w hw => ?_
    have hne := (List.mem_filter.1 hw).2
    rw [hflat w hw] at hne
    exact Bool.noConfusion hne

end Text

namespace Lexeme

theorem mem_takeJoined {p q : Char → Bool} {c : Char} {t : Text}
    (h : c ∈ (takeJoined p q t).1) : p c = true ∨ q c = true := by
  induction t with
  | nil => simp [takeJoined] at h
  | cons d rest ih =>
    rw [takeJoined] at h
    split at h
    · next hd =>
      rw [List.mem_cons] at h
      rcases h with rfl | h
      · simp only [Bool.or_eq_true, Bool.and_eq_true] at hd
        exact hd.imp id And.left
      · exact ih h
    · simp at h

theorem mem_takeInitials {c : Char} {t : Text} (h : c ∈ (takeInitials t).1) :
    c.isAlpha = true ∨ c = '.' := by
  fun_induction takeInitials t with
  | case1 d rest hd taken left hr ih =>
    simp only [List.mem_cons] at h
    rcases h with rfl | rfl | h
    · exact .inl hd
    · exact .inr rfl
    · exact ih (by simpa [hr] using h)
  | case2 => simp at h
  | case3 => simp at h

theorem fst_of_takeExactly? {mark t : Text} {r : Text × Text} (h : takeExactly? mark t = some r) :
    r.1 = mark := by
  simp only [takeExactly?, Option.map_eq_some_iff] at h
  obtain ⟨rest, _, rfl⟩ := h
  rfl

def TakesSolid (rule : Text → Option (Text × Text)) : Prop :=
  ∀ t r, rule t = some r → r.1.all isSolid = true

theorem takesSolid_ellipsis? : TakesSolid ellipsis? := by
  intro t r h
  rw [fst_of_takeExactly? h]
  decide

theorem takesSolid_initials? : TakesSolid initials? := by
  intro t r h
  unfold initials? at h
  dsimp only at h
  split at h
  · simp at h
  · obtain rfl := Option.some.inj h
    refine List.all_eq_true.2 fun c hc => ?_
    rcases mem_takeInitials hc with ha | rfl
    · exact isSolid_of_isAlpha ha
    · decide

theorem takesSolid_abbreviation? : TakesSolid abbreviation? := by
  intro t r h
  unfold abbreviation? at h
  rw [Option.filter_eq_some_iff] at h
  obtain ⟨a, hm, ha⟩ := List.exists_of_findSome?_eq_some h.1
  rw [fst_of_takeExactly? ha]
  have hall : abbreviations.all (fun a => (a ++ ['.']).all isSolid) = true := by decide
  exact List.all_eq_true.1 hall a hm

theorem takesSolid_number? : TakesSolid number? := by
  intro t r h
  unfold number? at h
  split at h
  · obtain rfl := Option.some.inj h
    refine List.all_eq_true.2 fun c hc => ?_
    rcases mem_takeJoined hc with hd | hj
    · exact isSolid_of_isDigitChar hd
    · have hall : ['.', ',', ':'].all isSolid = true := by decide
      exact List.all_eq_true.1 hall c (of_decide_eq_true hj)
  · simp at h

theorem takesSolid_word? : TakesSolid word? := by
  intro t r h
  unfold word? at h
  split at h
  · obtain rfl := Option.some.inj h
    refine List.all_eq_true.2 fun c hc => ?_
    rcases mem_takeJoined hc with hw | hj
    · exact isSolid_of_isWordChar hw
    · have hall : ['-', '\'', '’'].all isSolid = true := by decide
      exact List.all_eq_true.1 hall c (of_decide_eq_true hj)
  · simp at h

theorem takesSolid_mark? : TakesSolid mark? := by
  intro t r h
  unfold mark? at h
  obtain ⟨m, hm, ha⟩ := List.exists_of_findSome?_eq_some h
  rw [fst_of_takeExactly? ha]
  have hall : [['\'', '\''], ['\x60', '\x60'], ['-', '-']].all (List.all · isSolid) = true := by
    decide
  exact List.all_eq_true.1 hall m hm

theorem takesSolid_of_mem_rules {rule : Text → Option (Text × Text)} (h : rule ∈ rules) :
    TakesSolid rule := by
  simp only [rules, List.mem_cons, List.not_mem_nil, or_false] at h
  rcases h with rfl | rfl | rfl | rfl | rfl | rfl
  · exact takesSolid_ellipsis?
  · exact takesSolid_initials?
  · exact takesSolid_abbreviation?
  · exact takesSolid_number?
  · exact takesSolid_word?
  · exact takesSolid_mark?

theorem solid_first {c : Char} (rest : Text) (hc : isBlank c = false) :
    Text.Solid (first c rest).1 := by
  unfold first
  cases h : rules.findSome? fun rule => rule (c :: rest) with
  | none => exact Text.solid_singleton hc
  | some r =>
    obtain ⟨rule, hm, hr⟩ := List.exists_of_findSome?_eq_some h
    exact Text.solid_of_all (takesSolid_of_mem_rules hm _ _ hr)

/-- A lexeme as a line has it: some characters without white space, behind white space. -/
structure Proper (l : Lexeme) : Prop where
  gap : ∀ c ∈ l.gap, isBlank c = true
  raw : Text.Solid l.raw
  raw_ne_nil : l.raw ≠ []

theorem isBlank_of_mem_takeWhile {t : Text} {c : Char} (h : c ∈ t.takeWhile isBlank) :
    isBlank c = true :=
  List.all_eq_true.1 List.all_takeWhile c h

/-- What is found in a line: its lexemes with the white space in front of them, and white space at
its end. Together they are the line. -/
theorem scan_spec (previous : Option Char) (t : Text) :
    (∀ l ∈ (scan previous t).1, l.Proper) ∧ (∀ c ∈ (scan previous t).2, isBlank c = true) ∧
      ((scan previous t).1.flatMap fun l => l.gap ++ l.raw) ++ (scan previous t).2 = t := by
  fun_induction scan previous t with
  | case1 previous t h =>
    refine ⟨by simp, ?_, by simp⟩
    have ht : t.takeWhile isBlank = t := by
      rw [← List.append_nil (t.takeWhile isBlank), ← h, List.takeWhile_append_dropWhile]
    rw [← ht]
    exact fun c => isBlank_of_mem_takeWhile
  | case2 previous t c rest h gap found later ih =>
    obtain ⟨hl, he, ht⟩ := ih
    have hc : isBlank c = false := by
      have := List.head?_dropWhile_not isBlank t
      simpa [h] using this
    refine ⟨?_, he, ?_⟩
    · intro l hm
      rw [List.mem_cons] at hm
      rcases hm with rfl | hm
      · exact ⟨fun c => isBlank_of_mem_takeWhile, solid_first rest hc, first_ne_nil c rest⟩
      · exact hl l hm
    · simp only [List.flatMap_cons, List.append_assoc]
      rw [ht, append_first, ← h, List.takeWhile_append_dropWhile]

end Lexeme

end SentenceReader

import SentenceReader.Proofs.Token.Coming
import SentenceReader.Proofs.Token.Words

/-! The parts of a text: white space, words and newlines. Their characters are the text, and there is
no white space in a word. -/
namespace SentenceReader

namespace LinePart

/-- The characters that a part comes from. -/
def chars : LinePart → Text
  | space run => run
  | word _ raw _ => raw

/-- The token of a part as far as its word goes; white space has none. -/
def bare? : LinePart → Option Token
  | space _ => none
  | word w _ isNewline => some { word := w, isNewline }

/-- A part as a text has it: white space, some characters with their spelling, or a newline where
newlines are words. -/
inductive Proper (o : LexedOptions) : LinePart → Prop
  | space {run : Text} (h : ∀ c ∈ run, isBlank c = true) : Proper o (space run)
  | word {w raw : Text} (hw : Text.Solid w) (hr : Text.Solid raw) (hn : raw ≠ []) :
    Proper o (word w raw false)
  | newline (h : o.newlines = true) : Proper o (word newlineMark ['\n'] true)

theorem chars_ofBreaks (runs : List Text) : (ofBreaks runs).flatMap chars = Text.join ['\n'] runs := by
  induction runs with
  | nil => rfl
  | cons run rest ih =>
    cases rest with
    | nil => simp [ofBreaks, chars, Text.join]
    | cons run' rest =>
      rw [ofBreaks, List.flatMap_cons, List.flatMap_cons, ih]
      · simp [chars, Text.join]
      · simp

theorem mem_ofBreaks {runs : List Text} {p : LinePart} (h : p ∈ ofBreaks runs) :
    (∃ run, p = space run) ∨ p = word newlineMark ['\n'] true := by
  fun_induction ofBreaks runs with
  | case1 => simp at h
  | case2 run => exact .inl ⟨run, List.mem_singleton.1 h⟩
  | case3 run rest hne ih =>
    simp only [List.mem_cons] at h
    rcases h with rfl | rfl | h
    · exact .inl ⟨run, rfl⟩
    · exact .inr rfl
    · exact ih h

theorem chars_ofGap (o : LexedOptions) (gap : Text) : (ofGap o gap).flatMap chars = gap := by
  unfold ofGap
  split
  · rw [chars_ofBreaks, Text.join, Text.fields, List.intercalate_splitOn]
  · simp [chars]

theorem proper_ofGap (o : LexedOptions) {gap : Text} (hg : ∀ c ∈ gap, isBlank c = true) :
    ∀ p ∈ ofGap o gap, p.Proper o := by
  intro p hp
  have hspace : ∀ run, space run ∈ ofGap o gap → Proper o (space run) := by
    intro run hr
    refine .space fun c hc => hg c ?_
    rw [← chars_ofGap o gap]
    exact List.mem_flatMap.2 ⟨_, hr, hc⟩
  by_cases hn : o.newlines = true
  · have hm := hp
    rw [ofGap, if_pos hn] at hm
    rcases mem_ofBreaks hm with ⟨run, rfl⟩ | rfl
    · exact hspace run hp
    · exact .newline hn
  · have hm := hp
    rw [ofGap, if_neg hn, List.mem_singleton] at hm
    subst hm
    exact hspace gap hp

theorem solid_spell (o : LexedOptions) {raw : Text} (h : Text.Solid raw) (opening : Bool) :
    Text.Solid (spell o raw opening) := by
  have hopen : Text.Solid Treebank.openQuote := Text.solid_of_all (by decide)
  have hclose : Text.Solid Treebank.closeQuote := Text.solid_of_all (by decide)
  have hbrackets : Treebank.brackets.all (fun e => e.2.all isSolid) = true := by decide
  unfold spell
  split
  · exact h
  · split
    · cases opening
      · exact hclose
      · exact hopen
    · split
      · exact hopen
      · split
        · exact hclose
        · rcases Treebank.escapeWord_cases raw with hb | ⟨hw, -⟩
          · exact Text.solid_of_all (List.all_eq_true.1 hbrackets _ hb)
          · exact hw.symm ▸ h

theorem length_of_isClitic {ending t : Text} (h : Lexeme.isClitic ending t = true) :
    t.length = ending.length := by
  fun_induction Lexeme.isClitic ending t with
  | case1 => rfl
  | case2 a ending c t ih =>
    rw [Bool.and_eq_true] at h
    rw [List.length_cons, List.length_cons, ih h.2]
  | case3 => simp at h

/-- A word with an ending is its stem and its ending, and neither is empty. -/
theorem splitClitic?_spec {raw stem ending : Text}
    (h : Lexeme.splitClitic? raw = some (stem, ending)) :
    stem ++ ending = raw ∧ stem ≠ [] ∧ ending ≠ [] := by
  unfold Lexeme.splitClitic? at h
  obtain ⟨known, hm, hk⟩ := List.exists_of_findSome?_eq_some h
  dsimp only at hk
  split at hk
  · next hc =>
    simp only [Bool.and_eq_true, Bool.not_eq_true', List.isEmpty_eq_false_iff] at hc
    simp only [Option.some.injEq, Prod.mk.injEq] at hk
    obtain ⟨rfl, rfl⟩ := hk
    refine ⟨List.take_append_drop _ _, hc.1.1, ?_⟩
    have hall : ∀ e ∈ Lexeme.clitics, e ≠ [] := by decide
    intro h0
    have hl := length_of_isClitic hc.2
    rw [h0] at hl
    exact hall known hm (List.eq_nil_of_length_eq_zero hl.symm)
  · simp at hk

theorem chars_ofRaw (o : LexedOptions) (raw : Text) (opening : Bool) :
    (ofRaw o raw opening).flatMap chars = raw := by
  unfold ofRaw
  split
  · next stem ending h => simp [chars, (splitClitic?_spec h).1]
  · simp [chars]

theorem proper_ofRaw (o : LexedOptions) {raw : Text} (h : Text.Solid raw) (hn : raw ≠ [])
    (opening : Bool) : ∀ p ∈ ofRaw o raw opening, p.Proper o := by
  intro p hp
  unfold ofRaw at hp
  split at hp
  · next stem ending hs =>
    obtain ⟨ha, hstem, hending⟩ := splitClitic?_spec hs
    have h₁ : Text.Solid stem := h.sublist (ha ▸ List.sublist_append_left stem ending)
    have h₂ : Text.Solid ending := h.sublist (ha ▸ List.sublist_append_right stem ending)
    simp only [List.mem_cons, List.not_mem_nil, or_false] at hp
    rcases hp with rfl | rfl
    · exact .word h₁ h₁ hstem
    · exact .word h₂ h₂ hending
  · rw [List.mem_singleton] at hp
    subst hp
    exact .word (solid_spell o h opening) h hn

theorem chars_ofLine (o : LexedOptions) (line : Text) : (ofLine o line).flatMap chars = line := by
  have h := (Lexeme.scan_spec none line).2.2
  rw [ofLine, List.flatMap_append, List.flatMap_assoc, chars_ofGap]
  simp only [List.flatMap_append, chars_ofGap, chars_ofRaw]
  exact h

theorem proper_ofLine (o : LexedOptions) (line : Text) : ∀ p ∈ ofLine o line, p.Proper o := by
  obtain ⟨hl, he, -⟩ := Lexeme.scan_spec none line
  intro p hp
  rw [ofLine, List.mem_append, List.mem_flatMap] at hp
  rcases hp with ⟨l, hm, hp⟩ | hp
  · have h := hl l hm
    rw [List.mem_append] at hp
    rcases hp with hp | hp
    · exact proper_ofGap o h.gap p hp
    · exact proper_ofRaw o h.raw h.raw_ne_nil l.opening p hp
  · exact proper_ofGap o he p hp

/-- The parts of a text are its characters. -/
theorem chars_ofText (o : LexedOptions) (t : Text) : (ofText o t).flatMap chars = t := by
  rw [ofText, List.flatMap_assoc]
  simp only [chars_ofLine]
  rw [List.flatMap_id', TextStream.flatten_lines]

theorem proper_ofText (o : LexedOptions) (t : Text) : ∀ p ∈ ofText o t, p.Proper o := by
  intro p hp
  obtain ⟨line, -, hp⟩ := List.mem_flatMap.1 hp
  exact proper_ofLine o line p hp

/-- A text without words is white space, and the other way round where no newline is a word. -/
theorem filterMap_bare?_ofText_eq_nil_iff {o : LexedOptions} {t : Text}
    (ho : o.newlines = true → '\n' ∉ t) :
    (ofText o t).filterMap bare? = [] ↔ ∀ c ∈ t, isBlank c = true := by
  have hchars := chars_ofText o t
  have hproper := proper_ofText o t
  rw [List.filterMap_eq_nil_iff]
  constructor
  · intro h c hc
    rw [← hchars] at hc
    obtain ⟨p, hp, hc⟩ := List.mem_flatMap.1 hc
    cases hproper p hp with
    | space hrun => exact hrun c hc
    | word _ _ _ => exact absurd (h _ hp) (by simp [bare?])
    | newline _ => exact absurd (h _ hp) (by simp [bare?])
  · intro h p hp
    have hmem : ∀ c ∈ p.chars, c ∈ t := by
      intro c hc
      rw [← hchars]
      exact List.mem_flatMap.2 ⟨p, hp, hc⟩
    have hblank : ∀ c ∈ p.chars, isBlank c = true := fun c hc => h c (hmem c hc)
    cases hproper p hp with
    | space _ => rfl
    | @word w raw hw hr hn =>
      obtain ⟨c, rest, rfl⟩ := List.exists_cons_of_ne_nil hn
      have h₁ := hr.isBlank_eq_false c (by simp)
      have h₂ := hblank c (by simp [chars])
      rw [h₁] at h₂
      exact Bool.noConfusion h₂
    | newline h' => exact absurd (hmem '\n' (by simp [chars])) (ho h')

end LinePart

end SentenceReader

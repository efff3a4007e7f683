import SentenceReader.Proofs.Token.Coming
import SentenceReader.Proofs.Token.Words

/-! Words that are printed and read again. A line of words with a space between neighbours has
exactly these words, so the tokens of tokenized text come back from the lines of its sentences. -/
namespace SentenceReader

namespace Text

/-- A word of a line: some characters, and no white space. -/
structure IsWord (w : Text) : Prop where
  ne_nil : w ≠ []
  isBlank_eq_false : ∀ c ∈ w, isBlank c = false

theorem isWord_of_mem_words {w t : Text} (h : w ∈ words t) : IsWord w := by
  refine ⟨?_, fun c => isBlank_of_mem_words h c⟩
  have hw := (List.mem_filter.1 h).2
  simpa using hw

theorem words_append_cons {w : Text} (h : w.IsWord) {c : Char} (hc : isBlank c = true)
    (rest : Text) : words (w ++ c :: rest) = w :: words rest := by
  have hw := h.ne_nil
  rw [words, List.splitOnP_append_cons_of_forall_mem h.isBlank_eq_false c hc,
    List.filter_cons_of_pos (by simpa using hw), words]

/-- The words of a line are those it was made of. -/
theorem words_join {ws : List Text} (h : ∀ w ∈ ws, w.IsWord) :
    words (join [' '] ws ++ ['\n']) = ws := by
  induction ws with
  | nil => decide
  | cons w ws ih =>
    obtain ⟨hw, hws⟩ := List.forall_mem_cons.1 h
    cases ws with
    | nil =>
      rw [join, List.intercalate_singleton, words_append_cons hw isBlank_newline]
      rfl
    | cons w' ws =>
      rw [join, List.intercalate_cons_cons, List.append_assoc, List.append_assoc,
        List.singleton_append, words_append_cons hw isBlank_space]
      exact congrArg _ (ih hws)

theorem newline_not_mem_join {ws : List Text} (h : ∀ w ∈ ws, w.IsWord) : '\n' ∉ join [' '] ws := by
  induction ws with
  | nil => simp [join]
  | cons w ws ih =>
    obtain ⟨hw, hws⟩ := List.forall_mem_cons.1 h
    have hn : '\n' ∉ w := fun hm => Bool.noConfusion (hw.isBlank_eq_false _ hm)
    cases ws with
    | nil => rwa [join, List.intercalate_singleton]
    | cons w' ws =>
      rw [join, List.intercalate_cons_cons, List.mem_append, List.mem_append]
      rintro ((hm | hm) | hm)
      · exact hn hm
      · simp at hm
      · exact ih hws hm

end Text

namespace Sentence

/-- Sentences as they are printed, each of them in a line of its own. -/
def printed (ss : List Sentence) : Text := ss.flatMap fun s => s.wordLine ++ ['\n']

end Sentence

namespace SpacedSource

def ofWord (w : Text) : Token := { word := w, raw := some w }

def newline : Token := { word := newlineWord, isNewline := true, raw := some newlineWord }

/-- The tokens of a line are its words, and its newline where newlines are tokens. -/
theorem tokensOf_eq (newlines : Bool) (line : Text) :
    tokensOf newlines line = (Text.words line).map ofWord ++
      if newlines && line.getLast? = some '\n' then [newline] else [] := rfl

def IsRead (t : Token) : Prop := t.word.IsWord ∧ t = ofWord t.word

theorem IsRead.word_ne_newlineWord {t : Token} (h : IsRead t) : t.word ≠ newlineWord := by
  intro hw
  have hn := h.1.isBlank_eq_false '\n' (by simp [hw, newlineWord])
  exact absurd hn (by decide)

theorem isRead_or_of_mem_tokensOf {newlines : Bool} {line : Text} {t : Token}
    (h : t ∈ tokensOf newlines line) : IsRead t ∨ newlines = true ∧ t = newline := by
  rw [tokensOf, List.mem_append, List.mem_map] at h
  rcases h with ⟨w, hw, rfl⟩ | h
  · exact .inl ⟨Text.isWord_of_mem_words hw, rfl⟩
  · split at h
    · next hn =>
      simp only [Bool.and_eq_true] at hn
      exact .inr ⟨hn.1, List.mem_singleton.1 h⟩
    · simp at h

theorem forall_isWord {s : Sentence} (h : ∀ t ∈ s, IsRead t) : ∀ w ∈ s.map Token.word, w.IsWord := by
  intro w hw
  obtain ⟨t, ht, rfl⟩ := List.mem_map.1 hw
  exact (h t ht).1

theorem tokensOf_wordLine (newlines : Bool) {s : Sentence} (h : ∀ t ∈ s, IsRead t) :
    tokensOf newlines (s.wordLine ++ ['\n']) = s ++ if newlines then [newline] else [] := by
  have hs : (s.map Token.word).map ofWord = s := by
    rw [List.map_map]
    exact (List.map_congr_left fun t ht => (h t ht).2.symm).trans (List.map_id s)
  rw [tokensOf, Sentence.wordLine, Text.words_join (forall_isWord h)]
  change (s.map Token.word).map ofWord ++ _ = _
  rw [hs]
  simp [newline]

/-- The lines that sentences are printed in have the tokens of the sentences, and a newline behind
each sentence where newlines are tokens. -/
theorem tokensOf_printed (newlines : Bool) {ss : List Sentence} (h : ∀ s ∈ ss, ∀ t ∈ s, IsRead t) :
    (Text.lines (Sentence.printed ss)).flatMap (tokensOf newlines) =
      ss.flatMap fun s => s ++ if newlines then [newline] else [] := by
  have hline : ∀ line ∈ ss.map Sentence.wordLine, ∀ c ∈ line, (c == '\n') = false := by
    intro line hline
    obtain ⟨s, hs, rfl⟩ := List.mem_map.1 hline
    exact Text.beq_newline_of_not_mem (Text.newline_not_mem_join (forall_isWord (h s hs)))
  have hlines : Text.lines (Sentence.printed ss) = ss.map fun s => s.wordLine ++ ['\n'] := by
    have hcut := Cutting.behind_flatMap (a := '\n') (by decide) hline
    rwa [List.flatMap_map, List.map_map] at hcut
  rw [hlines, List.flatMap_map, List.flatMap_def, List.flatMap_def]
  exact congrArg _ (List.map_congr_left fun s hs => tokensOf_wordLine newlines (h s hs))

end SpacedSource

end SentenceReader

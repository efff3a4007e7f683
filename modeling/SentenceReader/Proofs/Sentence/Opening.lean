import SentenceReader.Proofs.Token.Merging
import SentenceReader.Sentence.Segmenter

/-! Segmenters over streams. Where the options of the built-in tokenizer are accepted, there is a
segmenter for every stream, also if newlines are asked for besides. -/
namespace SentenceReader

def Config.OptionsAccepted (c : Config) : Prop := ∃ tokenizer, c.makeTokenizer = .ok tokenizer

namespace LexedOptions

@[simp] theorem read_merge_nil (written : Text) :
    read (OptionTable.merge [written, []]) = read written := by
  simp only [read, OptionTable.read_merge, OptionTable.items_nil]
  cases OptionTable.read known written <;> rfl

theorem exists_of_read_error {written : Text} {fault : Fault} (h : read written = .error fault) :
    ∃ key known, fault = .unknownOption key known := by
  unfold read at h
  split at h
  · simp at h
  · exact ⟨_, _, (Except.error.inj h).symm⟩

/-- Newlines that are asked for besides are tokens, whatever the options say about them. -/
theorem read_merge_newlines {written : Text} {o : LexedOptions} (h : read written = .ok o) :
    read (OptionTable.merge [written, "tokenizeNLs".toList]) = .ok { o with newlines := true } := by
  unfold read at h ⊢
  rw [OptionTable.read_merge_newlines (by decide)]
  cases ht : OptionTable.read known written with
  | error key => simp [ht] at h
  | ok table =>
    simp only [ht, Except.ok.injEq] at h
    subst h
    simp only [Except.map, ofTable, OptionTable.flag, OptionTable.lookup_set]
    rfl

end LexedOptions

namespace SpacedSource

@[simp] theorem readOptions_merge_nil (written : Text) :
    readOptions (OptionTable.merge [written, []]) = readOptions written := by
  simp only [readOptions, OptionTable.read_merge, OptionTable.items_nil]
  cases OptionTable.read known written <;> rfl

theorem exists_of_readOptions_error {written : Text} {fault : Fault}
    (h : readOptions written = .error fault) : ∃ key known, fault = .unknownOption key known := by
  unfold readOptions at h
  split at h
  · simp at h
  · exact ⟨_, _, (Except.error.inj h).symm⟩

theorem readOptions_merge_newlines {written : Text} {newlines : Bool}
    (h : readOptions written = .ok newlines) :
    readOptions (OptionTable.merge [written, "tokenizeNLs".toList]) = .ok true := by
  unfold readOptions at h ⊢
  rw [OptionTable.read_merge_newlines (by decide)]
  cases ht : OptionTable.read known written with
  | error key => simp [ht] at h
  | ok table =>
    simp only [Except.map, OptionTable.flag, OptionTable.lookup_set]
    rfl

end SpacedSource

namespace Segmenter

/-- The tokens of running text, in which newlines are tokens where they end sentences. -/
theorem tokensOf_running {c : Config} {o : LexedOptions} (ht : c.tokenizer = .running)
    (ho : LexedOptions.read c.tokenizerOptions = .ok o) (stream : TextStream) (newlines : Bool) :
    tokensOf c stream newlines =
      .ok (.lexed { stream, options := { o with newlines := newlines || o.newlines } }) := by
  have hm : c.makeTokenizer = .ok (some (.running c.tokenizerOptions)) := by
    simp [Config.makeTokenizer, ht, Tokenizer.ofRunning, ho, Except.map]
  cases newlines with
  | true =>
    have hn := LexedOptions.read_merge_newlines ho
    simp only [tokensOf, hm, bind, Except.bind, if_true, Tokenizer.tokensOf, TokenSource.ofText, hn,
      Except.map, Bool.true_or]
  | false =>
    simp [tokensOf, hm, bind, Except.bind, Tokenizer.tokensOf, TokenSource.ofText, ho, Except.map]

/-- The tokens of tokenized text, in which newlines are tokens where they end sentences. -/
theorem tokensOf_spaced {c : Config} {asked : Bool} (ht : c.tokenizer = .spaced)
    (ho : SpacedSource.readOptions c.tokenizerOptions = .ok asked) (stream : TextStream)
    (newlines : Bool) :
    tokensOf c stream newlines = .ok (.spaced { stream, newlines := newlines || asked }) := by
  have hm : c.makeTokenizer = .ok (some (.spaced c.tokenizerOptions)) := by
    simp [Config.makeTokenizer, ht, Tokenizer.ofSpaced, ho, Except.map]
  cases newlines with
  | true =>
    have hn := SpacedSource.readOptions_merge_newlines ho
    simp only [tokensOf, hm, bind, Except.bind, if_true, Tokenizer.tokensOf,
      TokenSource.ofTokenized, hn, Except.map, Bool.true_or]
  | false =>
    simp [tokensOf, hm, bind, Except.bind, Tokenizer.tokensOf, TokenSource.ofTokenized, ho,
      Except.map]

theorem tokensOf_tokenized {c : Config} (ht : c.tokenizer = .tokenized) (stream : TextStream)
    (newlines : Bool) : tokensOf c stream newlines = .ok (.spaced { stream, newlines }) := by
  have hm : c.makeTokenizer = .ok none := by simp [Config.makeTokenizer, ht]
  simp [tokensOf, hm, bind, Except.bind, pure, Except.pure]

/-- What tokens a stream can have: those of running text, or those of tokenized text. Newlines are
among them where they are to be. -/
theorem tokensOf_cases {c : Config} {stream : TextStream} {newlines : Bool} {source : TokenSource}
    (h : tokensOf c stream newlines = .ok source) :
    (∃ o, source = .lexed { stream, options := o } ∧ (newlines = true → o.newlines = true)) ∨
      ∃ asked, source = .spaced { stream, newlines := asked } ∧
        (newlines = true → asked = true) := by
  have hasked : ∀ asked, newlines = true → (newlines || asked) = true := by
    intro asked hn
    rw [hn, Bool.true_or]
  cases ht : c.tokenizer with
  | running =>
    cases ho : LexedOptions.read c.tokenizerOptions with
    | error fault =>
      simp [tokensOf, Config.makeTokenizer, ht, Tokenizer.ofRunning, ho, Except.map, bind,
        Except.bind] at h
    | ok o =>
      rw [tokensOf_running ht ho] at h
      exact .inl ⟨_, (Except.ok.inj h).symm, hasked o.newlines⟩
  | spaced =>
    cases ho : SpacedSource.readOptions c.tokenizerOptions with
    | error fault =>
      simp [tokensOf, Config.makeTokenizer, ht, Tokenizer.ofSpaced, ho, Except.map, bind,
        Except.bind] at h
    | ok asked =>
      rw [tokensOf_spaced ht ho] at h
      exact .inr ⟨_, (Except.ok.inj h).symm, hasked asked⟩
  | tokenized =>
    rw [tokensOf_tokenized ht] at h
    exact .inr ⟨_, (Except.ok.inj h).symm, id⟩

theorem tokensOf_of_ofStream {c : Config} {stream : TextStream} {s : Segmenter}
    (hm : c.tokenizerMaker = none) (hs : (ofStream c stream).1 = .ok s) :
    tokensOf c stream (newlinesEnd c) = .ok s.source := by
  simp only [ofStream, hm] at hs
  cases ht : tokensOf c stream (newlinesEnd c) with
  | error fault => simp [ht, Except.map] at hs
  | ok source =>
    simp only [ht, Except.map, Except.ok.injEq] at hs
    rw [← hs]
    rfl

theorem ofStream_running {c : Config} {o : LexedOptions} (hm : c.tokenizerMaker = none)
    (ht : c.tokenizer = .running) (ho : LexedOptions.read c.tokenizerOptions = .ok o)
    (stream : TextStream) :
    (ofStream c stream).1 = .ok (ofSource c (newlinesEnd c)
      (.lexed { stream, options := { o with newlines := newlinesEnd c || o.newlines } })) := by
  simp [ofStream, hm, tokensOf_running ht ho, Except.map]

theorem ofStream_spaced {c : Config} {asked : Bool} (hm : c.tokenizerMaker = none)
    (ht : c.tokenizer = .spaced) (ho : SpacedSource.readOptions c.tokenizerOptions = .ok asked)
    (stream : TextStream) :
    (ofStream c stream).1 = .ok (ofSource c (newlinesEnd c)
      (.spaced { stream, newlines := newlinesEnd c || asked })) := by
  simp [ofStream, hm, tokensOf_spaced ht ho, Except.map]

theorem newlinesEnd_running {c : Config} (ht : c.tokenizer = .running)
    (hx : c.explicitDelimiter = none) : newlinesEnd c = false := by
  simp [newlinesEnd, ht, hx, SentenceRules.newlinesEnd]

theorem tokensOf_accepted {c : Config} (h : c.OptionsAccepted) (stream : TextStream)
    (newlines : Bool) :
    ∃ source, tokensOf c stream newlines = .ok source ∧ source.stream = stream := by
  obtain ⟨tokenizer, h⟩ := h
  cases ht : c.tokenizer with
  | running =>
    cases ho : LexedOptions.read c.tokenizerOptions with
    | error fault => simp [Config.makeTokenizer, ht, Tokenizer.ofRunning, ho, Except.map] at h
    | ok o => exact ⟨_, tokensOf_running ht ho stream newlines, rfl⟩
  | spaced =>
    cases ho : SpacedSource.readOptions c.tokenizerOptions with
    | error fault => simp [Config.makeTokenizer, ht, Tokenizer.ofSpaced, ho, Except.map] at h
    | ok asked => exact ⟨_, tokensOf_spaced ht ho stream newlines, rfl⟩
  | tokenized => exact ⟨_, tokensOf_tokenized ht stream newlines, rfl⟩

/-- Where the options are accepted there is a segmenter over every stream, and it owns the
stream. -/
theorem ofStream_accepted {c : Config} (hm : c.tokenizerMaker = none) (h : c.OptionsAccepted)
    (stream : TextStream) : ∃ s, (ofStream c stream).1 = .ok s ∧ s.source.stream = stream := by
  obtain ⟨source, hs, hstream⟩ := tokensOf_accepted h stream (newlinesEnd c)
  exact ⟨ofSource c (newlinesEnd c) source, by simp [ofStream, hm, hs, Except.map], hstream⟩

end Segmenter

end SentenceReader

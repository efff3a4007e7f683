import SentenceReader.Proofs.Sentence.Opening
import SentenceReader.Proofs.Token.OptionTables

/-! Options of tokenizers that are overridden by others behind them, as those of settings are where
newlines end sentences: the tokens of newlines are asked for behind whatever the settings say. -/
namespace SentenceReader

namespace OptionTable

/-- One written list of options overrides another one: together they are accepted if each of them is, and
then say the table of the first one with that of the second one over it. The first key that is not
known is told. -/
structure Overrides (known : List Text) (a b : Text) : Prop where
  accepted : ∀ table, read known (merge [a, b]) = .ok table ↔
    ∃ first second, read known a = .ok first ∧ read known b = .ok second ∧ table = first.update second
  refused : ∀ key, read known (merge [a, b]) = .error key ↔
    (keys (entries a) ++ keys (entries b)).find? (· ∉ known) = some key
  values : ∀ first second, read known a = .ok first → read known b = .ok second →
    ∀ k, (first.update second).lookup k = (second.lookup k).or (first.lookup k)
  order : ∀ first second, read known a = .ok first → read known b = .ok second →
    keys (first.update second) = (keys (entries a) ++ keys (entries b)).eraseDups

theorem overrides (known : List Text) (a b : Text) : Overrides known a b where
  accepted table := by
    simp only [read_eq_ok_iff, entries_merge, keys_append, List.mem_append, or_imp, forall_and]
    constructor
    · rintro ⟨⟨ha, hb⟩, rfl⟩
      refine ⟨_, _, ⟨ha, rfl⟩, ⟨hb, rfl⟩, ?_⟩
      rw [update_update_nil, update_append]
    · rintro ⟨_, _, ⟨ha, rfl⟩, ⟨hb, rfl⟩, rfl⟩
      refine ⟨⟨ha, hb⟩, ?_⟩
      rw [update_update_nil, update_append]
  refused key := by rw [read_eq_error_iff, entries_merge, keys_append]
  values first second _ hb k := by
    obtain ⟨-, rfl⟩ := (read_eq_ok_iff known b second).1 hb
    rw [update_update_nil, lookup_update, lookup_update [], List.lookup_nil, Option.or_none]
  order first second ha hb := by
    obtain ⟨-, rfl⟩ := (read_eq_ok_iff known a first).1 ha
    obtain ⟨-, rfl⟩ := (read_eq_ok_iff known b second).1 hb
    rw [update_update_nil, ← update_append, keys_update_nil, keys_append]

/-- Options override others in front of them, key by key; what they say can be written down; and where
the explicit delimiter is white space, the tokens of newlines are asked for behind the options of the
settings, so that these say all but that. -/
theorem merges_by_overriding :
    (∀ known a b, Overrides known a b) ∧
    (∀ known written table, read known written = .ok table →
      (∀ e ∈ table, e.2 ≠ []) ∧ read known (write table) = .ok table) ∧
    ∀ (c : Config) (stream : TextStream), c.tokenizerMaker = none → c.OptionsAccepted →
      c.tokenizer ≠ .tokenized → c.explicitDelimiter.any Text.isBlankText = true →
      ∃ s, (Segmenter.ofStream c stream).1 = .ok s ∧
        ((∃ o, c.tokenizer = .running ∧ LexedOptions.read c.tokenizerOptions = .ok o ∧
            s.source = .lexed { stream, options := { o with newlines := true } }) ∨
          (c.tokenizer = .spaced ∧ s.source = .spaced { stream, newlines := true })) := by
  refine ⟨overrides, fun known written table h => ?_, fun c stream hm ha ht hx => ?_⟩
  · exact ⟨fun e he => (isWritable_of_read h e he).value_ne_nil, read_write h⟩
  · have hn : Segmenter.newlinesEnd c = true := by
      simp [Segmenter.newlinesEnd, ht, SentenceRules.newlinesEnd, hx]
    obtain ⟨tokenizer, ha⟩ := ha
    cases htokens : c.tokenizer with
    | running =>
      cases ho : LexedOptions.read c.tokenizerOptions with
      | error fault => simp [Config.makeTokenizer, htokens, Tokenizer.ofRunning, ho, Except.map] at ha
      | ok o =>
        refine ⟨_, Segmenter.ofStream_running hm htokens ho stream, .inl ⟨o, rfl, rfl, ?_⟩⟩
        rw [hn, Bool.true_or]
        rfl
    | spaced =>
      cases ho : SpacedSource.readOptions c.tokenizerOptions with
      | error fault => simp [Config.makeTokenizer, htokens, Tokenizer.ofSpaced, ho, Except.map] at ha
      | ok asked =>
        refine ⟨_, Segmenter.ofStream_spaced hm htokens ho stream, .inr ⟨rfl, ?_⟩⟩
        rw [hn, Bool.true_or]
        rfl
    | tokenized => exact absurd htokens ht

theorem merges_by_overriding_of_lists :
    read [['a'], ['b']] (merge [" a = 1,,b=x=y".toList, "b,".toList]) =
      .ok [(['a'], ['1']), (['b'], "true".toList)] ∧
    read [['a'], ['b']] (write [(['a'], ['1']), (['b'], "x=y".toList)]) =
      .ok [(['a'], ['1']), (['b'], "x=y".toList)] ∧
    let c : Config :=
      { explicitDelimiter := some [' '], tokenizerOptions := "tokenizeNLs=no,invertible".toList }
    ∃ s o, (Segmenter.ofStream c (.ofText [])).1 = .ok s ∧
      s.source = .lexed { stream := .ofText [], options := o } ∧ o.newlines = true ∧
      o.invertible = true := by
  obtain ⟨hmerge, hwrite, hsource⟩ := merges_by_overriding
  refine ⟨((hmerge _ _ _).accepted _).2 ⟨_, _, rfl, rfl, rfl⟩,
    (hwrite [['a'], ['b']] " a = 1,,b=x=y".toList _ rfl).2, ?_⟩
  intro c
  obtain ⟨s, hs, ⟨o, -, ho, h⟩ | ⟨h, -⟩⟩ := hsource c (.ofText []) rfl ⟨_, rfl⟩ (by decide) rfl
  · obtain rfl := Except.ok.inj ho
    exact ⟨s, _, hs, h, rfl, rfl⟩
  · exact nomatch h

end OptionTable

end SentenceReader

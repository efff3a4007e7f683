import SentenceReader.CommandLine.Run
import SentenceReader.Files.Tree
import SentenceReader.Proofs.CommandLine.Settings
import SentenceReader.Proofs.Sentence.Faults

/-! What a command line settles beforehand. Settings that it makes are good for every document and every
region of one, and are those of its file but for what its switches are about; where it makes none, it
says why, and nothing is opened. -/
namespace SentenceReader

section Except

variable {ε ε' α β : Type} {x : Except ε α} {f : α → Except ε β}

theorem bind_eq_ok_iff {b : β} : (x >>= f) = .ok b ↔ ∃ a, x = .ok a ∧ f a = .ok b := by
  cases x <;> simp [bind, Except.bind]

theorem bind_eq_error_iff {e : ε} :
    (x >>= f) = .error e ↔ x = .error e ∨ ∃ a, x = .ok a ∧ f a = .error e := by
  cases x <;> simp [bind, Except.bind]

theorem exists_of_mapError {g : ε → ε'} {e' : ε'} (h : x.mapError g = .error e') :
    ∃ e, x = .error e ∧ e' = g e := by
  cases x with
  | error e => exact ⟨e, rfl, (Except.error.inj h).symm⟩
  | ok a => exact nomatch h

end Except

def Fault.blamesArguments : Fault → Bool
  | noSource | unknownOption _ _ | badPattern _ _ => true
  | _ => false

theorem Fault.OfReading.blamesArguments {fault : Fault} (h : fault.OfReading) :
    fault.blamesArguments = false := by
  obtain ⟨cause, rfl⟩ := h
  unfold Fault.ofRead
  split <;> rfl

section Opens

variable [PatternHost]

/-- Settings with which every document can be begun, whatever its kind, and every region of one that is
met later. -/
structure Config.Opens (c : Config) : Prop where
  wholeText : ∀ stream, ∃ s, (Segmenter.ofStream c stream).1 = .ok s
  regions : ∀ stream, ∃ s, RegionSegmenter.ofStream c stream = .ok s
  later : ∀ stream s, RegionSegmenter.ofStream c stream = .ok s → ∀ calls,
    (∀ text, ((RegionSegmenter.calls.after s calls).takeUp text).result = .ok ()) ∧
      ∀ fault, .error fault ∈ RegionSegmenter.calls.answers s calls → fault.blamesArguments = false

theorem Config.Vetted.opens {c : Config} (h : c.Vetted) (hm : c.tokenizerMaker = none) : c.Opens := by
  have htokens : c.HasTokens := by
    rw [HasTokens, hm]
    exact h.options hm
  obtain ⟨pattern, hp⟩ := h.pattern
  refine ⟨fun stream => ?_, fun stream => ⟨_, RegionSegmenter.ofStream_of_pattern hp stream⟩, ?_⟩
  · obtain ⟨s, hs, -⟩ := htokens.ofStream stream
    exact ⟨s, hs⟩
  · intro stream s hs calls
    obtain ⟨_, -, rfl⟩ := RegionSegmenter.exists_pattern_of_ofStream hs
    obtain ⟨hconfig, hfaults⟩ :=
      RegionSegmenter.answers_of_hasTokens (s := { config := c, .. }) htokens calls
    refine ⟨fun text => (RegionSegmenter.takeUp_of_hasTokens (hconfig ▸ htokens) text).1,
      fun fault hf => ?_⟩
    rcases hfaults fault hf with rfl | hreading
    · rfl
    · exact hreading.blamesArguments

end Opens

namespace Config

section Loading

variable [PatternHost]

theorem ofYaml_ne_unreachable (host : Host) (place : Place) (source : Yaml.Source) (cause : SystemFault) :
    ofYaml host place source ≠ .error (.unreachable cause) := by
  unfold ofYaml ofData
  dsimp only
  have hchecked (args : Arguments) :
      (ofArguments args).mapError LoadFault.invalid ≠ .error (.unreachable cause) := by
    cases ofArguments args <;> simp [Except.mapError]
  split
  · simp
  · split
    · exact hchecked []
    · exact hchecked _
    · simp

/-- When it cannot be told whether there is a file with settings. -/
theorem loadFile_unreachable_iff (host : Host) (written : Text) :
    (∃ cause, loadFile host written = .error (.unreachable cause)) ↔
      (Path.ofText written).toText.contains '\x00' = false ∧
        ∃ cause, host.contains (Path.ofText written) = .error cause := by
  unfold loadFile
  dsimp only
  cases (Path.ofText written).toText.contains '\x00' with
  | true => simp
  | false =>
    cases host.contains (Path.ofText written) with
    | error cause => simp
    | ok there =>
      cases there with
      | false => simp
      | true =>
        cases host.openFile (Path.ofText written) with
        | error cause => simp
        | ok entry => simp [ofYaml_ne_unreachable]

end Loading

/-- The options of a tokenizer are all that can be wrong with it. -/
theorem exists_of_makeTokenizer_error {c : Config} {fault : Fault} (h : c.makeTokenizer = .error fault) :
    ∃ key known, fault = .unknownOption key known := by
  cases ht : c.tokenizer with
  | running =>
    cases ho : LexedOptions.read c.tokenizerOptions with
    | error cause =>
      simp only [makeTokenizer, ht, Tokenizer.ofRunning, ho, Except.map, Except.error.injEq] at h
      exact h ▸ LexedOptions.exists_of_read_error ho
    | ok o => simp [makeTokenizer, ht, Tokenizer.ofRunning, ho, Except.map] at h
  | spaced =>
    cases ho : SpacedSource.readOptions c.tokenizerOptions with
    | error cause =>
      simp only [makeTokenizer, ht, Tokenizer.ofSpaced, ho, Except.map, Except.error.injEq] at h
      exact h ▸ SpacedSource.exists_of_readOptions_error ho
    | ok o => simp [makeTokenizer, ht, Tokenizer.ofSpaced, ho, Except.map] at h
  | tokenized => simp [makeTokenizer, ht] at h

end Config

namespace CommandLine

/-- The settings that a switch is about. -/
def Switch.fields : Switch → List Text
  | xml => [Config.FieldName.elementFilter]
  | noTokenization => [Config.FieldName.explicitDelimiter]
  | tag => [Config.FieldName.tagDelimiter]
  | keepEmptySentences => [Config.FieldName.keepEmptySentences]
  | suppressEscaping | tokenizerOptions | printRawText =>
    [Config.FieldName.tokenizer, Config.FieldName.tokenizerOptions]
  | whitespaceTokenization => [Config.FieldName.tokenizer, Config.FieldName.sentenceDelimiters]
  | help | encoding | printSentenceLengths | config | verbose => []

/-- The faults that are told where there are no settings: a file with settings that cannot be loaded,
settings that are wrong, and an option that no tokenizer knows. -/
inductive SettingsFault.Told : SettingsFault → Prop
  | unloaded {fault : Config.LoadFault} (h : ∀ cause, fault ≠ .unreachable cause) : Told (.unloaded fault)
  | problems (found : List Config.Problem) : Told (.wrong (.problems found))
  | unknownOption (key : Text) (known : List Text) : Told (.unusable (.unknownOption key known))

namespace Request

/-- Whether a request has a switch that is about settings. -/
def has (r : Request) : Switch → Bool
  | .xml => r.xml.isSome
  | .noTokenization => r.noTokenization
  | .tag => r.tag.isSome
  | .keepEmptySentences => r.keepEmptySentences
  | .suppressEscaping => r.suppressEscaping
  | .tokenizerOptions => r.tokenizerOptions.isSome
  | .printRawText => r.printRawText
  | .whitespaceTokenization => r.whitespaceTokenization
  | .help | .encoding | .printSentenceLengths | .config | .verbose => false

/-- It can be told whether there is a file with settings where one is named. -/
def FindsFile (r : Request) (host : Host) : Prop :=
  ∀ written, r.config = some (.text written) → written ≠ [] →
    (Path.ofText written).toText.contains '\x00' = false →
      ∀ cause, host.contains (Path.ofText written) ≠ .error cause

section Updates

variable {r : Request}

/-- What is replaced is what some switch is about; the pattern for elements is replaced by the one that is
given. -/
theorem fields_of_mem_updates (r : Request) : ∀ u ∈ r.updates, ∃ s name, r.has s = true ∧
    name ∈ s.fields ∧ u.1 = .name name ∧
      (name = Config.FieldName.elementFilter → ∃ d ∈ r.xml, u.2 = .data d) := by
  have hgiven (s : Switch) (name : Text) (value : Argument) (hs : r.has s = true)
      (hname : name ∈ s.fields) (hother : name ≠ Config.FieldName.elementFilter) :
      ∃ s' name', r.has s' = true ∧ name' ∈ s'.fields ∧ ArgumentKey.name name = .name name' ∧
        (name' = Config.FieldName.elementFilter → ∃ d ∈ r.xml, value = .data d) :=
    ⟨s, name, hs, hname, rfl, fun h => absurd h hother⟩
  unfold updates
  dsimp only
  simp only [List.forall_mem_append]
  refine ⟨⟨⟨⟨?_, ?_⟩, ?_⟩, ?_⟩, ?_⟩
  · cases hx : r.xml with
    | none => simp
    | some d =>
      rintro _ (_ | ⟨_, ⟨⟩⟩)
      exact ⟨.xml, _, by simp [has, hx], .head _, rfl, fun _ => ⟨d, rfl, rfl⟩⟩
  · cases hn : r.noTokenization with
    | false => simp
    | true =>
      rintro _ (_ | ⟨_, ⟨⟩⟩)
      exact hgiven .noTokenization _ _ hn (.head _) (by decide)
  · cases ht : r.tag with
    | none => simp
    | some d =>
      rintro _ (_ | ⟨_, ⟨⟩⟩)
      exact hgiven .tag _ _ (by simp [has, ht]) (.head _) (by decide)
  · cases hk : r.keepEmptySentences with
    | false => simp
    | true =>
      rintro _ (_ | ⟨_, ⟨⟩⟩)
      exact hgiven .keepEmptySentences _ _ hk (.head _) (by decide)
  · split
    · next hs =>
      rintro _ (_ | ⟨_, _ | ⟨_, ⟨⟩⟩⟩)
      · exact hgiven .suppressEscaping _ _ hs (.head _) (by decide)
      · exact hgiven .suppressEscaping _ _ hs (.tail _ (.head _)) (by decide)
    · split
      · next value ho =>
        have hs : r.has .tokenizerOptions = true := by simp [has, ho]
        rintro _ (_ | ⟨_, _ | ⟨_, ⟨⟩⟩⟩)
        · exact hgiven .tokenizerOptions _ _ hs (.head _) (by decide)
        · exact hgiven .tokenizerOptions _ _ hs (.tail _ (.head _)) (by decide)
      · split
        · next hs =>
          rintro _ (_ | ⟨_, _ | ⟨_, ⟨⟩⟩⟩)
          · exact hgiven .printRawText _ _ hs (.head _) (by decide)
          · exact hgiven .printRawText _ _ hs (.tail _ (.head _)) (by decide)
        · split
          · next hs =>
            rintro _ (_ | ⟨_, _ | ⟨_, ⟨⟩⟩⟩)
            · exact hgiven .whitespaceTokenization _ _ hs (.head _) (by decide)
            · exact hgiven .whitespaceTokenization _ _ hs (.tail _ (.head _)) (by decide)
          · simp

theorem find?_updates {name : Text} {a : Argument}
    (h : Arguments.find? r.updates.reverse name = some a) : (.name name, a) ∈ r.updates := by
  obtain ⟨before, after, hupdates, -⟩ := List.lookup_eq_some_iff.1 h
  rw [← List.mem_reverse, hupdates]
  simp

/-- What no switch is about is not replaced. -/
theorem find?_updates_of_not_mem {name : Text} (h : ∀ s, r.has s = true → name ∉ s.fields) :
    Arguments.find? r.updates.reverse name = none := by
  cases hf : Arguments.find? r.updates.reverse name with
  | none => rfl
  | some a =>
    obtain ⟨s, _, hs, hname, ⟨⟩, -⟩ := r.fields_of_mem_updates _ (find?_updates hf)
    exact absurd hname (h s hs)

/-- No switch names a maker of tokenizers. -/
theorem tokenizerMaker_of_settings {c base : Config} (hm : base.tokenizerMaker = none)
    (h : ∀ name, (∀ s, r.has s = true → name ∉ s.fields) →
      c.toArguments.find? name = base.toArguments.find? name) : c.tokenizerMaker = none := by
  have hfield : ∀ s : Switch, Config.FieldName.tokenizerMaker ∉ s.fields := by
    rintro ⟨⟩ <;> decide
  have hkept := h Config.FieldName.tokenizerMaker fun s _ => hfield s
  have hfind (c : Config) : c.toArguments.find? Config.FieldName.tokenizerMaker =
      some (c.tokenizerMaker.elim (.data .null) .maker) := rfl
  rw [hfind, hfind, hm] at hkept
  cases hc : c.tokenizerMaker with
  | none => rfl
  | some maker => simp [hc] at hkept

end Updates

section Settling

variable [PatternHost]

/-- What a request settles before any document is opened. -/
structure Vets (r : Request) (host : Host) : Prop where
  /-- Settings that are found are good for all documents, and are those of the file, or the usual ones,
  but for what the switches are about. -/
  accepted : ∀ c, r.settings host = .ok c → ∃ base, r.baseSettings host = .ok base ∧
    (base.tokenizerMaker = none → c.Opens) ∧
    ∀ name, (∀ s, r.has s = true → name ∉ s.fields) →
      c.toArguments.find? name = base.toArguments.find? name
  /-- Where none are found, it is told why, and no document is opened. -/
  refused : ∀ fault, r.settings host = .error fault → fault.Told ∧
    ∀ input, (r.run host input).2.tried = [] ∧ (r.run host input).2.left = []

variable {r : Request} {host : Host} {c : Config}

/-- The pattern for elements is one of the settings of the file, or is given. -/
theorem override_ne_tooLarge {base : Config} {pattern : Pattern} {reason : PatternReason}
    (hp : Pattern.ofText base.elementFilter = .ok pattern)
    (hxml : ∀ d ∈ r.xml, ∀ written fault, Config.readText (.data d) = .ok written →
      Pattern.ofText written = .error fault → fault.reason.gravity = .malformed) :
    base.override r.updates ≠ .error (.tooLarge reason) := by
  have hnone : Config.tooLarge? (base.toArguments.update r.updates) = none := by
    unfold Config.tooLarge?
    rw [Arguments.find?_update]
    cases hf : Arguments.find? r.updates.reverse Config.FieldName.elementFilter with
    | none =>
      have hbase : base.toArguments.find? Config.FieldName.elementFilter =
          some (.data (.text base.elementFilter)) := rfl
      simp [hbase, Config.readText, hp]
    | some a =>
      obtain ⟨s, _, hs, hname, ⟨⟩, hgiven⟩ := r.fields_of_mem_updates _ (find?_updates hf)
      obtain ⟨d, hd, rfl⟩ : ∃ d ∈ r.xml, a = .data d := hgiven rfl
      rw [Option.some_or, Option.map_some]
      cases hr : Config.readText (.data d) with
      | error kind => rfl
      | ok written =>
        cases hw : Pattern.ofText written with
        | ok found => simp [hw]
        | error fault => simp [hw, hxml d hd written fault hr hw]
  unfold Config.override Config.ofArguments
  dsimp only
  rw [hnone]
  dsimp only
  split
  · simp
  · split <;> simp

/-- Where settings come from. -/
theorem settings_of_ok (h : r.settings host = .ok c) :
    ∃ base, r.baseSettings host = .ok base ∧ base.override r.updates = .ok c := by
  obtain ⟨base, hb, h⟩ := bind_eq_ok_iff.1 h
  obtain ⟨found, ho, h⟩ := bind_eq_ok_iff.1 h
  refine ⟨base, hb, (eq_ok_of_mapError ho).trans ?_⟩
  dsimp only at h
  split at h
  · obtain ⟨_, -, h⟩ := bind_eq_ok_iff.1 h
    exact congrArg Except.ok (Except.ok.inj h)
  · exact congrArg Except.ok (Except.ok.inj h)

/-- Why there are no settings: the file, what is made of it with the switches, or the tokenizer. -/
theorem settings_of_error {fault : SettingsFault} (h : r.settings host = .error fault) :
    r.baseSettings host = .error fault ∨ ∃ base, r.baseSettings host = .ok base ∧
      ((∃ refusal, base.override r.updates = .error refusal ∧ fault = .wrong refusal) ∨
        ∃ c cause, base.override r.updates = .ok c ∧ c.makeTokenizer = .error cause ∧
          fault = .unusable cause) := by
  refine (bind_eq_error_iff.1 h).imp_right ?_
  rintro ⟨base, hb, h⟩
  refine ⟨base, hb, ?_⟩
  rcases bind_eq_error_iff.1 h with h | ⟨c, ho, h⟩
  · obtain ⟨refusal, ho, rfl⟩ := exists_of_mapError h
    exact .inl ⟨refusal, ho, rfl⟩
  · dsimp only at h
    split at h
    · rcases bind_eq_error_iff.1 h with h | ⟨_, -, h⟩
      · obtain ⟨cause, ht, rfl⟩ := exists_of_mapError h
        exact .inr ⟨c, cause, eq_ok_of_mapError ho, ht, rfl⟩
      · exact nomatch h
    · exact nomatch h

theorem baseSettings_of_config {written : Text} (hc : r.config = some (.text written))
    (hne : written ≠ []) :
    r.baseSettings host = (Config.loadFile host written).mapError .unloaded := by
  obtain ⟨c, rest, rfl⟩ := List.exists_cons_of_ne_nil hne
  rw [baseSettings, hc]

/-- The settings to begin with are missing only where a file is named that they cannot be loaded from. -/
theorem baseSettings_of_error {fault : SettingsFault} (h : r.baseSettings host = .error fault) :
    ∃ written cause, r.config = some (.text written) ∧ written ≠ [] ∧
      Config.loadFile host written = .error cause ∧ fault = .unloaded cause := by
  unfold baseSettings at h
  split at h
  · next c rest hc =>
    cases hl : Config.loadFile host (c :: rest) with
    | ok base => simp [hl, Except.mapError] at h
    | error cause =>
      rw [hl] at h
      exact ⟨c :: rest, cause, hc, List.cons_ne_nil c rest, hl, (Except.error.inj h).symm⟩
  · exact nomatch h

/-- Where there are no settings no document is opened. -/
theorem run_of_settings_error {fault : SettingsFault} (h : r.settings host = .error fault)
    (input : StandardInput) : (r.run host input).2.tried = [] ∧ (r.run host input).2.left = [] := by
  rw [run, h]
  dsimp only
  split <;> exact ⟨rfl, rfl⟩

/-- A command line that makes settings makes such as are good for all that is read with them, and one that
does not says why and opens nothing, exactly if it can be told whether there is a file with settings where
one is named. The pattern for elements is one, or is not well-formed: no number in it is too large. -/
theorem vets_iff (hxml : ∀ d ∈ r.xml, ∀ written fault, Config.readText (.data d) = .ok written →
    Pattern.ofText written = .error fault → fault.reason.gravity = .malformed) :
    r.Vets host ↔ r.FindsFile host := by
  constructor
  · rintro ⟨-, hrefused⟩ written hc hne hnull fault hfault
    obtain ⟨cause, hload⟩ := (Config.loadFile_unreachable_iff host written).2 ⟨hnull, fault, hfault⟩
    have hs : r.settings host = .error (.unloaded (.unreachable cause)) := by
      rw [settings, baseSettings_of_config hc hne, hload]
      rfl
    obtain ⟨htold, -⟩ := hrefused _ hs
    cases htold with
    | unloaded h => exact h cause rfl
  · intro hfile
    refine ⟨fun c hs => ?_, fun fault hs => ⟨?_, run_of_settings_error hs⟩⟩
    · obtain ⟨base, hb, ho⟩ := settings_of_ok hs
      obtain ⟨args, -, hargs⟩ := exists_plain_of_baseSettings hb
      obtain ⟨pattern, hp⟩ := ((Config.ofArguments_eq_ok_iff args base).1 hargs).1.pattern.1
      have hsays := ((Config.ofArguments_eq_ok_iff _ c).1 ho).1
      have hkept (name : Text) (hname : ∀ s, r.has s = true → name ∉ s.fields) :
          c.toArguments.find? name = base.toArguments.find? name :=
        hsays.find?_of_none hp (find?_updates_of_not_mem hname)
      exact ⟨base, hb, fun hm => (vetted_of_settings hs).opens (tokenizerMaker_of_settings hm hkept),
        hkept⟩
    · rcases settings_of_error hs with hb | ⟨base, hb, ⟨refusal, ho, rfl⟩ | ⟨c, cause, -, ht, rfl⟩⟩
      · obtain ⟨written, cause, hc, hne, hload, rfl⟩ := baseSettings_of_error hb
        refine .unloaded fun reason hreason => ?_
        obtain ⟨hnull, found, hfound⟩ := (Config.loadFile_unreachable_iff host written).1
          ⟨reason, hreason ▸ hload⟩
        exact hfile written hc hne hnull found hfound
      · obtain ⟨args, -, hargs⟩ := exists_plain_of_baseSettings hb
        obtain ⟨pattern, hp⟩ := ((Config.ofArguments_eq_ok_iff args base).1 hargs).1.pattern.1
        cases refusal with
        | problems found => exact .problems found
        | tooLarge reason => exact absurd ho (override_ne_tooLarge hp hxml)
      · obtain ⟨key, known, rfl⟩ := Config.exists_of_makeTokenizer_error ht
        exact .unknownOption key known

end Settling

/-- A setting of a file goes with switches that are not about it. -/
theorem vets_of_file :
    let r : Request := { config := some (.text ['c']), xml := some (.text ['s']), noTokenization := true }
    let content := "keep_internal_tags: true".toList.map fun c => c.toNat.toUInt8
    let host : Host := (FileTree.ofList [(['c'], .bytes content)]).host
    (∀ d ∈ r.xml, ∀ written fault, Config.readText (.data d) = .ok written →
      Pattern.ofText written = .error fault → fault.reason.gravity = .malformed) ∧
    r.FindsFile host ∧ r.Vets host ∧ ∃ c, r.settings host = .ok c ∧ c.Opens ∧ c.keepInternalTags = true := by
  intro r content host
  have hxml : ∀ d ∈ r.xml, ∀ written fault, Config.readText (.data d) = .ok written →
      Pattern.ofText written = .error fault → fault.reason.gravity = .malformed := by
    rintro d ⟨⟩ written fault ⟨⟩ hw
    exact nomatch hw
  have hfile : r.FindsFile host := by
    rintro written ⟨⟩ - - cause hcause
    exact nomatch hcause
  have hvets : r.Vets host := (vets_iff hxml).2 hfile
  have hbase : (r.baseSettings host).toOption.map (fun c => (c.tokenizerMaker, c.keepInternalTags)) =
      some (none, true) := by
    decide +kernel
  have hok : (r.settings host).isOk = true := by decide +kernel
  cases hs : r.settings host with
  | error fault =>
    rw [hs] at hok
    exact nomatch hok
  | ok c =>
    obtain ⟨base, hb, hopens, hkept⟩ := hvets.accepted c hs
    rw [hb] at hbase
    obtain ⟨hm, htags⟩ : base.tokenizerMaker = none ∧ base.keepInternalTags = true := by
      simpa [Except.toOption] using hbase
    have hfield : c.toArguments.find? Config.FieldName.keepInternalTags =
        base.toArguments.find? Config.FieldName.keepInternalTags := by
      refine hkept _ ?_
      rintro ⟨⟩ <;> decide
    have hsame : some (Argument.data (.bool c.keepInternalTags)) =
        some (.data (.bool base.keepInternalTags)) := hfield
    simp only [Option.some.injEq, Argument.data.injEq, Data.bool.injEq] at hsame
    exact ⟨hxml, hfile, hvets, c, rfl, hopens hm, hsame.trans htags⟩

/-- The name of a file that is too long is neither told as such nor taken for that of a missing one. -/
theorem not_vets_of_long_name :
    let written : Text := List.replicate 256 'a'
    let r : Request := { config := some (.text written) }
    let host : Host := ({} : FileTree).host
    (∃ cause, r.settings host = .error (.unloaded (.unreachable cause))) ∧ ¬ r.Vets host := by
  intro written r host
  have hfault : host.contains (Path.ofText written) = .error (FileTree.tooLong (Path.ofText written)) := by
    decide +kernel
  have hnull : (Path.ofText written).toText.contains '\x00' = false := by decide +kernel
  obtain ⟨cause, hload⟩ := (Config.loadFile_unreachable_iff host written).2 ⟨hnull, _, hfault⟩
  have hs : r.settings host = .error (.unloaded (.unreachable cause)) := by
    rw [settings, baseSettings_of_config rfl (by decide), hload]
    rfl
  refine ⟨⟨cause, hs⟩, fun h => ?_⟩
  obtain ⟨htold, -⟩ := h.refused _ hs
  cases htold with
  | unloaded hne => exact hne cause rfl

end Request

end CommandLine

end SentenceReader

import SentenceReader.CommandLine.Settings
import SentenceReader.Proofs.Config.Overriding
import SentenceReader.Proofs.Document.Draining

/-! The settings of a command line. They are made of plain data, from a file and from switches, and are
looked at before any document is opened. -/
namespace SentenceReader

theorem eq_ok_of_mapError {ε ε' α : Type} {f : ε → ε'} {x : Except ε α} {a : α}
    (h : x.mapError f = .ok a) : x = .ok a := by
  cases x with
  | error fault => simp [Except.mapError] at h
  | ok found => exact congrArg Except.ok (Except.ok.inj h)

namespace Arguments

/-- No argument is a part of the program but what is in place of a maker of tokenizers and makes none. -/
def Plain (args : Arguments) : Prop :=
  ∀ a ∈ args, ∀ maker, a.2 = .maker maker → ∃ kind, maker = .unusable kind

theorem Plain.of_find? {args : Arguments} (h : args.Plain) {name : Text} {maker : TokenizerMaker}
    (hf : args.find? name = some (.maker maker)) : ∃ kind, maker = .unusable kind := by
  obtain ⟨before, after, hargs, -⟩ := List.lookup_eq_some_iff.1 hf
  exact h (.name name, .maker maker) (by rw [hargs]; simp) maker rfl

theorem plain_ofEntries (entries : List (Data × Data)) : (ofEntries entries).Plain := by
  intro a ha maker hm
  obtain ⟨e, -, rfl⟩ := List.mem_map.1 ha
  cases hm

theorem Plain.set {args : Arguments} (h : args.Plain) {key : ArgumentKey} (d : Data) :
    (args.set key (.data d)).Plain := by
  induction args with
  | nil =>
    intro a ha maker hm
    rw [Arguments.set, List.mem_singleton] at ha
    subst ha
    cases hm
  | cons e rest ih =>
    obtain ⟨he, hrest⟩ := List.forall_mem_cons.1 h
    rw [Arguments.set]
    split
    · refine List.forall_mem_cons.2 ⟨fun maker hm => ?_, hrest⟩
      cases hm
    · exact List.forall_mem_cons.2 ⟨he, ih hrest⟩

/-- Overriding by data adds no part of the program. -/
theorem Plain.update {args : Arguments} (h : args.Plain) {updates : Arguments}
    (hu : ∀ u ∈ updates, ∃ d, u.2 = .data d) : (args.update updates).Plain := by
  unfold Arguments.update
  induction updates generalizing args with
  | nil => exact h
  | cons u updates ih =>
    obtain ⟨hd, hrest⟩ := List.forall_mem_cons.1 hu
    obtain ⟨d, hd⟩ := hd
    rw [List.foldl_cons, hd]
    exact ih (h.set d) hrest

end Arguments

namespace Config

theorem plain_toArguments {c : Config} (h : ∀ maker ∈ c.tokenizerMaker, ∃ kind, maker = .unusable kind) :
    c.toArguments.Plain := by
  have hmaker : ∀ maker, c.tokenizerMaker.elim (.data .null) Argument.maker = .maker maker →
      ∃ kind, maker = .unusable kind := by
    intro maker hm
    cases hc : c.tokenizerMaker with
    | none => simp [hc] at hm
    | some found =>
      rw [hc, Option.elim_some] at hm
      exact Argument.maker.inj hm ▸ h found hc
  have hescaper : ∀ maker, c.escaper.elim (.data .null) Argument.escaper ≠ .maker maker := by
    intro maker
    cases c.escaper <;> simp
  simpa [Arguments.Plain, toArguments, hescaper] using hmaker

/-- Settings of plain data name no maker of tokenizers that is one. -/
theorem Says.maker [PatternHost] {args : Arguments} {c : Config} (h : Says args c) (hp : args.Plain) :
    ∀ maker ∈ c.tokenizerMaker, ∃ kind, maker = .unusable kind := by
  have hm := h.tokenizerMaker
  unfold Checked.argument at hm
  cases hf : args.find? FieldName.tokenizerMaker with
  | none =>
    simp only [hf, Checked.mk.injEq, and_true] at hm
    simp [← hm]
  | some a =>
    have hread : readMaker a = .ok c.tokenizerMaker := by
      cases hr : readMaker a <;> simp_all [Checked.wrong]
    intro maker hmaker
    rw [Option.mem_def] at hmaker
    rw [hmaker] at hread
    cases a with
    | maker m =>
      simp only [readMaker, Except.ok.injEq, Option.some.injEq] at hread
      exact hread ▸ hp.of_find? hf
    | escaper e => exact ⟨_, (Option.some.inj (Except.ok.inj hread)).symm⟩
    | data d =>
      cases d <;> simp only [readMaker, Except.ok.injEq, Option.some.injEq, reduceCtorEq] at hread <;>
        exact ⟨_, hread.symm⟩

/-- Settings that are loaded are made of plain data. -/
theorem exists_plain_of_ofData [PatternHost] {place : Place} {d : Data} {c : Config}
    (h : ofData place d = .ok c) :
    ∃ args : Arguments, args.Plain ∧ ofArguments args = .ok c := by
  unfold ofData at h
  dsimp only at h
  split at h
  · exact ⟨[], by simp [Arguments.Plain], eq_ok_of_mapError h⟩
  · next entries => exact ⟨_, Arguments.plain_ofEntries entries, eq_ok_of_mapError h⟩
  · simp at h

theorem exists_plain_of_loadFile [PatternHost] {host : Host} {written : Text} {c : Config}
    (h : loadFile host written = .ok c) : ∃ args : Arguments, args.Plain ∧ ofArguments args = .ok c := by
  unfold loadFile at h
  dsimp only at h
  split at h
  · simp at h
  · split at h
    · simp at h
    · simp at h
    · split at h
      · simp at h
      · unfold ofYaml at h
        split at h
        · simp at h
        · exact exists_plain_of_ofData h

end Config

namespace CommandLine.Request

/-- What switches ask for is plain data. -/
theorem updates_data (r : Request) : ∀ u ∈ r.updates, ∃ d, u.2 = .data d := by
  unfold updates
  dsimp only
  simp only [List.forall_mem_append]
  refine ⟨⟨⟨⟨?_, ?_⟩, ?_⟩, ?_⟩, ?_⟩
  · cases r.xml <;> simp
  · split <;> simp
  · cases r.tag <;> simp
  · split <;> simp
  · split
    · simp
    · split
      · simp
      · split
        · simp
        · split <;> simp

variable [PatternHost] {r : Request} {host : Host} {c : Config}

theorem exists_plain_of_baseSettings (h : r.baseSettings host = .ok c) :
    ∃ args : Arguments, args.Plain ∧ Config.ofArguments args = .ok c := by
  unfold baseSettings at h
  split at h
  · exact Config.exists_plain_of_loadFile (eq_ok_of_mapError h)
  · obtain rfl := Except.ok.inj h
    exact ⟨[], by simp [Arguments.Plain], rfl⟩

/-- The settings of a command line are looked at before any document is opened. -/
theorem vetted_of_settings (h : r.settings host = .ok c) : c.Vetted := by
  unfold settings at h
  cases hb : r.baseSettings host with
  | error fault => simp [hb, bind, Except.bind] at h
  | ok base =>
    obtain ⟨args, hplain, hargs⟩ := exists_plain_of_baseSettings hb
    have hmaker := ((Config.ofArguments_eq_ok_iff args base).1 hargs).1.maker hplain
    have hupdated := (Config.plain_toArguments hmaker).update r.updates_data
    simp only [hb, bind, Except.bind] at h
    cases hc : base.override r.updates with
    | error refusal => simp [hc, Except.mapError] at h
    | ok config =>
      simp only [hc, Except.mapError] at h
      have hmade := ((Config.ofArguments_eq_ok_iff _ config).1 hc).1
      cases hm : config.tokenizerMaker with
      | some maker =>
        obtain rfl : config = c := by simpa [hm, pure, Except.pure] using h
        exact ⟨hmade.pattern.1, by simp [hm], hmade.maker hupdated⟩
      | none =>
        cases ht : config.makeTokenizer with
        | error fault => simp [hm, ht] at h
        | ok tokenizer =>
          obtain rfl : config = c := by simpa [hm, ht, Except.mapError, pure, Except.pure] using h
          exact ⟨hmade.pattern.1, fun _ => ⟨tokenizer, ht⟩, hmade.maker hupdated⟩

/-- Without switches for them the settings are the usual ones. -/
theorem settings_of_files (files : List Text) (encoding : Data) (host : Host) :
    ({ files, encoding } : Request).settings host = .ok {} := by
  have hstandard : Config.override {} [] = .ok {} :=
    (Config.ofArguments_eq_ok_iff _ _).2 ⟨Config.says_toArguments (c := {}) rfl, rfl⟩
  have hupdates : ({ files, encoding } : Request).updates = [] := rfl
  rw [settings, hupdates]
  change ((Config.override {} []).mapError SettingsFault.wrong >>= _) = _
  rw [hstandard]
  rfl

end CommandLine.Request

end SentenceReader

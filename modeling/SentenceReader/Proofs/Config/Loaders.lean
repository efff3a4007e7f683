import Mathlib.Data.List.TakeWhile
import SentenceReader.Config.Loading
import SentenceReader.Files.Tree
import SentenceReader.Proofs.Encoding.Documents

/-! Settings from a text, and from a file with the same text. Both go the same way but for what YAML is
read from, and for what becomes of a fault in it: of a file every fault is one of loading, of a text only
that it is no YAML. -/
namespace SentenceReader

/-- A file at a written path that holds a text in UTF-8, however many bytes its reads give. -/
structure Host.Holds (host : Host) (written t : Text) : Prop where
  path : '\x00' ∉ (Path.ofText written).toText
  contains : host.contains (Path.ofText written) = .ok true
  opened : ∃ limits, host.openFile (Path.ofText written) = .ok { bytes := t.utf8, limits }

def Host.ofText (written t : Text) : Host := (FileTree.ofList [(written, .bytes t.utf8)]).host

namespace Config

/-- Whether a fault is one of loading settings; any other one comes through as it was met. -/
def LoadFault.isOfLoading : LoadFault → Bool
  | unreachable _ => false
  | yaml .text fault => fault = .malformed
  | _ => true

/-- Loads with the same outcome: equal settings, or faults of loading. -/
def Agree (a b : Except LoadFault Config) : Prop :=
  (∃ c, a = .ok c ∧ b = .ok c) ∨
    ∃ fault fault', a = .error fault ∧ b = .error fault' ∧
      fault.isOfLoading = true ∧ fault'.isOfLoading = true

theorem Agree.isOfLoading {a b : Except LoadFault Config} (h : Agree a b) {fault : LoadFault} :
    (a = .error fault → fault.isOfLoading = true) ∧ (b = .error fault → fault.isOfLoading = true) := by
  rcases h with ⟨c, rfl, rfl⟩ | ⟨first, second, rfl, rfl, hfirst, hsecond⟩
  · exact ⟨nofun, nofun⟩
  · exact ⟨fun h => Except.error.inj h ▸ hfirst, fun h => Except.error.inj h ▸ hsecond⟩

variable [PatternHost] {host : Host} {written t : Text}

theorem loadFile_of_holds (hr : '\r' ∉ t) (h : host.Holds written t) :
    loadFile host written = ofYaml host (.file (Path.ofText written)) (.file { text := t }) := by
  have hpath : (Path.ofText written).toText.contains '\x00' = false := by
    simpa using h.path
  obtain ⟨limits, hopened⟩ := h.opened
  simp only [loadFile, hpath, h.contains, hopened, Decoding.read_utf8 _ hr]
  rfl

/-- The place of some data matters only where there is no mapping, and then for nothing but the words. -/
theorem ofData_cases (d : Data) :
    (∃ args, ∀ place, ofData place d = (ofArguments args).mapError .invalid) ∨
      ∀ place, ofData place d = .error (.notAMapping place d.kind) := by
  cases d with
  | null => exact .inl ⟨[], fun _ => rfl⟩
  | mapping entries => exact .inl ⟨.ofEntries entries, fun _ => rfl⟩
  | _ => exact .inr fun _ => rfl

theorem agree_ofData (d : Data) (place place' : Place) : Agree (ofData place d) (ofData place' d) := by
  rcases ofData_cases d with ⟨args, h⟩ | h
  · rw [h, h]
    cases ofArguments args with
    | ok c => exact .inl ⟨c, rfl, rfl⟩
    | error refusal => exact .inr ⟨_, _, rfl, rfl, rfl, rfl⟩
  · rw [h, h]
    exact .inr ⟨_, _, rfl, rfl, rfl, rfl⟩

/-- Of a file, every fault in the YAML is one of loading. -/
theorem isOfLoading_of_ofYaml {path : Path} {source : Yaml.Source} {fault : LoadFault}
    (h : ofYaml host (.file path) source = .error fault) : fault.isOfLoading = true := by
  unfold ofYaml at h
  split at h
  · exact Except.error.inj h ▸ rfl
  · exact (agree_ofData _ .text _).isOfLoading.2 h

/-- Settings from a text and from a file with it agree exactly where the YAML has a value or is not
well-formed, whatever reads it, if only the text counts for that. Any other fault is one of loading only for
the file, and comes through as it is met for the text. -/
theorem loads_agree_iff (hr : '\r' ∉ t) (hfile : host.Holds written t)
    (hyaml : host.yaml (.file { text := t }) = host.yaml (.text t)) :
    (∀ fault, loadFile host written = .error fault → fault.isOfLoading = true) ∧
      (Agree (loadText host t) (loadFile host written) ↔
        ∀ fault, host.yaml (.text t) = .error fault → fault = .malformed) ∧
      ∀ fault, host.yaml (.text t) = .error fault → fault ≠ .malformed →
        loadText host t = .error (.yaml .text fault) ∧
          loadFile host written = .error (.yaml (.file (Path.ofText written)) fault) := by
  rw [loadFile_of_holds hr hfile]
  refine ⟨fun _ => isOfLoading_of_ofYaml, ?_, fun fault hload _ => ?_⟩
  · rw [loadText, ofYaml, ofYaml, hyaml]
    cases hload : host.yaml (.text t) with
    | ok d => exact iff_of_true (agree_ofData d _ _) nofun
    | error fault =>
      refine ⟨fun hagree fault' hf => ?_, fun honly => ?_⟩
      · obtain rfl := Except.error.inj hf
        exact of_decide_eq_true (hagree.isOfLoading.1 rfl)
      · obtain rfl := honly fault rfl
        exact .inr ⟨_, _, rfl, rfl, rfl, rfl⟩
  · simp only [loadText, ofYaml, hyaml, hload, and_self]

end Config

/-- Where all characters are allowed, only the text counts for what is read from it. -/
theorem Yaml.load_file {t : Text} (h : t.all isAllowed = true) :
    load (.file { text := t }) = load (.text t) := by
  have htake : t.takeWhile isAllowed = t := List.takeWhile_eq_self_iff.mpr (List.all_eq_true.mp h)
  have hinput : Input.ofSource (.file { text := t }) = Input.ofSource (.text t) := by
    simp [Input.ofSource, Input.ofText, Input.ofReading, htake, h]
  rw [load, hinput, ← load]

namespace Config

theorem loads_agree_of_file :
    let t := "tag_delimiter: é".toList
    let host := Host.ofText "d/c".toList t
    '\r' ∉ t ∧ host.Holds "d/c".toList t ∧ host.yaml (.file { text := t }) = host.yaml (.text t) ∧
      Agree (loadText host t) (loadFile host "d/c".toList) := by
  intro t host
  have hr : '\r' ∉ t := by decide
  have hfile : host.Holds "d/c".toList t := ⟨by decide +kernel, by decide +kernel, [], by decide +kernel⟩
  have hyaml : host.yaml (.file { text := t }) = host.yaml (.text t) := Yaml.load_file (by decide)
  have hload : (host.yaml (.text t)).isOk = true := by decide +kernel
  refine ⟨hr, hfile, hyaml, (loads_agree_iff hr hfile hyaml).2.1.mpr fun fault h => ?_⟩
  rw [h] at hload
  exact nomatch hload

/-- A date that no calendar has is no value, and YAML all the same. -/
theorem impossible_date_comes_through :
    let t := "a: 2020-13-45".toList
    let host := Host.ofText ['c'] t
    '\r' ∉ t ∧ host.Holds ['c'] t ∧ host.yaml (.file { text := t }) = host.yaml (.text t) ∧
      ¬ Agree (loadText host t) (loadFile host ['c']) := by
  intro t host
  refine ⟨by decide, ⟨by decide +kernel, by decide +kernel, [], by decide +kernel⟩,
    Yaml.load_file (by decide), fun hagree => ?_⟩
  have hfault : (match loadText host t with
      | .ok _ => true
      | .error fault => fault.isOfLoading) = false := by decide +kernel
  rcases hagree with ⟨c, hc, -⟩ | ⟨fault, _, hf, -, hloading, -⟩
  · rw [hc] at hfault
    exact nomatch hfault
  · rw [hf] at hfault
    exact nomatch hfault.symm.trans hloading

end Config

end SentenceReader

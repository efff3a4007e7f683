import SentenceReader.Files.Tree
import SentenceReader.Proofs.CommandLine.Writing

/-! The numbers that runs give back. A run that can follow its command line gives back zero or one,
unless it meets a fault that is not foreseen; which fault it meets first can be told from what it
reads. -/
namespace SentenceReader.CommandLine

/-- The faults that end a run without a number. -/
inductive RunFault.Escapes : RunFault → Prop
  /-- The pattern for elements has a number in it that is too large, or is too deep. -/
  | tooLarge (reason : PatternReason) : Escapes (settings (.wrong (.tooLarge reason)))
  /-- It cannot be told whether there is a file with settings. -/
  | unreachable (cause : SystemFault) : Escapes (settings (.unloaded (.unreachable cause)))
  /-- The standard input cannot be decoded as it is asked for. -/
  | unknownEncoding (cause : OpenFault) : Escapes (unknownEncoding cause)
  | notAnEncoding (caller : String) : Escapes (notAnEncoding caller)
  /-- The path of a document, or its encoding, holds a null character. -/
  | unopened (path : Text) {cause : OpenFault} (misuse : cause.isMisuse = true) :
    Escapes (document (.unopened path cause))
  /-- A document can be read, but not decompressed or decoded: it ends too early, has no mark where its
  encoding needs one, or what decompresses or decodes it fails in a way of its own. -/
  | misused (cause : ReadFault) : Escapes (document (.ofSequence (.misused cause)))
  /-- A file with settings names a maker of tokenizers. -/
  | notATokenizerMaker (kind : String) : Escapes (document (.ofSequence (.notATokenizerMaker kind)))
  /-- The line of a sentence cannot be written. -/
  | unwritable (words : Text) : Escapes (unwritable words)

theorem RunFault.isForeseen_iff (fault : RunFault) : fault.isForeseen = true ↔ ¬ fault.Escapes := by
  constructor
  · rintro h ⟨⟩ <;> simp_all [isForeseen, SettingsFault.isForeseen]
  · intro h
    by_contra hno
    apply h
    unfold isForeseen at hno
    split at hno
    · exact .misused _
    · exact .notATokenizerMaker _
    · exact .unopened _ (by simpa using hno)
    · exact absurd rfl hno
    · exact .unknownEncoding _
    · exact .notAnEncoding _
    · exact .unwritable _
    · unfold SettingsFault.isForeseen at hno
      split at hno
      · exact .tooLarge _
      · exact .unreachable _
      · exact absurd rfl hno

namespace Request

section Runs

variable [PatternHost] (r : Request) (host : Host) (input : StandardInput)

/-- What keeps a run from being done, if something does: its settings, or the first of its documents
that cannot be opened, not be read to its end, or not be written. -/
def trouble? : Option RunFault :=
  match r.settings host with
  | .error fault => some (.settings fault)
  | .ok c => r.sources.findSome? fun source => r.fault? host (r.openSource c host input source)

/-- The number that a run gives back tells whether it was done. -/
theorem code?_run : (r.run host input).1.code? =
    match r.trouble? host input with
    | none => some 0
    | some fault => if fault.isForeseen then some 1 else none := by
  unfold trouble?
  cases h : r.settings host with
  | error fault =>
    rw [run, h]
    have hforeseen : (RunFault.settings fault).isForeseen = fault.isForeseen := rfl
    dsimp only
    by_cases hf : fault.isForeseen = true
    · rw [if_pos hf, if_pos (hforeseen.trans hf)]
      rfl
    · rw [if_neg hf, if_neg (hforeseen ▸ hf)]
      rfl
  | ok c =>
    obtain ⟨tried, ss, t, -, hrun⟩ := writeDocuments_ends (r := r) host r.sources
      (fun source _ => untouched_openSource h input source) {}
    dsimp only
    rw [run_of_settings h, hrun]
    cases r.sources.findSome? fun source => r.fault? host (r.openSource c host input source) with
    | none => rfl
    | some fault => exact code?_endWith t fault

end Runs

end Request

/-- A run that follows its command line gives back zero or one exactly if what it meets first is not one
of the faults that end it without a number. -/
theorem code?_run_iff [PatternHost] {words : List Text} {r : Request} (h : Request.ofWords words = .ok r)
    (host : Host) (input : StandardInput) :
    (run words host input).1.code? = some 0 ∨ (run words host input).1.code? = some 1 ↔
      ∀ fault, r.trouble? host input = some fault → ¬ fault.Escapes := by
  have hrun : run words host input = r.run host input := by rw [run, h]
  rw [hrun, r.code?_run]
  cases r.trouble? host input with
  | none => simp
  | some fault =>
    simp only [Option.some.injEq, forall_eq', ← RunFault.isForeseen_iff]
    cases fault.isForeseen <;> simp

/-- An encoding that is not known is foreseen where a document in a file is opened. -/
theorem code?_run_of_file :
    let words := ["--encoding".toList, "bogus".toList, "a".toList]
    let r : Request := { files := ["a".toList], encoding := .text "bogus".toList }
    let host : Host := (FileTree.ofList [("a".toList, .bytes [65, 46])]).host
    Request.ofWords words = .ok r ∧
      ((run words host (.bytes {})).1.code? = some 0 ∨ (run words host (.bytes {})).1.code? = some 1) := by
  intro words r host
  have hwords : Request.ofWords words = .ok r := rfl
  refine ⟨hwords, (code?_run_iff hwords host (.bytes {})).2 ?_⟩
  have htrouble : r.trouble? host (.bytes {}) =
      some (.document (.unopened ['a'] (.unknownEncoding "unknown encoding: bogus".toList))) := by
    rw [Request.trouble?, Request.settings_of_files]
    rfl
  intro fault hf
  rw [htrouble] at hf
  obtain rfl := Option.some.inj hf
  rw [← RunFault.isForeseen_iff]
  rfl

/-- An encoding that is not known is not foreseen for the standard input. -/
theorem code?_run_of_standard_input :
    let words := ["--encoding".toList, "bogus".toList]
    let host : Host := ({} : FileTree).host
    ∃ r, Request.ofWords words = .ok r ∧ (run words host (.bytes { bytes := [65, 46] })).1.code? = none := by
  intro words host
  let r : Request := { encoding := .text "bogus".toList }
  let input : StandardInput := .bytes { bytes := [65, 46] }
  have hwords : Request.ofWords words = .ok r := rfl
  have htrouble : r.trouble? host input =
      some (.unknownEncoding (.unknownEncoding "unknown encoding: bogus".toList)) := by
    rw [Request.trouble?, Request.settings_of_files]
    rfl
  have hrun : run words host input = r.run host input := by rw [run, hwords]
  refine ⟨r, hwords, ?_⟩
  rw [hrun, r.code?_run, htrouble]
  rfl

end SentenceReader.CommandLine

import SentenceReader.Files.Tree
import SentenceReader.Proofs.CommandLine.Writing

/-! Runs over files. The files are read one after the other, each as if it were the only one, up to the
first that cannot be read to its end. -/
namespace SentenceReader.CommandLine.Request

theorem sources_of_files {r : Request} (h : r.files ≠ []) : r.sources = r.files.map some := by
  rw [sources, if_neg (by simpa using h)]

section Runs

variable [PatternHost]

/-- What a run over one file alone prints. -/
def alone (r : Request) (host : Host) (input : StandardInput) (file : Text) : Text :=
  (Request.run { r with files := [file] } host input).2.outputText

/-- What a run over files does, where there are settings to read them with. -/
structure RunsOverFiles (r : Request) (c : Config) (host : Host) (input : StandardInput) : Prop where
  /-- Where every file can be read to its end, and its lines can be written, each adds what it prints
  alone. At the end the sentences that were written are counted. -/
  done : (∀ f ∈ r.files, r.fault? host (r.fileDocument c host f) = none) →
    (r.run host input).1.code? = some 0 ∧
      (r.run host input).2.outputText = (r.files.map (r.alone host input)).flatten ∧
      (r.run host input).2.tried.reverse = r.files.map some ∧
      ∃ sss notes, List.Forall₂ (fun f ss => Opened.Yields (r.fileDocument c host f) ss) r.files sss ∧
        (r.run host input).2.output.reverse = sss.flatten.map r.lineText ∧
        (r.run host input).2.notes = (summary sss.flatten.length ++ ['\n']) :: notes ∧
        ∀ line ∈ notes, ¬ Transcript.IsSummary line
  /-- The first file that cannot be opened, or not be read to its end, ends the run: its sentences are
  written up to that point, no sentences are counted, and no other file is tried. -/
  failed : ∀ before f later fault, r.files = before ++ f :: later →
    (∀ g ∈ before, r.fault? host (r.fileDocument c host g) = none) →
    r.fault? host (r.fileDocument c host f) = some fault → fault.isForeseen = true →
    (r.run host input).1.code? = some 1 ∧
      (r.run host input).2.tried.reverse = (before ++ [f]).map some ∧
      (∀ line ∈ (r.run host input).2.notes, ¬ Transcript.IsSummary line) ∧
      ∃ ss, Opened.Yields (r.fileDocument c host f) ss ∧
        (r.run host input).2.outputText =
          (before.map (r.alone host input)).flatten ++ (ss.map r.lineText).flatten
  /-- However the run ends, every document that was opened is closed. -/
  closed : (∀ d ∈ (r.run host input).2.left, d.isClosed = true) ∧
    (r.run host input).2.left.length =
      (r.run host input).2.tried.countP fun source => (r.openSource c host input source).isOk

variable {r : Request} {c : Config} {host : Host} {input : StandardInput}

/-- A file alone prints its sentences, up to the fault that it breaks off with, if it does, or to a line
that cannot be written. -/
theorem alone_eq (h : r.settings host = .ok c) {f : Text} {ss : List Sentence}
    (hy : Opened.Yields (r.fileDocument c host f) ss) :
    r.alone host input f = ((r.writable host ss).map r.lineText).flatten := by
  let r' : Request := { r with files := [f] }
  have hsettings : r'.settings host = .ok c := h
  have hopen : Opened.Yields (r'.openSource c host input (some f)) ss := hy
  obtain ⟨t, hpasses, hrun⟩ := writeDocuments_cons (r := r') host hopen [] {}
  have hend : (r'.run host input).2.outputText = t.outputText := by
    rw [run_of_settings hsettings, sources_of_files (by simp [r'])]
    change (r'.writeDocuments host _ [some f] {}).2.outputText = _
    rw [hrun]
    cases r'.fault? host (r'.openSource c host input (some f)) with
    | none => rfl
    | some fault =>
      have hend := (passes_endWith (r := r') (r'.openSource c host input) t fault).outputText
      rwa [List.map_nil, List.flatten_nil, List.append_nil] at hend
  exact hend.trans hpasses.outputText

/-- Files without faults print together what each of them prints alone. -/
theorem flatten_map_alone (h : r.settings host = .ok c) {files : List Text} {sss : List (List Sentence)}
    (hfine : ∀ f ∈ files, r.fault? host (r.fileDocument c host f) = none)
    (hy : List.Forall₂ (fun f ss => Opened.Yields (r.fileDocument c host f) ss) files sss) :
    (files.map (r.alone host input)).flatten = (sss.flatten.map r.lineText).flatten := by
  induction hy with
  | nil => rfl
  | cons hf _ ih =>
    obtain ⟨hnone, hfine⟩ := List.forall_mem_cons.1 hfine
    simp [alone_eq h hf, writable_of_fine hf hnone, ih hfine]

theorem exists_yields (h : r.settings host = .ok c) (files : List Text) :
    ∃ sss, List.Forall₂ (fun f ss => Opened.Yields (r.fileDocument c host f) ss) files sss := by
  induction files with
  | nil => exact ⟨[], .nil⟩
  | cons f files ih =>
    obtain ⟨ss, hy⟩ := (untouched_openSource h (.text []) (some f)).exists_yields
    obtain ⟨sss, hys⟩ := ih
    exact ⟨ss :: sss, .cons hy hys⟩

/-- Files without faults are written one after the other. -/
theorem run_append (h : r.settings host = .ok c) (input : StandardInput) {before later : List Text}
    (hfiles : r.files = before ++ later) (hne : r.files ≠ [])
    (hfine : ∀ f ∈ before, r.fault? host (r.fileDocument c host f) = none)
    {sss : List (List Sentence)}
    (hy : List.Forall₂ (fun f ss => Opened.Yields (r.fileDocument c host f) ss) before sss) :
    ∃ t, r.Passes (r.openSource c host input) (before.map some) sss.flatten {} t ∧
      r.run host input = r.writeDocuments host (r.openSource c host input) (later.map some) t := by
  have hsources : ∀ source ∈ before.map some, r.fault? host (r.openSource c host input source) = none :=
    List.forall_mem_map.2 hfine
  have hys : List.Forall₂ (fun source ss => Opened.Yields (r.openSource c host input source) ss)
      (before.map some) sss := List.forall₂_map_left_iff.2 hy
  obtain ⟨t, hpasses, hrun⟩ := writeDocuments_append (r := r) hsources hys (later.map some) {}
  refine ⟨t, hpasses, ?_⟩
  rw [run_of_settings h, sources_of_files hne, hfiles, List.map_append]
  exact hrun

/-- A run over files goes this way, whatever it is asked for. -/
theorem runsOverFiles (h : r.settings host = .ok c) (hne : r.files ≠ []) :
    RunsOverFiles r c host input := by
  constructor
  · intro hfine
    obtain ⟨sss, hy⟩ := exists_yields h r.files
    obtain ⟨t, hpasses, hrun⟩ := run_append h input (List.append_nil _).symm hne hfine hy
    have hend : r.run host input = (.done, t.note (summary t.sentences)) := hrun
    obtain ⟨notes, hnotes, hno⟩ := hpasses.notes
    rw [hend]
    refine ⟨rfl, ?_, ?_, sss, notes, hy, ?_, ?_, hno⟩
    · rw [flatten_map_alone h hfine hy]
      exact hpasses.outputText
    · exact hpasses.tried
    · exact hpasses.output
    · rw [Transcript.note, hpasses.sentences, hnotes]
      simp
  · intro before f later fault hfiles hfine hfault hforeseen
    obtain ⟨sss, hy⟩ := exists_yields h before
    obtain ⟨t, hpasses, hrun⟩ := run_append h input hfiles hne hfine hy
    obtain ⟨ss, hss⟩ := (untouched_openSource h input (some f)).exists_yields
    obtain ⟨t', hlast, hstep⟩ := writeDocuments_cons (r := r) host hss (later.map some) t
    have hf : r.fault? host (r.openSource c host input (some f)) = some fault := hfault
    rw [hf] at hstep
    have hend : r.run host input = endWith t' fault := by
      rw [hrun, List.map_cons, hstep]
    have hall := (hpasses.trans hlast).trans (passes_endWith _ t' fault)
    rw [List.append_nil, List.append_nil, ← hend] at hall
    obtain ⟨notes, hnotes, hno⟩ := hall.notes
    refine ⟨?_, ?_, ?_, ss, hss, ?_⟩
    · rw [hend, code?_endWith, if_pos hforeseen]
    · rw [hall.tried, List.map_append]
      rfl
    · rw [hnotes, List.append_nil]
      exact hno
    · rw [hall.outputText, flatten_map_alone h hfine hy, List.map_append, List.flatten_append,
        writable_of_foreseen hss hf hforeseen]
      rfl
  · obtain ⟨tried, ss, t, hpasses, hrun⟩ := writeDocuments_ends (r := r) host r.sources
      (fun source _ => untouched_openSource h input source) {}
    have hall : ∃ tried ss t, r.Passes (r.openSource c host input) tried ss {} t ∧
        t.left = (r.run host input).2.left ∧ t.tried = (r.run host input).2.tried := by
      rw [run_of_settings h, hrun]
      split
      · exact ⟨tried, ss, t, hpasses, rfl, rfl⟩
      · next fault _ => exact ⟨_, _, _, hpasses.trans (passes_endWith _ t fault), rfl, rfl⟩
    obtain ⟨tried, ss, t, hpasses, hleft, htried⟩ := hall
    obtain ⟨left, hl, hclosed, hcount⟩ := hpasses.left
    have hreverse := hpasses.tried
    rw [List.append_nil] at hl
    rw [← hleft, ← htried, hl]
    refine ⟨hclosed, ?_⟩
    rw [hcount, ← List.countP_reverse (l := t.tried), hreverse]
    rfl

end Runs

/-- A file that is missing behind one that can be read: the run fails, and the third file is not
tried. -/
theorem runsOverFiles_of_missing :
    let r : Request := { files := ["a".toList, "b".toList, "c".toList] }
    let host : Host := (FileTree.ofList [("a".toList, .bytes [65, 46]), ("c".toList, .bytes [66, 46])]).host
    let input : StandardInput := .text []
    r.settings host = .ok {} ∧ r.files ≠ [] ∧ RunsOverFiles r {} host input ∧
      (r.run host input).1.code? = some 1 ∧
      (r.run host input).2.outputText = r.alone host input "a".toList ∧
      (r.run host input).2.tried = [some "b".toList, some "a".toList] ∧
      (r.run host input).2.left.length = 1 := by
  intro r host input
  have hsettings : r.settings host = .ok {} := settings_of_files _ _ host
  have hne : r.files ≠ [] := List.cons_ne_nil _ _
  have hruns : RunsOverFiles r {} host input := runsOverFiles hsettings hne
  have hfine : r.fault? host (r.fileDocument {} host "a".toList) = none := by
    rw [fault?_of_writable fun _ => rfl]
    exact Option.isNone_iff_eq_none.1 (by decide +kernel)
  have hmissing : r.fault? host (r.fileDocument {} host "b".toList) =
      some (.document (.unopened ['b'] (.system ⟨2, "No such file or directory", ['b']⟩))) := rfl
  obtain ⟨hcode, htried, -, ss, hss, hout⟩ :=
    hruns.failed ["a".toList] "b".toList ["c".toList] _ rfl (by simpa using hfine) hmissing rfl
  obtain rfl : ss = [] := hss
  have htried' : (r.run host input).2.tried = [some "b".toList, some "a".toList] :=
    List.reverse_eq_iff.1 htried
  refine ⟨hsettings, hne, hruns, hcode, by simpa using hout, htried', ?_⟩
  rw [hruns.closed.2, htried']
  decide +kernel

end SentenceReader.CommandLine.Request

import SentenceReader.Proofs.Cutting
import SentenceReader.Stream.Basic

/-! Streams whose reads do not fail. Read line by line such a stream gives the lines of what is left
of its text, each of them with its newline, and then nothing. -/
namespace SentenceReader

def Text.lines (t : Text) : List Text := Cutting.behind (· == '\n') t

namespace Text

/-- A text is the rest of a line without a newline, or a line with its newline and a text behind. -/
theorem inductionOnLines {P : Text → Prop} (rest : ∀ body, '\n' ∉ body → P body)
    (line : ∀ body later, '\n' ∉ body → P later → P (body ++ '\n' :: later)) (t : Text) : P t := by
  have h : ∀ front, '\n' ∉ front → P (front ++ t) := by
    induction t with
    | nil =>
      intro front hf
      rw [List.append_nil]
      exact rest front hf
    | cons c t ih =>
      intro front hf
      by_cases hc : c = '\n'
      · subst hc
        exact line front t hf (ih [] List.not_mem_nil)
      · have hfc : '\n' ∉ front ++ [c] := by
          rw [List.mem_append, List.mem_singleton]
          rintro (hm | rfl)
          · exact hf hm
          · exact hc rfl
        have hp := ih (front ++ [c]) hfc
        rwa [List.append_assoc, List.singleton_append] at hp
  exact h [] List.not_mem_nil

theorem beq_newline_of_not_mem {body : Text} (h : '\n' ∉ body) : ∀ c ∈ body, (c == '\n') = false := by
  intro c hc
  exact beq_false_of_ne fun he => h (he ▸ hc)

/-- The first line of a text is cut off with its newline. -/
theorem lines_append_cons {body : Text} (h : '\n' ∉ body) (later : Text) :
    lines (body ++ '\n' :: later) = (body ++ ['\n']) :: lines later :=
  Cutting.behind_append_cons (beq_newline_of_not_mem h) rfl later

theorem lines_eq_singleton {body : Text} (h : '\n' ∉ body) (hb : body ≠ []) : lines body = [body] :=
  Cutting.behind_eq_singleton (beq_newline_of_not_mem h) hb

end Text

/-- A text that breaks off in no line: it is empty, or ends with a newline. -/
def Text.EndsLine (t : Text) : Prop := t = [] ∨ t.getLast? = some '\n'

/-- Behind the end of a line a text goes on with lines of its own. -/
theorem Text.lines_append {t : Text} (h : t.EndsLine) (u : Text) :
    lines (t ++ u) = lines t ++ lines u := by
  apply Cutting.behind_append
  intro c hc
  rcases h with rfl | h
  · simp at hc
  · rw [h, Option.mem_some_iff] at hc
    simp [← hc]

/-- All lines of a text but the last end with a newline. -/
theorem Text.getLast?_of_lines_eq {t : Text} {front back : List Text} (h : lines t = front ++ back)
    (hb : back ≠ []) : ∀ line ∈ front, line.getLast? = some '\n' := by
  induction t using Text.inductionOnLines generalizing front with
  | rest body hbody =>
    have hf : front = [] := by
      cases body with
      | nil => exact (List.append_eq_nil_iff.1 h.symm).1
      | cons c body =>
        rw [lines_eq_singleton hbody (List.cons_ne_nil c body), eq_comm,
          List.append_eq_singleton_iff] at h
        rcases h with ⟨hf, -⟩ | ⟨-, hnil⟩
        · exact hf
        · exact absurd hnil hb
    rw [hf]
    exact fun line hline => absurd hline List.not_mem_nil
  | line body later hbody ih =>
    rw [lines_append_cons hbody] at h
    cases front with
    | nil => exact fun line hline => absurd hline List.not_mem_nil
    | cons first front =>
      rw [List.cons_append, List.cons.injEq] at h
      rw [List.forall_mem_cons, ← h.1]
      exact ⟨List.getLast?_concat, ih h.2⟩

namespace TextStream

/-- No read of the stream fails from now on. -/
structure Steady (s : TextStream) : Prop where
  early : s.early = []
  obstacle : s.obstacle = none
  closed : s.closed = false
  failing : ∀ n ∈ s.failing, n ≤ s.reads

theorem steady_ofText (t : Text) : (ofText t).Steady :=
  ⟨rfl, rfl, rfl, by simp [ofText]⟩

theorem cutLine_cons_newline (t : Text) : cutLine ('\n' :: t) = (['\n'], t) := by
  simp [cutLine]

theorem cutLine_cons {c : Char} (t : Text) (h : c ≠ '\n') :
    cutLine (c :: t) = (c :: (cutLine t).1, (cutLine t).2) := by
  simp only [cutLine, List.dropWhile_cons, List.takeWhile_cons, bne_iff_ne, ne_eq, h,
    not_false_eq_true, if_true]
  split <;> rfl

theorem lines_eq_cons {t : Text} (h : t ≠ []) :
    Text.lines t = (cutLine t).1 :: Text.lines (cutLine t).2 := by
  induction t with
  | nil => exact absurd rfl h
  | cons c t ih =>
    by_cases hc : c = '\n'
    · subst hc
      rw [cutLine_cons_newline]
      simp [Text.lines, Cutting.behind]
    · rw [cutLine_cons t hc]
      simp only [Text.lines, Cutting.behind, beq_iff_eq, hc, if_false]
      cases t with
      | nil => simp [cutLine, Cutting.behind, Cutting.glue]
      | cons d t =>
        have hl := ih (by simp)
        simp only [Text.lines] at hl
        rw [hl]
        simp [Cutting.glue]

@[simp] theorem lines_nil : Text.lines [] = [] := rfl

@[simp] theorem flatten_lines (t : Text) : (Text.lines t).flatten = t := by simp [Text.lines]

@[simp] theorem cutLine_fst_eq_nil_iff (t : Text) : (cutLine t).1 = [] ↔ t = [] := by
  constructor
  · intro h
    cases t with
    | nil => rfl
    | cons c t =>
      have hm : [] ∈ Text.lines (c :: t) := by
        rw [lines_eq_cons (by simp), h]
        simp
      exact absurd rfl (Cutting.ne_nil_of_mem_behind hm)
  · rintro rfl
    rfl

/-- A line that is read is cut off what was left. -/
theorem cutLine_of_readLine {s s' : TextStream} {line : Text} (h : s.readLine = (.ok line, s')) :
    cutLine s.rest = (line, s'.rest) := by
  have hb := rest_beginRead s
  unfold TextStream.readLine at h
  split at h
  · simp at h
  · next s₁ hs =>
    rw [hs] at hb
    dsimp only at hb
    split at h
    · simp at h
    · simp only [Prod.mk.injEq, Except.ok.injEq] at h
      rw [← h.1, ← h.2, hb]

theorem rest_of_readLine_nil {s s' : TextStream} (h : s.readLine = (.ok [], s')) :
    s.rest = [] ∧ s'.rest = [] := by
  have hcut := cutLine_of_readLine h
  have hrest : s.rest = [] := by rw [← cutLine_fst_eq_nil_iff, hcut]
  rw [hrest] at hcut
  exact ⟨hrest, (congrArg Prod.snd hcut).symm⟩

theorem lines_of_readLine {s s' : TextStream} {c : Char} {line : Text}
    (h : s.readLine = (.ok (c :: line), s')) :
    Text.lines s.rest = (c :: line) :: Text.lines s'.rest := by
  have hcut := cutLine_of_readLine h
  have hne : s.rest ≠ [] := by
    rw [ne_eq, ← cutLine_fst_eq_nil_iff, hcut]
    exact List.cons_ne_nil c line
  rw [lines_eq_cons hne, hcut]

theorem Steady.beginRead {s : TextStream} (h : s.Steady) :
    s.beginRead = (.ok (), { s with reads := s.reads + 1 }) := by
  have hf : s.reads + 1 ∉ s.failing := fun hm => by
    have := h.failing _ hm
    omega
  simp [TextStream.beginRead, hf, h.closed, h.early]

/-- A steady stream gives the first line of what is left, and stays steady. -/
theorem Steady.readLine {s : TextStream} (h : s.Steady) :
    ∃ s', s.readLine = (.ok (cutLine s.rest).1, s') ∧ s'.Steady ∧
      s'.rest = (cutLine s.rest).2 := by
  refine ⟨{ s with reads := s.reads + 1, rest := (cutLine s.rest).2 }, ?_, ?_, rfl⟩
  · simp [TextStream.readLine, h.beginRead, h.obstacle]
  · exact ⟨h.early, h.obstacle, h.closed, fun n hn => Nat.le_succ_of_le (h.failing n hn)⟩

theorem Steady.readLine_ne_error {s s' : TextStream} {fault : ReadFault} (h : s.Steady) :
    s.readLine ≠ (.error fault, s') := by
  obtain ⟨s₁, hr, _⟩ := h.readLine
  simp [hr]

/-- An empty line stands for the end of the text. -/
theorem Steady.rest_of_readLine_nil {s s' : TextStream} (h : s.Steady)
    (hl : s.readLine = (.ok [], s')) : s.rest = [] ∧ s'.Steady := by
  obtain ⟨s₁, hr, hs, -⟩ := h.readLine
  obtain rfl : s₁ = s' := congrArg Prod.snd (hr.symm.trans hl)
  exact ⟨(TextStream.rest_of_readLine_nil hl).1, hs⟩

/-- Any other line is the first one of those that were left. -/
theorem Steady.lines_of_readLine {s s' : TextStream} {c : Char} {line : Text} (h : s.Steady)
    (hl : s.readLine = (.ok (c :: line), s')) :
    Text.lines s.rest = (c :: line) :: Text.lines s'.rest ∧ s'.Steady := by
  obtain ⟨s₁, hr, hs, -⟩ := h.readLine
  obtain rfl : s₁ = s' := congrArg Prod.snd (hr.symm.trans hl)
  exact ⟨TextStream.lines_of_readLine hl, hs⟩

end TextStream

end SentenceReader

import Mathlib.Data.List.TakeWhile
import SentenceReader.Text.Basic

/-! Pieces of texts: what stands around a separator, and between the white space at both ends. -/
namespace SentenceReader

namespace Text

section

variable {stop : Char}

theorem all_bne_of_not_mem {t : Text} (h : stop ∉ t) : ∀ c ∈ t, (c != stop) = true := by
  intro c hc
  rw [bne_iff_ne]
  rintro rfl
  exact h hc

theorem not_mem_takeWhile_bne (t : Text) : stop ∉ t.takeWhile (· != stop) := by
  intro h
  simpa using List.all_eq_true.1 List.all_takeWhile _ h

theorem takeWhile_append_cons {front : Text} (h : stop ∉ front) (back : Text) :
    (front ++ stop :: back).takeWhile (· != stop) = front := by
  rw [List.takeWhile_append_of_pos (all_bne_of_not_mem h)]
  simp

theorem dropWhile_append_cons {front : Text} (h : stop ∉ front) (back : Text) :
    (front ++ stop :: back).dropWhile (· != stop) = stop :: back := by
  rw [List.dropWhile_append_of_pos (all_bne_of_not_mem h)]
  simp

theorem takeWhile_append_of_not_mem {t : Text} (h : stop ∉ t) (u : Text) :
    (t ++ u).takeWhile (· != stop) = t ++ u.takeWhile (· != stop) :=
  List.takeWhile_append_of_pos (all_bne_of_not_mem h)

theorem dropWhile_append_of_not_mem {t : Text} (h : stop ∉ t) (u : Text) :
    (t ++ u).dropWhile (· != stop) = u.dropWhile (· != stop) :=
  List.dropWhile_append_of_pos (all_bne_of_not_mem h)

theorem cut_append_cons {front : Text} (h : stop ∉ front) (back : Text) :
    cut stop (front ++ stop :: back) = (front, some back) := by
  rw [cut, dropWhile_append_cons h, takeWhile_append_cons h]

theorem cut_of_not_mem {t : Text} (h : stop ∉ t) : cut stop t = (t, none) := by
  have hdrop := dropWhile_append_of_not_mem h []
  rw [List.append_nil] at hdrop
  simp [cut, hdrop]

theorem cut_eq_some {t front back : Text} (h : cut stop t = (front, some back)) :
    t = front ++ stop :: back ∧ stop ∉ front := by
  by_cases hm : stop ∈ t
  · obtain ⟨u, v, rfl, hu⟩ := List.eq_append_cons_of_mem hm
    rw [cut_append_cons hu] at h
    obtain ⟨rfl, hv⟩ := Prod.mk.inj h
    obtain rfl := Option.some.inj hv
    exact ⟨rfl, hu⟩
  · simp [cut_of_not_mem hm] at h

theorem cut_eq_none {t front : Text} (h : cut stop t = (front, none)) : t = front ∧ stop ∉ t := by
  by_cases hm : stop ∈ t
  · obtain ⟨u, v, rfl, hu⟩ := List.eq_append_cons_of_mem hm
    simp [cut_append_cons hu] at h
  · rw [cut_of_not_mem hm] at h
    exact ⟨congrArg Prod.fst h, hm⟩

end

theorem eq_false_of_mem_splitOnP {p : Char → Bool} {t piece : Text} (h : piece ∈ t.splitOnP p) :
    ∀ c ∈ piece, p c = false := by
  induction t generalizing piece with
  | nil => simp_all
  | cons c t ih =>
    rw [List.splitOnP_cons_eq_if_modifyHead] at h
    split at h
    · rw [List.mem_cons] at h
      rcases h with rfl | h
      · simp
      · exact ih h
    · next hc =>
      cases hs : t.splitOnP p with
      | nil => exact absurd hs (List.splitOnP_ne_nil p t)
      | cons first later =>
        rw [hs, List.modifyHead_cons, List.mem_cons] at h
        rcases h with rfl | h
        · exact List.forall_mem_cons.2 ⟨by simpa using hc, ih (by simp [hs])⟩
        · exact ih (by simp [hs, h])

theorem not_mem_of_mem_fields {separator : Char} {t piece : Text} (h : piece ∈ fields separator t) :
    separator ∉ piece := by
  intro hm
  simpa using eq_false_of_mem_splitOnP (p := (· == separator)) h separator hm

theorem trimStart_append {gap : Text} (h : ∀ c ∈ gap, isBlank c = true) (t : Text) :
    trimStart (gap ++ t) = trimStart t :=
  List.dropWhile_append_of_pos h

theorem trimStart_of_head {t : Text} (h : ∀ c ∈ t.head?, isBlank c = false) : trimStart t = t := by
  cases t with
  | nil => rfl
  | cons c t => exact List.dropWhile_cons_of_neg (by simp [h c rfl])

/-- The white space in front of a text. -/
theorem exists_gap (t : Text) :
    ∃ gap, (∀ c ∈ gap, isBlank c = true) ∧ t = gap ++ trimStart t :=
  ⟨t.takeWhile isBlank, fun _ hc => List.all_eq_true.1 List.all_takeWhile _ hc,
    (List.takeWhile_append_dropWhile).symm⟩

theorem getLast?_trimEnd (t : Text) :
    (trimEnd t).getLast? = (t.filter fun c => !isBlank c).getLast? := by
  rw [trimEnd, List.getLast?_reverse, ← List.find?_not_eq_head?_dropWhile, ← List.head?_filter,
    List.filter_reverse, List.head?_reverse]

theorem isPrefix_trimEnd (t : Text) : trimEnd t <+: t := by
  have h := List.reverse_prefix.2 (List.dropWhile_suffix (l := t.reverse) isBlank)
  rwa [List.reverse_reverse] at h

theorem trim_sublist (t : Text) : (trim t).Sublist t :=
  (isPrefix_trimEnd (trimStart t)).sublist.trans (List.dropWhile_suffix isBlank).sublist

/-- A text without white space at its ends. -/
structure IsTrimmed (t : Text) : Prop where
  head : ∀ c ∈ t.head?, isBlank c = false
  last : ∀ c ∈ t.getLast?, isBlank c = false

theorem IsTrimmed.trim_eq {t : Text} (h : IsTrimmed t) : trim t = t := by
  have hlast : trimStart t.reverse = t.reverse :=
    trimStart_of_head fun c hc => h.last c (by rwa [List.head?_reverse] at hc)
  rw [trim, trimStart_of_head h.head]
  exact List.reverse_eq_iff.2 hlast

theorem trim_eq_self {t : Text} (h : ∀ c ∈ t, isBlank c = false) : trim t = t :=
  IsTrimmed.trim_eq ⟨fun c hc => h c (List.mem_of_mem_head? hc),
    fun c hc => h c (List.mem_of_mem_getLast? hc)⟩

theorem isTrimmed_trim (t : Text) : IsTrimmed (trim t) := by
  constructor
  · intro c hc
    obtain ⟨rest, hrest⟩ := isPrefix_trimEnd (trimStart t)
    have hstart : (trimStart t).head? = some c := by
      rw [trim] at hc
      rw [← hrest, List.head?_append, Option.mem_def.1 hc, Option.some_or]
    rw [trimStart, ← List.find?_not_eq_head?_dropWhile] at hstart
    simpa using List.find?_some hstart
  · intro c hc
    rw [trim, getLast?_trimEnd] at hc
    simpa using (List.mem_filter.1 (List.mem_of_mem_getLast? hc)).2

/-- Something is left of a text that is not white space alone. -/
theorem trim_ne_nil {t : Text} {c : Char} (h : c ∈ t) (hc : isBlank c = false) : trim t ≠ [] := by
  intro ht
  have hempty := congrArg List.getLast? ht
  rw [trim, getLast?_trimEnd, List.getLast?_nil, List.getLast?_eq_none_iff] at hempty
  have hstart : c ∈ trimStart t := by
    obtain ⟨gap, hgap, he⟩ := exists_gap t
    rw [he, List.mem_append] at h
    exact h.resolve_left fun hg => by simp [hgap c hg] at hc
  simpa [hc] using List.filter_eq_nil_iff.1 hempty c hstart

end Text

end SentenceReader

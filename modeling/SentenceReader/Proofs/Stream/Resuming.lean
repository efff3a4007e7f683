import Mathlib.Order.Interval.Finset.Nat
import SentenceReader.Proofs.Stream.Blocks

/-! Streams some of whose reads are made to fail. A read that fails takes nothing away, so that the next
one finds what it would have found; the text comes in parts, between which a read fails. -/
namespace SentenceReader

namespace TextStream

/-- How many of the reads so far were made to fail. -/
def failures (s : TextStream) : Nat := ((Finset.Icc 1 s.reads).filter (· ∈ s.failing)).card

theorem failures_le (s : TextStream) : s.failures ≤ s.failing.toFinset.card := by
  apply Finset.card_le_card
  intro n hn
  rw [List.mem_toFinset]
  exact (Finset.mem_filter.1 hn).2

/-- One more read, which fails or not. -/
theorem failures_of_read (s s' : TextStream) (hr : s'.reads = s.reads + 1) (hf : s'.failing = s.failing) :
    s'.failures = s.failures + if s.reads + 1 ∈ s.failing then 1 else 0 := by
  have hreads : Finset.Icc 1 (s.reads + 1) = insert (s.reads + 1) (Finset.Icc 1 s.reads) := by
    ext n
    simp only [Finset.mem_insert, Finset.mem_Icc]
    omega
  rw [failures, failures, hr, hf, hreads, Finset.filter_insert]
  split
  · rw [Finset.card_insert_of_notMem (by simp)]
  · rfl

/-- A stream whose reads fail only where they are made to: `ahead` failures of `total` at most are still to
come. -/
structure Resumable (total ahead : Nat) (s : TextStream) : Prop where
  steady : { s with failing := [] }.Steady
  card_failing : s.failing.toFinset.card = total
  failures_add : s.failures + ahead = total

theorem exists_resumable {s : TextStream} (h : { s with failing := [] }.Steady) :
    ∃ ahead, s.Resumable s.failing.toFinset.card ahead :=
  ⟨s.failing.toFinset.card - s.failures, h, rfl, Nat.add_sub_cancel' s.failures_le⟩

/-- What something that reads leaves: a stream with the same failures ahead or, if it failed, with one
failure less. -/
def Leaves {β : Type} (total ahead : Nat) : Except ReadFault β → TextStream → Prop
  | .ok _, s => s.Resumable total ahead
  | .error fault, s => fault = .device ∧ ∃ later, ahead = later + 1 ∧ s.Resumable total later

namespace Resumable

variable {total ahead : Nat} {s : TextStream} (h : s.Resumable total ahead)
include h

theorem beginRead :
    s.beginRead = (if s.reads + 1 ∈ s.failing then .error .device else .ok (),
      { s with reads := s.reads + 1 }) := by
  have hc : s.closed = false := h.steady.closed
  have he : s.early = [] := h.steady.early
  by_cases hm : s.reads + 1 ∈ s.failing
  · simp [TextStream.beginRead, hm]
  · simp [TextStream.beginRead, hm, hc, he]

/-- Behind a read that was made to fail there is one failure less ahead. -/
theorem failed (hm : s.reads + 1 ∈ s.failing) :
    ∃ later, ahead = later + 1 ∧ { s with reads := s.reads + 1 }.Resumable total later := by
  let s' : TextStream := { s with reads := s.reads + 1 }
  have hcount : s'.failures = s.failures + 1 := by rw [failures_of_read s s' rfl rfl, if_pos hm]
  have hle : s'.failures ≤ total := s'.failures_le.trans_eq h.card_failing
  have hadd := h.failures_add
  have hahead : ahead = ahead - 1 + 1 := by omega
  have hlater : s'.failures + (ahead - 1) = total := by omega
  exact ⟨ahead - 1, hahead, ⟨h.steady.early, h.steady.obstacle, h.steady.closed, by simp⟩,
    h.card_failing, hlater⟩

theorem passed (hm : s.reads + 1 ∉ s.failing) (rest : Text) (blocks : List Nat) :
    { s with reads := s.reads + 1, rest, blocks }.Resumable total ahead := by
  let s' : TextStream := { s with reads := s.reads + 1, rest, blocks }
  have hcount : s'.failures = s.failures := by rw [failures_of_read s s' rfl rfl, if_neg hm, Nat.add_zero]
  have hadd : s'.failures + ahead = total := hcount ▸ h.failures_add
  exact ⟨⟨h.steady.early, h.steady.obstacle, h.steady.closed, by simp⟩, h.card_failing, hadd⟩

theorem readLine : Leaves total ahead s.readLine.1 s.readLine.2 := by
  have ho : s.obstacle = none := h.steady.obstacle
  by_cases hm : s.reads + 1 ∈ s.failing
  · simp only [TextStream.readLine, h.beginRead, if_pos hm]
    exact ⟨rfl, h.failed hm⟩
  · simp only [TextStream.readLine, h.beginRead, if_neg hm]
    split
    · next hs _ => exact absurd (ho.symm.trans hs) (by simp)
    · exact h.passed hm _ _

theorem of_readLine {result : Except ReadFault Text} {s' : TextStream}
    (hr : s.readLine = (result, s')) : Leaves total ahead result s' := by
  have hread := h.readLine
  rwa [hr] at hread

theorem readBlock : Leaves total ahead s.readBlock.1 s.readBlock.2 := by
  have ho : s.obstacle = none := h.steady.obstacle
  by_cases hm : s.reads + 1 ∈ s.failing
  · simp only [TextStream.readBlock, h.beginRead, if_pos hm]
    exact ⟨rfl, h.failed hm⟩
  · simp only [TextStream.readBlock, h.beginRead, if_neg hm]
    split
    · next hs _ => exact absurd (ho.symm.trans hs) (by simp)
    · exact h.passed hm _ _

end Resumable

/-- Read block by block the stream brings its text in these parts. A read fails behind each of them but
the last one, and behind that the end is met. -/
inductive Brings : TextStream → List Text → Prop
  | ended {s} (h : s.readBlock.1 = .ok []) : Brings s [[]]
  | block {s c piece part parts} (h : s.readBlock.1 = .ok (c :: piece))
      (later : Brings s.readBlock.2 (part :: parts)) : Brings s ((c :: piece ++ part) :: parts)
  | failed {s parts} (h : s.readBlock.1 = .error .device) (later : Brings s.readBlock.2 parts) :
      Brings s ([] :: parts)

namespace Brings

theorem flatten {s : TextStream} {parts : List Text} (h : s.Brings parts) : parts.flatten = s.rest := by
  induction h with
  | ended h =>
    rw [rest_of_readBlock_nil (Prod.ext h rfl)]
    rfl
  | block h later ih =>
    have happend := append_of_readBlock (Prod.ext h rfl)
    rw [List.flatten_cons, List.append_assoc, ← List.flatten_cons, ih]
    exact happend
  | failed h later ih =>
    rw [List.flatten_cons, ih, List.nil_append]
    exact rest_of_readBlock_error (Prod.ext h rfl)

theorem unique {s : TextStream} {xs ys : List Text} (hx : s.Brings xs) (hy : s.Brings ys) : xs = ys := by
  induction hx generalizing ys with
  | ended h =>
    cases hy with
    | ended => rfl
    | block h' => exact absurd (h.symm.trans h') (by simp)
    | failed h' => exact absurd (h.symm.trans h') (by simp)
  | block h later ih =>
    cases hy with
    | ended h' => exact absurd (h.symm.trans h') (by simp)
    | block h' later' =>
      have hblock := Except.ok.inj (h.symm.trans h')
      have hparts := ih later'
      rw [List.cons.injEq] at hparts
      rw [hblock, hparts.1, hparts.2]
    | failed h' => exact absurd (h.symm.trans h') (by simp)
  | failed h later ih =>
    cases hy with
    | ended h' => exact absurd (h.symm.trans h') (by simp)
    | block h' => exact absurd (h.symm.trans h') (by simp)
    | failed h' later' => rw [ih later']

/-- A text that comes in one part is delivered. -/
theorem exists_delivers {s : TextStream} {part : Text} (h : s.Brings [part]) :
    ∃ pieces, s.Delivers pieces := by
  generalize hparts : [part] = parts at h
  induction h generalizing part with
  | ended h => exact ⟨[], h⟩
  | block h later ih =>
    obtain rfl := (List.cons.inj hparts).2
    obtain ⟨pieces, hp⟩ := ih rfl
    exact ⟨_ :: pieces, h, List.cons_ne_nil _ _, hp⟩
  | failed h later ih =>
    obtain rfl := (List.cons.inj hparts).2
    cases later

end Brings

/-- However its reads fail, a stream brings its text in some parts. -/
theorem Resumable.exists_brings {total ahead : Nat} {s : TextStream} (h : s.Resumable total ahead) :
    ∃ part parts, s.Brings (part :: parts) := by
  induction hn : s.rest.length + ahead using Nat.strongRecOn generalizing s ahead with
  | ind n ih =>
    have hread := h.readBlock
    rcases hr : s.readBlock with ⟨fault | block, s'⟩
    · rw [hr] at hread
      obtain ⟨rfl, later, rfl, hs'⟩ := hread
      have hrest := congrArg List.length (rest_of_readBlock_error hr)
      obtain ⟨part, parts, hp⟩ := ih (s'.rest.length + later) (by omega) hs' rfl
      exact ⟨[], part :: parts, .failed (by rw [hr]) (by rwa [hr])⟩
    · rw [hr] at hread
      cases block with
      | nil => exact ⟨[], [], .ended (by rw [hr])⟩
      | cons c piece =>
        have hlen := length_rest_of_readBlock hr
        rw [List.length_cons] at hlen
        obtain ⟨part, parts, hp⟩ := ih (s'.rest.length + ahead) (by omega) hread rfl
        exact ⟨_, parts, .block (by rw [hr]) (by rwa [hr])⟩

end TextStream

end SentenceReader

import Mathlib.Data.Nat.Find
import SentenceReader.Proofs.Following
import SentenceReader.Proofs.Stream.Lines

/-! Couplings of two streams that are read alike. A program can tell one stream from another only by
reading, so what a coupling says of single reads holds of everything that is built on them. -/
namespace SentenceReader

/-- Two streams with the same text left, of which the first is read as the second is, until it
fails. -/
structure Coupling where
  tied : TextStream → TextStream → Prop
  broken : TextStream → Prop
  rest_eq : ∀ {s t}, tied s t → s.rest = t.rest
  obstacle_eq : ∀ {s t}, tied s t → s.obstacle = t.obstacle
  blocks_eq : ∀ {s t}, tied s t → s.blocks = t.blocks
  taken : ∀ {s t} rest blocks, tied s t → tied { s with rest, blocks } { t with rest, blocks }
  beginRead : ∀ {s t}, tied s t → Follows ReadFault.device tied broken s.beginRead t.beginRead

namespace Coupling

variable (p : Coupling) {s t : TextStream}

theorem readLine (h : p.tied s t) : Follows .device p.tied p.broken s.readLine t.readLine := by
  have hb := p.beginRead h
  unfold TextStream.readLine
  generalize s.beginRead = x, t.beginRead = y at hb ⊢
  cases hb with
  | breaks h => exact .breaks h
  | @together result s t h =>
    cases result with
    | error fault => exact .together h
    | ok u =>
      have ht := p.taken (TextStream.cutLine t.rest).2 t.blocks h
      simp only [p.rest_eq h, p.obstacle_eq h, ← p.blocks_eq h] at ht ⊢
      split
      · exact .together h
      · exact .together ht

theorem readBlock (h : p.tied s t) : Follows .device p.tied p.broken s.readBlock t.readBlock := by
  have hb := p.beginRead h
  unfold TextStream.readBlock
  generalize s.beginRead = x, t.beginRead = y at hb ⊢
  cases hb with
  | breaks h => exact .breaks h
  | @together result s t h =>
    cases result with
    | error fault => exact .together h
    | ok u =>
      have hl : s.nextLimit = t.nextLimit := by simp only [TextStream.nextLimit, p.blocks_eq h]
      have ht := p.taken (t.rest.drop t.nextLimit) t.blocks.tail h
      simp only [p.rest_eq h, p.obstacle_eq h, p.blocks_eq h, hl] at ht ⊢
      split
      · exact .together h
      · exact .together ht

/-- Two states that are the same but for their streams, which are tied. -/
inductive Carried {σ : Type} (stream : σ → TextStream) (put : σ → TextStream → σ) : σ → σ → Prop
  | intro (t : σ) {x : TextStream} (h : p.tied x (stream t)) : Carried stream put (put t x) t

/-- Reading closes nothing: a stream goes with itself, closed as often as it was. -/
def closings (closes : Nat) (closed : Bool) : Coupling where
  tied s t := s = t ∧ t.closes = closes ∧ t.closed = closed
  broken _ := False
  rest_eq h := h.1 ▸ rfl
  obstacle_eq h := h.1 ▸ rfl
  blocks_eq h := h.1 ▸ rfl
  taken _ _ h := ⟨h.1 ▸ rfl, h.2⟩
  beginRead := by
    rintro s t ⟨rfl, hn, hb⟩
    have hk : s.beginRead.2.closes = closes ∧ s.beginRead.2.closed = closed := by
      unfold TextStream.beginRead
      dsimp only
      repeat' split
      all_goals exact ⟨hn, hb⟩
    change Follows _ _ _ (s.beginRead.1, s.beginRead.2) (s.beginRead.1, s.beginRead.2)
    exact .together ⟨rfl, hk⟩

/-- Whether closing will report a failure has nothing to do with reading. -/
def closeFailures : Coupling where
  tied s t := ∃ closeFails, s = { t with closeFails }
  broken _ := False
  rest_eq := by rintro s t ⟨b, rfl⟩; rfl
  obstacle_eq := by rintro s t ⟨b, rfl⟩; rfl
  blocks_eq := by rintro s t ⟨b, rfl⟩; rfl
  taken := by rintro s t rest blocks ⟨b, rfl⟩; exact ⟨b, rfl⟩
  beginRead := by
    rintro s t ⟨b, rfl⟩
    unfold TextStream.beginRead
    dsimp only
    repeat' split
    all_goals exact .together ⟨b, rfl⟩

end Coupling

namespace TextStream

/-- The read with this number is the next one that fails. -/
structure FailsAt (s : TextStream) (k : Nat) : Prop where
  reads_lt : s.reads < k
  mem_failing : k ∈ s.failing
  le_of_mem : ∀ n ∈ s.failing, s.reads < n → k ≤ n

theorem FailsAt.mem_iff {s : TextStream} {k : Nat} (h : s.FailsAt k) :
    s.reads + 1 ∈ s.failing ↔ s.reads + 1 = k := by
  have hlt := h.reads_lt
  constructor
  · intro hm
    have hle := h.le_of_mem _ hm (Nat.lt_succ_self _)
    omega
  · rintro rfl
    exact h.mem_failing

/-- Where no read but chosen ones can fail, one of them is the next to fail, or all go well. -/
theorem steady_or_failsAt {s : TextStream} (h : { s with failing := [] }.Steady) :
    s.Steady ∨ ∃ k, s.FailsAt k := by
  by_cases hex : ∃ k, s.reads < k ∧ k ∈ s.failing
  · obtain ⟨hlt, hmem⟩ := Nat.find_spec hex
    exact .inr ⟨Nat.find hex, hlt, hmem, fun n hn hr => Nat.find_min' hex ⟨hr, hn⟩⟩
  · have hle : ∀ n ∈ s.failing, n ≤ s.reads := fun n hn =>
      Nat.le_of_not_lt fun hr => hex ⟨n, hr, hn⟩
    exact .inl ⟨h.early, h.obstacle, h.closed, hle⟩

end TextStream

/-- Up to its first failing read a stream goes with the one whose reads do not fail. -/
def Coupling.untilRead (k : Nat) : Coupling where
  tied s t := t.Steady ∧ s.FailsAt k ∧ t = { s with failing := [] }
  broken s := s.reads = k
  rest_eq := by rintro s t ⟨-, -, rfl⟩; rfl
  obstacle_eq := by rintro s t ⟨-, -, rfl⟩; rfl
  blocks_eq := by rintro s t ⟨-, -, rfl⟩; rfl
  taken := by
    rintro s t rest blocks ⟨ht, hs, rfl⟩
    exact ⟨⟨ht.early, ht.obstacle, ht.closed, ht.failing⟩,
      ⟨hs.reads_lt, hs.mem_failing, hs.le_of_mem⟩, rfl⟩
  beginRead := by
    rintro s t ⟨ht, hs, rfl⟩
    rw [ht.beginRead]
    by_cases hk : s.reads + 1 = k
    · have hb : s.beginRead = (.error .device, { s with reads := s.reads + 1 }) := by
        simp [TextStream.beginRead, hs.mem_iff.2 hk]
      rw [hb]
      exact .breaks hk
    · have hc : s.closed = false := ht.closed
      have he : s.early = [] := ht.early
      have hb : s.beginRead = (.ok (), { s with reads := s.reads + 1 }) := by
        simp [TextStream.beginRead, hs.mem_iff, hk, hc, he]
      have hlt := hs.reads_lt
      rw [hb]
      refine .together ⟨⟨ht.early, ht.obstacle, ht.closed, by simp⟩, ⟨?_, hs.mem_failing, ?_⟩, rfl⟩
      · exact Nat.lt_of_le_of_ne hlt hk
      · intro n hn hr
        exact hs.le_of_mem n hn (Nat.lt_of_succ_lt hr)

end SentenceReader

import SentenceReader.Proofs.Stream.Lines

/-! Streams that are read block by block. They give their text in pieces, and any pieces will do: how
a text is cut is up to its stream. -/
namespace SentenceReader

namespace TextStream

/-- Read block by block the stream gives exactly these pieces, and then nothing more. -/
def Delivers : TextStream → List Text → Prop
  | s, [] => s.readBlock.1 = .ok []
  | s, piece :: later =>
    s.readBlock.1 = .ok piece ∧ piece ≠ [] ∧ s.readBlock.2.Delivers later

/-- The stream over a text in memory that comes in given pieces. -/
def ofPieces (pieces : List Text) : TextStream :=
  { rest := pieces.flatten, blocks := pieces.map List.length }

theorem nextLimit_pos (s : TextStream) : 0 < s.nextLimit := by
  unfold nextLimit
  omega

/-- An empty block stands for the end of the text. -/
theorem rest_of_readBlock_nil {s s' : TextStream} (h : s.readBlock = (.ok [], s')) :
    s.rest = [] := by
  have happ := append_of_readBlock h
  rw [List.nil_append] at happ
  unfold readBlock at h
  split at h
  · simp at h
  · next s₁ hs =>
    split at h
    · simp at h
    · simp only [Prod.mk.injEq, Except.ok.injEq, List.take_eq_nil_iff] at h
      have hpos := nextLimit_pos s₁
      obtain h0 | h0 := h.1
      · omega
      · rw [← happ, ← h.2]
        simp [h0]

/-- The pieces are the text. -/
theorem Delivers.flatten {s : TextStream} {pieces : List Text} (h : s.Delivers pieces) :
    pieces.flatten = s.rest := by
  induction pieces generalizing s with
  | nil =>
    have hr : s.readBlock = (.ok [], s.readBlock.2) := Prod.ext h rfl
    rw [rest_of_readBlock_nil hr]
    rfl
  | cons piece later ih =>
    obtain ⟨hp, -, hl⟩ := h
    have hr : s.readBlock = (.ok piece, s.readBlock.2) := Prod.ext hp rfl
    rw [List.flatten_cons, ih hl]
    exact append_of_readBlock hr

theorem steady_ofPieces (pieces : List Text) : (ofPieces pieces).Steady :=
  ⟨rfl, rfl, rfl, by simp [ofPieces]⟩

/-- A steady stream gives the next block of what is left, and stays steady. -/
theorem Steady.readBlock {s : TextStream} (h : s.Steady) :
    ∃ s', s.readBlock = (.ok (s.rest.take s.nextLimit), s') ∧ s'.Steady ∧
      s'.rest = s.rest.drop s.nextLimit ∧ s'.blocks = s.blocks.tail := by
  refine ⟨{ s with
    reads := s.reads + 1, rest := s.rest.drop s.nextLimit, blocks := s.blocks.tail }, ?_, ?_, rfl, rfl⟩
  · simp [TextStream.readBlock, h.beginRead, h.obstacle, nextLimit]
  · exact ⟨h.early, h.obstacle, h.closed, fun n hn => Nat.le_succ_of_le (h.failing n hn)⟩

/-- Where no read fails, the text comes in some pieces. -/
theorem Steady.exists_delivers {s : TextStream} (h : s.Steady) : ∃ pieces, s.Delivers pieces := by
  induction hn : s.rest.length using Nat.strongRecOn generalizing s with
  | _ n ih =>
    obtain ⟨s', hr, hs', hrest, -⟩ := h.readBlock
    have hpos := s.nextLimit_pos
    by_cases he : s.rest = []
    · refine ⟨[], ?_⟩
      simp [Delivers, hr, he]
    · have hlen := List.length_pos_iff.2 he
      have hlt : s'.rest.length < n := by
        rw [hrest, List.length_drop]
        omega
      obtain ⟨pieces, hp⟩ := ih _ hlt hs' rfl
      refine ⟨s.rest.take s.nextLimit :: pieces, by rw [hr], ?_, by rwa [hr]⟩
      rw [ne_eq, List.take_eq_nil_iff, not_or]
      exact ⟨by omega, he⟩

theorem Steady.delivers {s : TextStream} {pieces : List Text} (h : s.Steady)
    (hrest : s.rest = pieces.flatten) (hblocks : s.blocks = pieces.map List.length)
    (hne : ∀ piece ∈ pieces, piece ≠ []) : s.Delivers pieces := by
  induction pieces generalizing s with
  | nil =>
    obtain ⟨s', hr, -⟩ := h.readBlock
    simp [Delivers, hr, hrest]
  | cons piece later ih =>
    obtain ⟨hp, hl⟩ := List.forall_mem_cons.1 hne
    obtain ⟨s', hr, hs', hrest', hblocks'⟩ := h.readBlock
    have hpos := List.length_pos_iff.2 hp
    have hlimit : s.nextLimit = piece.length := by
      rw [nextLimit, hblocks, List.map_cons, List.headD_cons]
      omega
    rw [hrest, List.flatten_cons, hlimit] at hr hrest'
    rw [List.take_left] at hr
    rw [List.drop_left] at hrest'
    refine ⟨by rw [hr], hp, ?_⟩
    rw [hr]
    exact ih hs' hrest' (by rw [hblocks', hblocks, List.map_cons, List.tail_cons]) hl

/-- There is a stream for all pieces. -/
theorem delivers_ofPieces {pieces : List Text} (h : ∀ piece ∈ pieces, piece ≠ []) :
    (ofPieces pieces).Delivers pieces :=
  (steady_ofPieces pieces).delivers rfl rfl h

end TextStream

end SentenceReader

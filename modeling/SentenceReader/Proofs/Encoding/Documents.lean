import SentenceReader.Encoding.Decoding
import SentenceReader.Proofs.Encoding.Utf8

/-! Documents in UTF-8. Wherever their blocks are cut, they are read as the text that they hold. -/
namespace SentenceReader.Decoding

theorem unifyNewlines_of_not_mem {t : Text} (h : '\r' ∉ t) : unifyNewlines t = t := by
  induction t with
  | nil => rfl
  | cons c t ih =>
    rw [List.mem_cons, not_or] at h
    rw [unifyNewlines, ih h.2, if_neg (Ne.symm h.1)]
    exact fun _ hc _ => absurd hc.symm h.1

section Faces

variable {codec : Codec} {encode : Char → List UInt8} {manner : Manner} {i : Intake} {t : Text}

/-- An intake between two blocks, with a text in front of it: the bytes that it keeps and those to come
are the bytes of that text. -/
structure Intake.Faces (codec : Codec) (encode : Char → List UInt8) (i : Intake) (bytes : List UInt8)
    (t : Text) : Prop where
  state : i.state = within codec
  waits : i.waits = false
  bytes : i.kept ++ bytes = t.flatMap encode
  plain : '\r' ∉ t

/-- What a block gives is the front of the text, and the intake faces the rest of it then. -/
theorem Intake.Faces.take {block rest : List UInt8} (h : i.Faces codec encode (block ++ rest) t)
    (hc : codec.Reads encode) (size : Nat) :
    ∃ front back kept, t = front ++ back ∧
      feed false (i.kept ++ block) i.state = .ok ⟨front, kept, within codec⟩ ∧
      (i.take size ⟨front, kept, within codec⟩).Faces codec encode rest back ∧
      (i.take size ⟨front, kept, within codec⟩).texts = front :: i.texts := by
  have hbytes : (i.kept ++ block) ++ rest = t.flatMap encode := by
    rw [List.append_assoc, h.bytes]
  obtain ⟨front, back, kept, rfl, hkept, hdecode⟩ := hc.decodeFrom_piece hbytes 0 []
  have hfront : '\r' ∉ front := fun hm => h.plain (List.mem_append_left _ hm)
  have hlast : front.getLast? ≠ some '\r' := fun hm => hfront (List.mem_of_getLast? hm)
  have htext : (if front.isEmpty then [] else i.resume front) = front := by
    cases front <;> simp [resume, h.waits]
  refine ⟨front, back, kept, rfl, ?_, ⟨rfl, ?_, hkept, fun hm => h.plain (List.mem_append_right _ hm)⟩, ?_⟩
  · rw [h.state, feed, decodeWith, hdecode]
    rfl
  · simp only [Intake.take, htext]
    cases front <;> simp [h.waits, hlast]
  · simp only [Intake.take, htext, hlast, if_false, unifyNewlines_of_not_mem hfront]

theorem Intake.Faces.last (h : i.Faces codec encode [] t) (hc : codec.Reads encode) :
    feed true i.kept i.state = .ok ⟨t, [], within codec⟩ := by
  have hkept : i.kept = t.flatMap encode := by rw [← h.bytes, List.append_nil]
  rw [h.state, feed, decodeWith, hkept, hc.decodeFrom]
  rfl

theorem Intake.Faces.finish (h : i.Faces codec encode [] t) :
    i.finish t = ⟨i.texts.reverse.flatten ++ t, i.early, none⟩ := by
  simp [Intake.finish, resume, h.waits, unifyNewlines_of_not_mem h.plain]

theorem decodeBlocks_of_faces (hc : codec.Reads encode) {bytes : List UInt8}
    (h : i.Faces codec encode bytes t) :
    decodeBlocks manner none i bytes = ⟨i.texts.reverse.flatten ++ t, i.early, none⟩ := by
  fun_induction decodeBlocks manner none i bytes generalizing t with
  | case1 i fault hnone => exact nomatch hnone
  | case2 i fault hf => exact nomatch hf.symm.trans (h.last hc)
  | case3 i p hp =>
    obtain rfl := Except.ok.inj (hp.symm.trans (h.last hc))
    exact h.finish
  | case4 i b rest further block p hp =>
    rename_i ih
    rw [← List.take_append_drop further rest, ← List.cons_append] at h
    obtain ⟨front, back, kept, rfl, hfeed, hnext, htexts⟩ := h.take hc block.length
    obtain rfl := Except.ok.inj (hp.symm.trans hfeed)
    rw [ih hnext, htexts]
    simp [Intake.take]
  | case5 i b rest further block hf =>
    rw [← List.take_append_drop further rest, ← List.cons_append] at h
    obtain ⟨front, back, kept, -, hfeed, -⟩ := h.take hc 0
    exact nomatch hf.symm.trans hfeed
  | case6 i b rest further block fault _ =>
    rename_i hf
    rw [← List.take_append_drop further rest, ← List.cons_append] at h
    obtain ⟨front, back, kept, -, hfeed, -⟩ := h.take hc 0
    exact nomatch hf.symm.trans hfeed

end Faces

/-- A document in UTF-8 without carriage returns is read as the text that it holds. -/
theorem read_utf8 (manner : Manner) {t : Text} (h : '\r' ∉ t) (limits : List Nat) :
    read manner (.ofEncoding .utf8) { bytes := t.utf8, limits } = ⟨t, [], none⟩ :=
  decodeBlocks_of_faces Codec.utf8_reads ⟨rfl, rfl, rfl, h⟩

end SentenceReader.Decoding

import Mathlib.Data.List.Basic
import SentenceReader.Encoding.Codec

/-! Texts in UTF-8. The codec reads every character from the bytes that stand for it, and asks for more
where some of them are missing, so the pieces of an encoded text are decoded piece by piece. -/
namespace SentenceReader

def Text.utf8 (t : Text) : List UInt8 := t.flatMap String.utf8EncodeChar

namespace Codec

/-- A codec that reads what an encoder writes. -/
structure Reads (codec : Codec) (encode : Char → List UInt8) : Prop where
  ne_nil (c : Char) : encode c ≠ []
  whole {c : Char} {lead : UInt8} {tail : List UInt8} (h : encode c = lead :: tail) (more : List UInt8) :
    codec.step lead (tail ++ more) = .char c tail.length
  part {c : Char} {lead : UInt8} {front back : List UInt8} (h : encode c = lead :: (front ++ back))
    (hb : back ≠ []) : ∃ reason, codec.step lead front = .incomplete reason

section Reads

variable {codec : Codec} {encode : Char → List UInt8}

theorem Reads.decodeFrom (h : codec.Reads encode) (t : Text) (final : Bool) (position : Nat)
    (decoded : Text) :
    codec.decodeFrom final position decoded (t.flatMap encode) = .ok (decoded.reverse ++ t, []) := by
  induction t generalizing position decoded with
  | nil => simp [Codec.decodeFrom]
  | cons c t ih =>
    obtain ⟨lead, tail, hc⟩ := List.exists_cons_of_ne_nil (h.ne_nil c)
    rw [List.flatMap_cons, hc, List.cons_append, Codec.decodeFrom, h.whole hc]
    simp only [List.drop_left, ih, List.reverse_cons, List.append_assoc, List.singleton_append]

/-- A piece from the front of an encoded text gives the characters that it holds as a whole. The bytes
that are kept belong to the next one. -/
theorem Reads.decodeFrom_piece (h : codec.Reads encode) {t : Text} {piece rest : List UInt8}
    (ht : piece ++ rest = t.flatMap encode) (position : Nat) (decoded : Text) :
    ∃ front back kept, t = front ++ back ∧ kept ++ rest = back.flatMap encode ∧
      codec.decodeFrom false position decoded piece = .ok (decoded.reverse ++ front, kept) := by
  induction t generalizing piece position decoded with
  | nil =>
    obtain ⟨rfl, rfl⟩ := List.append_eq_nil_iff.mp ht
    exact ⟨[], [], [], rfl, rfl, by simp [Codec.decodeFrom]⟩
  | cons c t ih =>
    obtain ⟨lead, tail, hc⟩ := List.exists_cons_of_ne_nil (h.ne_nil c)
    cases piece with
    | nil => exact ⟨[], c :: t, [], rfl, ht, by simp [Codec.decodeFrom]⟩
    | cons b piece =>
      rw [List.flatMap_cons, hc, List.cons_append, List.cons_append, List.cons.injEq] at ht
      obtain ⟨rfl, ht⟩ := ht
      have hwhole (more : List UInt8) (hp : piece = tail ++ more)
          (hm : more ++ rest = t.flatMap encode) : ∃ front back kept, c :: t = front ++ back ∧
            kept ++ rest = back.flatMap encode ∧
            codec.decodeFrom false position decoded (b :: piece) =
              .ok (decoded.reverse ++ front, kept) := by
        obtain ⟨front, back, kept, rfl, hk, hd⟩ :=
          ih hm (position + tail.length + 1) (c :: decoded)
        refine ⟨c :: front, back, kept, rfl, hk, ?_⟩
        rw [Codec.decodeFrom, hp, h.whole hc]
        simp only [List.drop_left, hd, List.reverse_cons, List.append_assoc, List.singleton_append]
      rcases List.append_eq_append_iff.mp ht with ⟨missing, hm, hr⟩ | ⟨more, hm, hr⟩
      · rcases eq_or_ne missing [] with rfl | hne
        · exact hwhole [] (by simpa using hm.symm) hr
        · subst hm
          obtain ⟨reason, hstep⟩ := h.part hc hne
          refine ⟨[], c :: t, b :: piece, rfl, ?_, ?_⟩
          · simp [hr, hc]
          · simp [Codec.decodeFrom, hstep]
      · exact hwhole more hm hr.symm

end Reads

/-- Bytes that can follow a first byte behind others, of which there are so many. -/
def Follows (lead : UInt8) (seen : Nat) : List UInt8 → Prop
  | [] => True
  | b :: rest =>
    let range := if seen = 0 then secondRange lead else (0x80, 0xBF)
    (range.1 ≤ b ∧ b ≤ range.2) ∧ Follows lead (seen + 1) rest

/-- A number with the bits of further bytes behind its own. -/
def withBits (value : Nat) (tail : List UInt8) : Nat :=
  tail.foldl (fun value b => value * 64 + b.toNat % 64) value

section Tail

variable {lead : UInt8} {seen : Nat} {tail : List UInt8}

theorem Follows.of_append {front back : List UInt8} (h : Follows lead seen (front ++ back)) :
    Follows lead seen front := by
  induction front generalizing seen with
  | nil => trivial
  | cons b front ih => exact ⟨h.1, ih h.2⟩

theorem utf8Tail_whole (h : Follows lead seen tail) (value : Nat) (more : List UInt8) :
    utf8Tail lead tail.length seen value (tail ++ more) =
      .char (Char.ofNat (withBits value tail)) (seen + tail.length) := by
  induction tail generalizing seen value with
  | nil => rfl
  | cons b tail ih =>
    rw [List.length_cons, List.cons_append, utf8Tail]
    simp only [h.1.1, h.1.2, decide_true, Bool.and_self, if_true, ih h.2]
    rw [withBits, withBits, List.foldl_cons, Nat.add_right_comm, Nat.add_assoc]

theorem utf8Tail_part {wanted : Nat} (h : Follows lead seen tail) (hw : tail.length < wanted)
    (value : Nat) : utf8Tail lead wanted seen value tail = .incomplete .unexpectedEnd := by
  induction tail generalizing seen wanted value with
  | nil =>
    obtain ⟨wanted, rfl⟩ := Nat.exists_eq_succ_of_ne_zero (Nat.ne_zero_of_lt hw)
    rfl
  | cons b tail ih =>
    obtain ⟨wanted, rfl⟩ := Nat.exists_eq_succ_of_ne_zero (Nat.ne_zero_of_lt hw)
    rw [utf8Tail]
    simp only [h.1.1, h.1.2, decide_true, Bool.and_self, if_true]
    exact ih h.2 (Nat.lt_of_succ_lt_succ hw) _

end Tail

section Spelling

variable {c : Char} {lead : UInt8} {tail : List UInt8}

theorem further?_of_spelling (h : String.utf8EncodeChar c = lead :: tail) :
    further? lead = some tail.length := by
  have hv : c.toNat < 0xD800 ∨ 0xDFFF < c.toNat ∧ c.toNat < 0x110000 := c.valid
  simp only [String.utf8EncodeChar, ← Char.toNat_val] at h hv
  generalize c.val.toNat = v at h hv
  split_ifs at h <;> obtain ⟨rfl, rfl⟩ := List.cons.inj h <;>
    simp [further?, UInt8.lt_iff_toNat_lt] <;> split_ifs <;> first | rfl | omega

/-- The first byte rules out what is no character of so many bytes, and characters are none of it. -/
theorem follows_of_spelling (h : String.utf8EncodeChar c = lead :: tail) : Follows lead 0 tail := by
  have hv : c.toNat < 0xD800 ∨ 0xDFFF < c.toNat ∧ c.toNat < 0x110000 := c.valid
  simp only [String.utf8EncodeChar, ← Char.toNat_val] at h hv
  generalize c.val.toNat = v at h hv
  split_ifs at h <;> obtain ⟨rfl, rfl⟩ := List.cons.inj h <;>
    simp [Follows, secondRange, UInt8.le_iff_toNat_le, ← UInt8.toNat_inj] <;>
    split_ifs <;> simp <;> omega

theorem withBits_of_spelling (h : String.utf8EncodeChar c = lead :: tail) :
    withBits (leadBits lead tail.length) tail = c.toNat := by
  have hv : c.toNat < 0xD800 ∨ 0xDFFF < c.toNat ∧ c.toNat < 0x110000 := c.valid
  simp only [String.utf8EncodeChar, ← Char.toNat_val] at h hv ⊢
  generalize c.val.toNat = v at h hv
  split_ifs at h <;> obtain ⟨rfl, rfl⟩ := List.cons.inj h <;> simp [withBits, leadBits] <;> omega

end Spelling

theorem utf8_reads : utf8.Reads String.utf8EncodeChar where
  ne_nil _ := String.utf8EncodeChar_ne_nil
  whole {c lead tail} h more := by
    simp only [utf8, further?_of_spelling h]
    rw [utf8Tail_whole (follows_of_spelling h), withBits_of_spelling h, Char.ofNat_toNat, Nat.zero_add]
  part {c lead front back} h hb := by
    refine ⟨.unexpectedEnd, ?_⟩
    simp only [utf8, further?_of_spelling h]
    refine utf8Tail_part (follows_of_spelling h).of_append ?_ _
    rw [List.length_append]
    exact Nat.lt_add_of_pos_right (List.length_pos_of_ne_nil hb)

end Codec

end SentenceReader

import Mathlib.Data.List.Forall2
import SentenceReader.Proofs.Token.Grammar
import SentenceReader.Text.CaseFold

/-! Words with an ending that is a token of its own. A word has at most one such ending, in whatever
case it is written, and the reader finds it. -/
namespace SentenceReader

/-- Some letters in lower case, each of them written in any case. -/
def Text.InAnyCase (small t : Text) : Prop :=
  List.Forall₂ (fun a c => c.toNat ∈ CaseFold.variants a.toNat) small t

namespace Lexeme

/-- A word is a stem with one of the endings behind it. -/
structure HasEnding (raw stem ending : Text) : Prop where
  whole : stem ++ ending = raw
  stem : Text.IsRun isWordChar stem
  ending : ∃ small ∈ clitics, Text.InAnyCase small ending

/-- The characters of the endings. -/
def endingChars : List Char := clitics.flatten

theorem mem_endingChars {small : Text} (h : small ∈ clitics) : ∀ a ∈ small, a ∈ endingChars :=
  fun _ ha => List.mem_flatten_of_mem h ha

/-- Letters are the same in any case as they are in the tables. -/
theorem sameLetter_iff {a c : Char} (h : a ∈ endingChars) :
    sameLetter a c = true ↔ c.toNat ∈ CaseFold.variants a.toNat := by
  have hascii : ∀ m ∈ endingChars.map Char.toNat, ∀ n < 128,
      sameLetter (Char.ofNat m) (Char.ofNat n) = decide (n ∈ CaseFold.variants m) := by
    decide +kernel
  have hlarge : ∀ m ∈ endingChars.map Char.toNat, m < 128 ∧
      (0x17F ∈ CaseFold.variants m ↔ m = 's'.toNat) ∧
      ∀ n ∈ CaseFold.variants m, n < 128 ∨ n = 0x17F := by
    decide +kernel
  have hcode := List.mem_map_of_mem (f := Char.toNat) h
  by_cases hc : c.toNat < 128
  · have hsame := hascii _ hcode c.toNat hc
    rw [Char.ofNat_toNat, Char.ofNat_toNat] at hsame
    rw [hsame, decide_eq_true_eq]
  · -- Beyond ASCII the long s is the only variant, and no other character changes.
    obtain ⟨ha, hs, hall⟩ := hlarge _ hcode
    rw [Char.toNat_inj] at hs
    have hlower : c.toLower = c := by
      refine dif_neg ?_
      rintro ⟨-, hle⟩
      have hZ : c.toNat ≤ 'Z'.toNat := hle
      exact hc (Nat.lt_of_le_of_lt hZ (by decide))
    have hne : (c == a) = false := by
      rw [beq_eq_false_iff_ne]
      rintro rfl
      exact hc ha
    have hlong : c.toNat ∈ CaseFold.variants a.toNat ↔ a = 's' ∧ c.toNat = 0x17F := by
      constructor
      · intro hm
        have hn := (hall _ hm).resolve_left hc
        exact ⟨hs.1 (hn ▸ hm), hn⟩
      · rintro ⟨has, hn⟩
        rw [hn]
        exact hs.2 has
    have hchar : c = 'ſ' ↔ c.toNat = 0x17F := by
      rw [← Char.toNat_inj]
      rfl
    rw [hlong, sameLetter, hlower, hne, Bool.false_or, Bool.and_eq_true, beq_iff_eq, beq_iff_eq,
      hchar]

theorem isClitic_iff {small t : Text} (h : ∀ a ∈ small, a ∈ endingChars) :
    isClitic small t = true ↔ Text.InAnyCase small t := by
  induction small generalizing t with
  | nil => cases t <;> simp [isClitic, Text.InAnyCase]
  | cons a small ih =>
    obtain ⟨ha, hsmall⟩ := List.forall_mem_cons.1 h
    cases t with
    | nil => simp [isClitic, Text.InAnyCase]
    | cons c t =>
      rw [isClitic, Bool.and_eq_true, sameLetter_iff ha, ih hsmall]
      exact (List.forall₂_cons (R := fun a c : Char => c.toNat ∈ CaseFold.variants a.toNat)).symm

/-- No two endings are written alike. -/
theorem eq_of_inAnyCase {a b t : Text} (ha : ∀ x ∈ a, x ∈ endingChars)
    (hb : ∀ x ∈ b, x ∈ endingChars) (hat : Text.InAnyCase a t) (hbt : Text.InAnyCase b t) :
    a = b := by
  have hletter : ∀ m ∈ endingChars.map Char.toNat, ∀ k ∈ endingChars.map Char.toNat,
      ∀ n ∈ CaseFold.variants m, n ∈ CaseFold.variants k → m = k := by
    decide +kernel
  induction hat generalizing b with
  | nil =>
    cases hbt with
    | nil => rfl
  | cons hx _ ih =>
    cases hbt with
    | cons hy hbt =>
      obtain ⟨hxm, ha⟩ := List.forall_mem_cons.1 ha
      obtain ⟨hym, hb⟩ := List.forall_mem_cons.1 hb
      have hcode := hletter _ (List.mem_map_of_mem hxm) _ (List.mem_map_of_mem hym) _ hx hy
      rw [Char.toNat_inj.1 hcode, ih ha hb hbt]

/-- The longer one of two endings of a word ends as the shorter one does, so they are one. -/
theorem HasEnding.ending_eq {raw stem ending stem' ending' : Text} (h : HasEnding raw stem ending)
    (h' : HasEnding raw stem' ending') (hle : ending'.length ≤ ending.length) :
    ending = ending' := by
  have hclitics : ∀ a ∈ clitics, ∀ b ∈ clitics, a.drop (a.length - b.length) = b → a = b := by
    decide
  obtain ⟨small, hm, hsmall⟩ := h.ending
  obtain ⟨small', hm', hsmall'⟩ := h'.ending
  have hsuffix : ending' <:+ ending :=
    List.suffix_of_suffix_length_le ⟨stem', h'.whole⟩ ⟨stem, h.whole⟩ hle
  have hdrop : ending' = ending.drop (ending.length - ending'.length) :=
    List.suffix_iff_eq_drop.1 hsuffix
  have hlength := hsmall.length_eq
  have hlength' := hsmall'.length_eq
  have htail : Text.InAnyCase (small.drop (small.length - small'.length)) ending' := by
    rw [hdrop, hlength, hlength']
    exact List.forall₂_drop _ hsmall
  have hsame : small = small' := by
    refine hclitics small hm small' hm' (eq_of_inAnyCase ?_ (mem_endingChars hm') htail hsmall')
    exact fun x hx => mem_endingChars hm x (List.mem_of_mem_drop hx)
  refine (hsuffix.eq_of_length ?_).symm
  rw [← hlength, ← hlength', hsame]

theorem HasEnding.unique {raw stem ending stem' ending' : Text} (h : HasEnding raw stem ending)
    (h' : HasEnding raw stem' ending') : stem = stem' ∧ ending = ending' := by
  have hending : ending = ending' := by
    rcases Nat.le_total ending'.length ending.length with hle | hle
    · exact h.ending_eq h' hle
    · exact (h'.ending_eq h hle).symm
  subst hending
  exact ⟨List.append_cancel_right (h.whole.trans h'.whole.symm), rfl⟩

/-- The stem and the ending of a word are found where it has them. -/
theorem splitClitic?_eq_some_iff {raw stem ending : Text} :
    splitClitic? raw = some (stem, ending) ↔ HasEnding raw stem ending := by
  have hsound : ∀ {stem ending : Text}, splitClitic? raw = some (stem, ending) →
      HasEnding raw stem ending := by
    intro stem ending h
    obtain ⟨small, hm, hs⟩ := List.exists_of_findSome?_eq_some h
    dsimp only at hs
    split at hs
    · next hc =>
      obtain ⟨rfl, rfl⟩ := Prod.mk.inj (Option.some.inj hs)
      simp only [Bool.and_eq_true, Bool.not_eq_true', List.isEmpty_eq_false_iff,
        List.all_eq_true] at hc
      exact ⟨List.take_append_drop _ _, ⟨hc.1.1, hc.1.2⟩, small, hm,
        (isClitic_iff (mem_endingChars hm)).1 hc.2⟩
    · exact absurd hs (by simp)
  refine ⟨hsound, fun h => ?_⟩
  obtain ⟨small, hm, hsmall⟩ := h.ending
  have hlength := hsmall.length_eq
  have hpart : raw.length - small.length = stem.length := by
    rw [← h.whole, List.length_append, hlength, Nat.add_sub_cancel]
  have htake : raw.take stem.length = stem := by rw [← h.whole, List.take_left]
  have hdrop : raw.drop stem.length = ending := by rw [← h.whole, List.drop_left]
  have hsome : (splitClitic? raw).isSome = true := by
    refine List.findSome?_isSome_iff.2 ⟨small, hm, ?_⟩
    have hclitic := (isClitic_iff (mem_endingChars hm)).2 hsmall
    have hstem : stem.isEmpty = false := List.isEmpty_eq_false_iff.2 h.stem.ne_nil
    have hall : stem.all isWordChar = true := List.all_eq_true.2 h.stem.all
    simp [hpart, htake, hdrop, hclitic, hstem, hall]
  obtain ⟨⟨stem', ending'⟩, hr⟩ := Option.isSome_iff_exists.1 hsome
  obtain ⟨rfl, rfl⟩ := h.unique (hsound hr)
  exact hr

/-- A word without an ending is left whole. -/
theorem splitClitic?_eq_none_iff {raw : Text} :
    splitClitic? raw = none ↔ ∀ stem ending, ¬HasEnding raw stem ending := by
  rw [Option.eq_none_iff_forall_ne_some, Prod.forall]
  exact forall₂_congr fun stem ending => not_congr splitClitic?_eq_some_iff

end Lexeme

end SentenceReader

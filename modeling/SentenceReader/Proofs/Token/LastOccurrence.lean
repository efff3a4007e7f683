import SentenceReader.Proofs.Text.Pieces
import SentenceReader.Token.Tagged

/-! Where words part from their tags. Without the white space at its ends, a word is split where the
delimiter occurs last in it, unless nothing stands behind. Occurrences may overlap, and it is the place
where they begin that counts. -/
namespace SentenceReader

namespace Text

/-- A pattern occurs in a text behind so many characters. -/
def OccursAt (d t : Text) (i : Nat) : Prop := i ≤ t.length ∧ d <+: t.drop i

instance (d t : Text) (i : Nat) : Decidable (OccursAt d t i) :=
  inferInstanceAs (Decidable (i ≤ t.length ∧ d <+: t.drop i))

/-- The place of the last occurrence of a pattern in a text. -/
structure IsLastAt (d t : Text) (i : Nat) : Prop where
  occurs : OccursAt d t i
  none_later : ∀ j > i, ¬ OccursAt d t j

instance (d t : Text) (i : Nat) : Decidable (IsLastAt d t i) :=
  decidable_of_iff (OccursAt d t i ∧ ∀ j ≤ t.length, j > i → ¬ OccursAt d t j)
    ⟨fun h => ⟨h.1, fun j hj ho => h.2 j ho.1 hj ho⟩, fun h => ⟨h.occurs, fun j _ => h.none_later j⟩⟩

section

variable {d t : Text} {c : Char} {i : Nat}

theorem occursAt_iff_exists_append :
    OccursAt d t i ↔ ∃ head tail, t = head ++ d ++ tail ∧ head.length = i := by
  constructor
  · rintro ⟨hi, tail, htail⟩
    refine ⟨t.take i, tail, ?_, List.length_take_of_le hi⟩
    rw [List.append_assoc, htail, List.take_append_drop]
  · rintro ⟨head, tail, rfl, rfl⟩
    simp [OccursAt]

theorem not_occursAt_nil (hd : d ≠ []) (i : Nat) : ¬ OccursAt d [] i := by
  rintro ⟨-, h⟩
  rw [List.drop_nil, List.prefix_nil] at h
  exact hd h

@[simp] theorem occursAt_cons_zero : OccursAt d (c :: t) 0 ↔ d <+: c :: t := by
  simp [OccursAt]

@[simp] theorem occursAt_cons_succ : OccursAt d (c :: t) (i + 1) ↔ OccursAt d t i := by
  simp [OccursAt]

theorem forall_not_occursAt_cons :
    (∀ i, ¬ OccursAt d (c :: t) i) ↔ ¬ d <+: c :: t ∧ ∀ i, ¬ OccursAt d t i := by
  rw [← Nat.and_forall_add_one, occursAt_cons_zero]
  simp only [occursAt_cons_succ]

theorem isLastAt_cons_zero :
    IsLastAt d (c :: t) 0 ↔ d <+: c :: t ∧ ∀ i, ¬ OccursAt d t i := by
  constructor
  · intro h
    exact ⟨occursAt_cons_zero.1 h.occurs,
      fun i ho => h.none_later (i + 1) i.succ_pos (occursAt_cons_succ.2 ho)⟩
  · rintro ⟨hp, hnone⟩
    refine ⟨occursAt_cons_zero.2 hp, fun j hj ho => ?_⟩
    obtain ⟨i, rfl⟩ := Nat.exists_eq_succ_of_ne_zero hj.ne'
    exact hnone i (occursAt_cons_succ.1 ho)

theorem isLastAt_cons_succ : IsLastAt d (c :: t) (i + 1) ↔ IsLastAt d t i := by
  constructor
  · intro h
    exact ⟨occursAt_cons_succ.1 h.occurs,
      fun j hj ho => h.none_later (j + 1) (Nat.succ_lt_succ hj) (occursAt_cons_succ.2 ho)⟩
  · intro h
    refine ⟨occursAt_cons_succ.2 h.occurs, fun j hj ho => ?_⟩
    obtain ⟨k, rfl⟩ := Nat.exists_eq_succ_of_ne_zero (Nat.ne_of_gt (Nat.zero_lt_of_lt hj))
    exact h.none_later k (Nat.lt_of_succ_lt_succ hj) (occursAt_cons_succ.1 ho)

/-- What stands in front of a text moves the last occurrence in it, and nothing else. -/
theorem isLastAt_append (front : Text) :
    IsLastAt d (front ++ t) (front.length + i) ↔ IsLastAt d t i := by
  induction front with
  | nil => rw [List.nil_append, List.length_nil, Nat.zero_add]
  | cons c front ih =>
    rw [List.cons_append, List.length_cons, Nat.add_right_comm, isLastAt_cons_succ, ih]

theorem IsLastAt.unique {j : Nat} (hi : IsLastAt d t i) (hj : IsLastAt d t j) : i = j := by
  have hij : ¬ j > i := fun h => hi.none_later j h hj.occurs
  have hji : ¬ i > j := fun h => hj.none_later i h hi.occurs
  omega

theorem dropStart?_eq_none_iff : dropStart? d t = none ↔ ¬ d <+: t := by
  constructor
  · rintro h ⟨rest, rfl⟩
    simp at h
  · intro h
    cases hr : dropStart? d t with
    | none => rfl
    | some rest => exact absurd ⟨rest, (eq_append_of_dropStart? hr).symm⟩ h

end

end Text

namespace Tagged

open Text

/-- A word that is a head and a tag around the last occurrence of the delimiter. White space at the ends
of the word does not count. -/
structure IsSplit (d w head tag : Text) : Prop where
  word_eq : head ++ d ++ tag = trim w
  tag_ne_nil : tag ≠ []
  isLastAt : IsLastAt d (trim w) head.length

/-- The delimiter occurs in a word, and its last occurrence is not at the very end. -/
def HasTag (d w : Text) : Prop := ∃ i, IsLastAt d (trim w) i ∧ i + d.length ≠ (trim w).length

instance (d w : Text) : Decidable (HasTag d w) :=
  decidable_of_iff (∃ i ≤ (trim w).length, IsLastAt d (trim w) i ∧ i + d.length ≠ (trim w).length)
    ⟨fun ⟨i, _, h⟩ => ⟨i, h⟩, fun ⟨i, h⟩ => ⟨i, h.1.occurs.1, h⟩⟩

section

variable {d : Text} (hd : d ≠ [])
include hd

/-- A text that is not cut has no occurrence of the delimiter. -/
theorem cutLast?_eq_none_iff {t : Text} : cutLast? d t = none ↔ ∀ i, ¬ OccursAt d t i := by
  induction t with
  | nil => simp [cutLast?, not_occursAt_nil hd]
  | cons c rest ih =>
    rw [cutLast?, forall_not_occursAt_cons, ← ih]
    cases cutLast? d rest with
    | some p => simp
    | none => simp [dropStart?_eq_none_iff]

theorem isLastAt_of_cutLast? {t head tail : Text} (h : cutLast? d t = some (head, tail)) :
    IsLastAt d t head.length := by
  induction t generalizing head with
  | nil => cases h
  | cons c rest ih =>
    rw [cutLast?] at h
    cases hr : cutLast? d rest with
    | some p =>
      -- A later occurrence stays the last one.
      obtain ⟨rfl, rfl⟩ : c :: p.1 = head ∧ p.2 = tail := by simpa [hr] using h
      exact isLastAt_cons_succ.2 (ih hr)
    | none =>
      obtain ⟨hdrop, rfl⟩ : dropStart? d (c :: rest) = some tail ∧ [] = head := by simpa [hr] using h
      exact isLastAt_cons_zero.2
        ⟨⟨tail, (eq_append_of_dropStart? hdrop).symm⟩, (cutLast?_eq_none_iff hd).1 hr⟩

/-- A text is cut around the last occurrence of the delimiter. -/
theorem cutLast?_eq_some_iff {t head tail : Text} :
    cutLast? d t = some (head, tail) ↔ head ++ d ++ tail = t ∧ IsLastAt d t head.length := by
  constructor
  · intro h
    exact ⟨(eq_append_of_cutLast? h).symm, isLastAt_of_cutLast? hd h⟩
  · rintro ⟨ht, hlast⟩
    cases hc : cutLast? d t with
    | none => exact absurd hlast.occurs ((cutLast?_eq_none_iff hd).1 hc _)
    | some p =>
      -- There is one last place only, so the heads are the same, and with them the tails.
      have hlength : head.length = p.1.length := hlast.unique (isLastAt_of_cutLast? hd hc)
      have heq : head ++ (d ++ tail) = p.1 ++ (d ++ p.2) := by
        rw [← List.append_assoc, ht, ← List.append_assoc]
        exact eq_append_of_cutLast? hc
      obtain ⟨hhead, hrest⟩ := List.append_inj heq hlength
      rw [hhead, List.append_cancel_left hrest]

theorem split?_eq_some_iff {w head tag : Text} :
    split? d w = some (head, tag) ↔ IsSplit d w head tag := by
  rw [split?_eq_some_iff_cutLast?, cutLast?_eq_some_iff hd]
  exact ⟨fun h => ⟨h.1.1, h.2, h.1.2⟩, fun h => ⟨⟨h.word_eq, h.isLastAt⟩, h.tag_ne_nil⟩⟩

omit hd in
theorem exists_isSplit_iff {w : Text} : (∃ head tag, IsSplit d w head tag) ↔ HasTag d w := by
  constructor
  · rintro ⟨head, tag, h⟩
    refine ⟨head.length, h.isLastAt, ?_⟩
    have htag := List.length_pos_iff.2 h.tag_ne_nil
    rw [← h.word_eq, List.length_append, List.length_append]
    omega
  · rintro ⟨i, hlast, hend⟩
    obtain ⟨head, tag, hw, rfl⟩ := occursAt_iff_exists_append.1 hlast.occurs
    refine ⟨head, tag, hw.symm, ?_, hlast⟩
    rintro rfl
    simp [hw] at hend

/-- A head and a tag without white space outside are split where they were joined, unless the delimiter
occurs once more behind. -/
theorem isSplit_append {head tag : Text} (hhead : ∀ c ∈ head.head?, isBlank c = false)
    (htag : tag ≠ []) (hlast : ∀ c ∈ tag.getLast?, isBlank c = false) (htrimmed : IsTrimmed d)
    (honce : ∀ i > 0, ¬ OccursAt d (d ++ tag) i) : IsSplit d (head ++ d ++ tag) head tag := by
  have htrim : trim (head ++ d ++ tag) = head ++ d ++ tag := by
    refine IsTrimmed.trim_eq ⟨fun c hc => ?_, fun c hc => ?_⟩
    · cases head with
      | nil =>
        rw [List.nil_append, List.head?_append, Option.or_of_isSome (by simpa using hd)] at hc
        exact htrimmed.head c hc
      | cons b head => exact hhead c hc
    · rw [List.getLast?_append, Option.or_of_isSome (by simpa using htag)] at hc
      exact hlast c hc
  have hfirst : IsLastAt d (d ++ tag) 0 := ⟨⟨Nat.zero_le _, List.prefix_append d tag⟩, honce⟩
  refine ⟨htrim.symm, htag, ?_⟩
  rw [htrim, List.append_assoc]
  exact (isLastAt_append head).2 hfirst

theorem parts?_of_ne_nil (w : Text) :
    parts? d w = some (match split? d w with | some (head, tag) => [head, tag] | none => [w]) := by
  rw [parts?, if_neg (by simpa using hd)]
  cases split? d w <;> rfl

theorem parts?_eq_pair_iff {w head tag : Text} :
    parts? d w = some [head, tag] ↔ IsSplit d w head tag := by
  rw [← split?_eq_some_iff hd, parts?_of_ne_nil hd]
  cases split? d w with
  | none => simp
  | some p => simp [Prod.ext_iff]

theorem parts?_of_not_hasTag {w : Text} (h : ¬ HasTag d w) : parts? d w = some [w] := by
  rw [parts?_of_ne_nil hd]
  cases hs : split? d w with
  | none => rfl
  | some p => exact absurd (exists_isSplit_iff.1 ⟨p.1, p.2, (split?_eq_some_iff hd).1 hs⟩) h

/-- A token takes the parts of its word. -/
theorem mark_eq_parts (t : Token) :
    mark (some d) t = match parts? d t.word with
      | some [head, tag] => { t with word := head, tag := some tag }
      | _ => t := by
  rw [mark, parts?_of_ne_nil hd]
  cases split? d t.word <;> rfl

/-- A word has its head and its tag around the last occurrence of the delimiter. It stays whole where
the delimiter does not occur, and where the last occurrence is at the very end. Tokens take the parts of
their words. -/
theorem parts_around_last_occurrence :
    (∀ w head tag, parts? d w = some [head, tag] ↔ IsSplit d w head tag) ∧
    (∀ w, (∃ head tag, parts? d w = some [head, tag]) ↔ HasTag d w) ∧
    (∀ w, ¬ HasTag d w → parts? d w = some [w]) ∧
    (∀ head tag : Text, (∀ c ∈ head.head?, isBlank c = false) → tag ≠ [] →
      (∀ c ∈ tag.getLast?, isBlank c = false) → IsTrimmed d →
      (∀ i > 0, ¬ OccursAt d (d ++ tag) i) → parts? d (head ++ d ++ tag) = some [head, tag]) ∧
    ∀ t : Token, mark (some d) t = match parts? d t.word with
      | some [head, tag] => { t with word := head, tag := some tag }
      | _ => t := by
  refine ⟨fun w head tag => parts?_eq_pair_iff hd, fun w => ?_, fun w => parts?_of_not_hasTag hd,
    fun head tag hhead htag hlast htrimmed honce => ?_, mark_eq_parts hd⟩
  · simp only [parts?_eq_pair_iff hd, exists_isSplit_iff]
  · exact (parts?_eq_pair_iff hd).2 (isSplit_append hd hhead htag hlast htrimmed honce)

end

/-- Occurrences that overlap: of three hyphens the last two are the delimiter. At the end of a word
they leave no tag, although there is an earlier occurrence with a hyphen behind it. -/
theorem parts_around_overlapping_hyphens :
    let d : Text := ['-', '-']
    d ≠ [] ∧
      IsSplit d " a---b ".toList ['a', '-'] ['b'] ∧
      parts? d " a---b ".toList = some [['a', '-'], ['b']] ∧
      ¬ HasTag d "a---".toList ∧ parts? d "a---".toList = some ["a---".toList] ∧
      IsLastAt d (d ++ ['b']) 0 ∧
      parts? d (['a', '-'] ++ d ++ ['b']) = some [['a', '-'], ['b']] := by
  intro d
  have hd : d ≠ [] := by decide
  obtain ⟨hpair, -, hwhole, hjoined, -⟩ := parts_around_last_occurrence hd
  have hsplit : IsSplit d " a---b ".toList ['a', '-'] ['b'] := ⟨by decide, by decide, by decide⟩
  have hno : ¬ HasTag d "a---".toList := by decide
  have hfirst : IsLastAt d (d ++ ['b']) 0 := by decide
  have hend : ∀ b : Char, isBlank b = false → ∀ c ∈ some b, isBlank c = false := by
    intro b hb c hc
    rwa [← Option.mem_some.1 hc]
  have htrimmed : IsTrimmed d := ⟨hend '-' (by decide), hend '-' (by decide)⟩
  exact ⟨hd, hsplit, (hpair _ _ _).2 hsplit, hno, hwhole _ hno, hfirst,
    hjoined ['a', '-'] ['b'] (hend 'a' (by decide)) (by decide) (hend 'b' (by decide)) htrimmed
      hfirst.none_later⟩

end Tagged

end SentenceReader

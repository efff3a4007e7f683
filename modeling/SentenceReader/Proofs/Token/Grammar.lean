import Mathlib.Data.List.TakeWhile
import SentenceReader.Proofs.Token.Words

/-! The rules for raw tokens, by the form of what they take. Some rules take the longest beginning of
a text that has their form. The rules that read a line take exactly what these ones do. -/
namespace SentenceReader

namespace Text

/-- Some characters of a class, and not none. -/
structure IsRun (inClass : Char → Bool) (t : Text) : Prop where
  ne_nil : t ≠ []
  all : ∀ c ∈ t, inClass c = true

/-- A run of a class, and behind it any number of further runs, each of them behind a character that
joins it. -/
inductive IsJoined (inClass joins : Char → Bool) : Text → Prop
  | run {t : Text} (h : IsRun inClass t) : IsJoined inClass joins t
  | join {t later : Text} {c : Char} (h : IsRun inClass t) (hc : joins c = true)
    (hl : IsJoined inClass joins later) : IsJoined inClass joins (t ++ c :: later)

/-- At least two letters, each with a full stop behind it. -/
def IsInitials (t : Text) : Prop :=
  ∃ letters : Text, 2 ≤ letters.length ∧ (∀ c ∈ letters, c.isAlpha = true) ∧
    t = letters.flatMap fun c => [c, '.']

/-- The longest beginning of a text that has a form, in front of what is left of the text. -/
structure Longest (form : Text → Prop) (raw left : Text) : Prop where
  of_form : form raw
  longest : ∀ other, form other → other <+: raw ++ left → other.length ≤ raw.length

theorem Longest.unique {form : Text → Prop} {raw left raw' left' : Text}
    (h : Longest form raw left) (h' : Longest form raw' left') (he : raw ++ left = raw' ++ left') :
    raw = raw' ∧ left = left' := by
  have hb : raw' <+: raw ++ left := he ▸ List.prefix_append raw' left'
  have hb' : raw <+: raw' ++ left' := he ▸ List.prefix_append raw left
  exact List.append_inj he (Nat.le_antisymm (h'.longest raw h.of_form hb') (h.longest raw' h'.of_form hb))

variable {inClass joins : Char → Bool}

theorem IsJoined.head {t : Text} (h : IsJoined inClass joins t) (later : Text) :
    (t ++ later).head?.any inClass = true := by
  have hrun : ∀ {t : Text}, IsRun inClass t → ∀ later : Text,
      (t ++ later).head?.any inClass = true := by
    intro t ht later
    obtain ⟨c, rest, rfl⟩ := List.exists_cons_of_ne_nil ht.ne_nil
    simpa using ht.all c (by simp)
  cases h with
  | run h => exact hrun h later
  | join h hc hl =>
    rw [List.append_assoc]
    exact hrun h _

theorem IsJoined.cons {c : Char} {t : Text} (hc : inClass c = true)
    (h : IsJoined inClass joins t) : IsJoined inClass joins (c :: t) := by
  have hrun : ∀ {t : Text}, IsRun inClass t → IsRun inClass (c :: t) := fun ht =>
    ⟨List.cons_ne_nil _ _, List.forall_mem_cons.2 ⟨hc, ht.all⟩⟩
  cases h with
  | run h => exact .run (hrun h)
  | join h hj hl => exact .join (hrun h) hj hl

theorem isJoined_singleton {c : Char} (hc : inClass c = true) : IsJoined inClass joins [c] :=
  .run ⟨List.cons_ne_nil _ _, by simpa using hc⟩

end Text

namespace Lexeme

open Text (IsRun IsJoined IsInitials Longest)

/-- The rules for raw tokens. -/
inductive RawRule where
  | ellipsis
  | initials
  | abbreviation
  | number
  | word
  | mark
  | sign
  deriving DecidableEq, Repr

namespace RawRule

/-- The rules in their order, the first of which counts. -/
def order : List RawRule := [ellipsis, initials, abbreviation, number, word, mark, sign]

/-- What a rule takes of a text, in front of what it leaves of it: three dots; letters with their full
stops; an abbreviation with its full stop, where white space follows and then something else; a
number; a word; a mark of two characters; any single character that is neither white space nor part
of a word. -/
def Takes : RawRule → Text → Text → Prop
  | ellipsis, raw, _ => raw = ['.', '.', '.']
  | initials, raw, left => Longest IsInitials raw left
  | abbreviation, raw, left => (∃ a ∈ abbreviations, raw = a ++ ['.']) ∧
      ∃ gap c later, IsRun isBlank gap ∧ isBlank c = false ∧ left = gap ++ c :: later
  | number, raw, left => Longest (IsJoined isDigitChar fun c => c ∈ ['.', ',', ':']) raw left
  | word, raw, left => Longest (IsJoined isWordChar fun c => c ∈ ['-', '\'', '’']) raw left
  | mark, raw, _ => raw ∈ [['\'', '\''], ['\x60', '\x60'], ['-', '-']]
  | sign, raw, _ => ∃ c, isBlank c = false ∧ isWordChar c = false ∧ raw = [c]

/-- The first of some rules that takes anything of a text takes this much of it. -/
def FirstTakes : List RawRule → Text → Text → Prop
  | [], _, _ => False
  | rule :: later, raw, left => rule.Takes raw left ∨
      (∀ raw' left', raw' ++ left' = raw ++ left → ¬rule.Takes raw' left') ∧
        FirstTakes later raw left

def read? : RawRule → Text → Option (Text × Text)
  | ellipsis => ellipsis?
  | initials => initials?
  | abbreviation => abbreviation?
  | number => number?
  | word => word?
  | mark => mark?
  | sign => fun t => match t with
    | c :: rest => if !isBlank c && !isWordChar c then some ([c], rest) else none
    | [] => none

end RawRule

theorem takeExactly?_eq_some_iff {m t raw left : Text} :
    takeExactly? m t = some (raw, left) ↔ raw ++ left = t ∧ raw = m := by
  constructor
  · intro h
    have hm : raw = m := fst_of_takeExactly? h
    exact ⟨append_takeExactly? h, hm⟩
  · rintro ⟨rfl, rfl⟩
    rw [takeExactly?, Text.dropStart?_append]
    rfl

/-- Of some beginnings none of which begins another one, the one is taken that is there. -/
theorem findSome?_takeExactly?_eq_some_iff {marks : List Text}
    (hm : ∀ a ∈ marks, ∀ b ∈ marks, a <+: b → a = b) {t raw left : Text} :
    (marks.findSome? fun m => takeExactly? m t) = some (raw, left) ↔
      raw ++ left = t ∧ raw ∈ marks := by
  constructor
  · intro h
    obtain ⟨m, hmem, hr⟩ := List.exists_of_findSome?_eq_some h
    obtain ⟨ht, rfl⟩ := takeExactly?_eq_some_iff.1 hr
    exact ⟨ht, hmem⟩
  · rintro ⟨ht, hmem⟩
    have hsome : (marks.findSome? fun m => takeExactly? m t).isSome = true :=
      List.findSome?_isSome_iff.2 ⟨raw, hmem, by rw [takeExactly?_eq_some_iff.2 ⟨ht, rfl⟩]; rfl⟩
    obtain ⟨⟨raw', left'⟩, hr⟩ := Option.isSome_iff_exists.1 hsome
    obtain ⟨m, hmem', hr'⟩ := List.exists_of_findSome?_eq_some hr
    obtain ⟨ht', rfl⟩ := takeExactly?_eq_some_iff.1 hr'
    have hbegin : raw <+: t := ⟨left, ht⟩
    have hbegin' : raw' <+: t := ⟨left', ht'⟩
    have hsame : raw = raw' := by
      rcases List.prefix_or_prefix_of_prefix hbegin hbegin' with h | h
      · exact hm raw hmem raw' hmem' h
      · exact (hm raw' hmem' raw hmem h).symm
    subst hsame
    rw [hr, List.append_cancel_left (ht'.trans ht.symm)]

section Joined

variable {inClass joins : Char → Bool}

/-- What is taken of joined runs is a form of them, also behind another character of the class. -/
theorem isJoined_takeJoined (t : Text) :
    (t.head?.any inClass = true → IsJoined inClass joins (takeJoined inClass joins t).1) ∧
      ∀ c, inClass c = true → IsJoined inClass joins (c :: (takeJoined inClass joins t).1) := by
  induction t with
  | nil => exact ⟨fun h => absurd h (by simp), fun c hc => Text.isJoined_singleton hc⟩
  | cons d rest ih =>
    have hstart : inClass d = true →
        IsJoined inClass joins (takeJoined inClass joins (d :: rest)).1 := by
      intro hd
      rw [takeJoined, if_pos (by simp [hd])]
      exact ih.2 d hd
    refine ⟨fun h => hstart (by simpa using h), fun c hc => ?_⟩
    by_cases hd : inClass d = true
    · exact (hstart hd).cons hc
    · rw [takeJoined]
      split
      · next hj =>
        -- The character joins the run behind it to the one that it stands behind.
        simp only [hd, Bool.false_or, Bool.and_eq_true] at hj
        exact .join (t := [c]) ⟨List.cons_ne_nil _ _, by simpa using hc⟩ hj.1 (ih.1 hj.2)
      · exact Text.isJoined_singleton hc

theorem takeJoined_run {t : Text} (h : ∀ c ∈ t, inClass c = true) (later : Text) :
    (takeJoined inClass joins (t ++ later)).1 = t ++ (takeJoined inClass joins later).1 := by
  induction t with
  | nil => rfl
  | cons c t ih =>
    obtain ⟨hc, ht⟩ := List.forall_mem_cons.1 h
    rw [List.cons_append, takeJoined, if_pos (by simp [hc])]
    exact congrArg (c :: ·) (ih ht)

/-- All joined runs at the beginning of a text are taken. -/
theorem prefix_takeJoined {t : Text} (h : IsJoined inClass joins t) (later : Text) :
    t <+: (takeJoined inClass joins (t ++ later)).1 := by
  induction h with
  | run h =>
    rw [takeJoined_run h.all]
    exact List.prefix_append _ _
  | join h hc hl ih =>
    have hnext := hl.head later
    rw [List.append_assoc, takeJoined_run h.all, List.prefix_append_right_inj, List.cons_append,
      takeJoined, if_pos (by rw [hc, hnext, Bool.and_self, Bool.or_true])]
    exact (List.prefix_cons_inj _).2 ih

/-- Where a text begins with a character of the class, the longest joined runs are taken. -/
theorem takeJoined_eq_some_iff {t raw left : Text} :
    (if t.head?.any inClass then some (takeJoined inClass joins t) else none) = some (raw, left) ↔
      raw ++ left = t ∧ Longest (IsJoined inClass joins) raw left := by
  have hlongest : t.head?.any inClass = true →
      Longest (IsJoined inClass joins) (takeJoined inClass joins t).1
        (takeJoined inClass joins t).2 := by
    refine fun hd => ⟨(isJoined_takeJoined t).1 hd, ?_⟩
    rw [append_takeJoined]
    rintro other hother ⟨later, rfl⟩
    exact (prefix_takeJoined hother later).length_le
  constructor
  · intro h
    split at h
    · next hd =>
      obtain hr : takeJoined inClass joins t = (raw, left) := Option.some.inj h
      have happend := append_takeJoined inClass joins t
      rw [hr] at happend
      refine ⟨happend, ?_⟩
      simpa only [hr] using hlongest hd
    · exact absurd h (by simp)
  · rintro ⟨rfl, h⟩
    have hd := h.of_form.head left
    rw [if_pos hd]
    obtain ⟨h₁, h₂⟩ := (hlongest hd).unique h (append_takeJoined _ _ _)
    exact congrArg some (Prod.ext h₁ h₂)

end Joined

theorem length_initials (letters : Text) :
    (letters.flatMap fun c => [c, '.']).length = 2 * letters.length := by
  induction letters with
  | nil => rfl
  | cons c letters ih =>
    rw [List.flatMap_cons, List.length_append, ih]
    simp only [List.length_cons, List.length_nil]
    omega

theorem exists_takeInitials (t : Text) :
    ∃ letters : Text, (∀ c ∈ letters, c.isAlpha = true) ∧
      (takeInitials t).1 = letters.flatMap fun c => [c, '.'] := by
  fun_induction takeInitials t with
  | case1 c rest hc taken left hr ih =>
    obtain ⟨letters, hall, ht⟩ := ih
    rw [hr] at ht
    exact ⟨c :: letters, List.forall_mem_cons.2 ⟨hc, hall⟩, by rw [List.flatMap_cons, ← ht]; rfl⟩
  | case2 => exact ⟨[], by simp, rfl⟩
  | case3 => exact ⟨[], by simp, rfl⟩

theorem prefix_takeInitials {letters : Text} (h : ∀ c ∈ letters, c.isAlpha = true) (later : Text) :
    (letters.flatMap fun c => [c, '.']) <+:
      (takeInitials ((letters.flatMap fun c => [c, '.']) ++ later)).1 := by
  induction letters with
  | nil => exact List.nil_prefix
  | cons c letters ih =>
    obtain ⟨hc, hletters⟩ := List.forall_mem_cons.1 h
    simp only [List.flatMap_cons, List.cons_append, List.nil_append, takeInitials, hc, if_true]
    exact (List.prefix_cons_inj _).2 ((List.prefix_cons_inj _).2 (ih hletters))

theorem initials?_eq_some_iff {t raw left : Text} :
    initials? t = some (raw, left) ↔ raw ++ left = t ∧ Longest IsInitials raw left := by
  obtain ⟨letters, hall, ht⟩ := exists_takeInitials t
  have hlength := length_initials letters
  rw [← ht] at hlength
  have hbest : ∀ other, IsInitials other → other <+: t →
      other.length ≤ (takeInitials t).1.length := by
    rintro other ⟨letters', -, hall', rfl⟩ ⟨later, rfl⟩
    exact (prefix_takeInitials hall' later).length_le
  have hlongest : ¬(takeInitials t).1.length < 4 →
      Longest IsInitials (takeInitials t).1 (takeInitials t).2 := by
    refine fun hn => ⟨⟨letters, by omega, hall, ht⟩, ?_⟩
    rw [append_takeInitials]
    exact hbest
  rw [initials?]
  constructor
  · intro h
    split at h
    · exact absurd h (by simp)
    · next hn =>
      obtain hr : takeInitials t = (raw, left) := Option.some.inj h
      have happend := append_takeInitials t
      rw [hr] at happend
      refine ⟨happend, ?_⟩
      simpa only [hr] using hlongest hn
  · rintro ⟨rfl, h⟩
    have hn : ¬(takeInitials (raw ++ left)).1.length < 4 := by
      have hle := hbest raw h.of_form (List.prefix_append raw left)
      obtain ⟨letters', htwo, -, rfl⟩ := h.of_form
      rw [length_initials] at hle
      omega
    rw [if_neg hn]
    obtain ⟨h₁, h₂⟩ := (hlongest hn).unique h (append_takeInitials _)
    exact congrArg some (Prod.ext h₁ h₂)

/-- A line goes on where white space comes first and then something else. -/
theorem goesOn_iff {t : Text} :
    goesOn t = true ↔
      ∃ gap c later, IsRun isBlank gap ∧ isBlank c = false ∧ t = gap ++ c :: later := by
  rw [goesOn, Bool.and_eq_true]
  constructor
  · rintro ⟨hhead, hany⟩
    have ht := List.takeWhile_append_dropWhile (p := isBlank) (l := t)
    cases hd : t.dropWhile isBlank with
    | nil =>
      obtain ⟨c, hc, hb⟩ := List.any_eq_true.1 hany
      simp [List.dropWhile_eq_nil_iff.1 hd c hc] at hb
    | cons c later =>
      have hc := List.head?_dropWhile_not isBlank t
      rw [hd] at ht hc
      refine ⟨t.takeWhile isBlank, c, later, ⟨?_, fun d => isBlank_of_mem_takeWhile⟩,
        by simpa using hc, ht.symm⟩
      cases t with
      | nil => simp at hhead
      | cons d t =>
        have hblank : isBlank d = true := by simpa using hhead
        rw [List.takeWhile_cons_of_pos hblank]
        exact List.cons_ne_nil _ _
  · rintro ⟨gap, c, later, hgap, hc, rfl⟩
    obtain ⟨d, gap, rfl⟩ := List.exists_cons_of_ne_nil hgap.ne_nil
    exact ⟨by simpa using hgap.all d List.mem_cons_self, List.any_eq_true.2 ⟨c, by simp, by simp [hc]⟩⟩

theorem abbreviation?_eq_some_iff {t raw left : Text} :
    abbreviation? t = some (raw, left) ↔
      raw ++ left = t ∧ RawRule.abbreviation.Takes raw left := by
  have hdistinct : ∀ a ∈ abbreviations.map (· ++ ['.']), ∀ b ∈ abbreviations.map (· ++ ['.']),
      a <+: b → a = b := by
    decide +kernel
  have hmarks : (abbreviations.findSome? fun a => takeExactly? (a ++ ['.']) t) =
      (abbreviations.map (· ++ ['.'])).findSome? fun m => takeExactly? m t := by
    rw [List.findSome?_map]
    rfl
  rw [abbreviation?, Option.filter_eq_some_iff, hmarks,
    findSome?_takeExactly?_eq_some_iff hdistinct, goesOn_iff, and_assoc, List.mem_map]
  simp only [RawRule.Takes, eq_comm]

theorem mark?_eq_some_iff {t raw left : Text} :
    mark? t = some (raw, left) ↔ raw ++ left = t ∧ RawRule.mark.Takes raw left :=
  findSome?_takeExactly?_eq_some_iff (by decide)

namespace RawRule

/-- A rule reads what it takes by its form, and nothing else. -/
theorem read?_eq_some_iff (rule : RawRule) {t raw left : Text} :
    rule.read? t = some (raw, left) ↔ raw ++ left = t ∧ rule.Takes raw left := by
  cases rule with
  | ellipsis => exact takeExactly?_eq_some_iff
  | initials => exact initials?_eq_some_iff
  | abbreviation => exact abbreviation?_eq_some_iff
  | number => exact takeJoined_eq_some_iff
  | word => exact takeJoined_eq_some_iff
  | mark => exact mark?_eq_some_iff
  | sign =>
    cases t with
    | nil =>
      refine ⟨fun h => absurd h (by simp [read?]), ?_⟩
      rintro ⟨h, c, -, -, rfl⟩
      exact absurd h (by simp)
    | cons c rest =>
      simp only [read?, Takes]
      constructor
      · intro h
        split at h
        · next hc =>
          obtain ⟨rfl, rfl⟩ := Prod.mk.inj (Option.some.inj h)
          exact ⟨rfl, c, by simpa using hc⟩
        · exact absurd h (by simp)
      · rintro ⟨h, d, hb, hw, rfl⟩
        obtain ⟨rfl, rfl⟩ := List.cons.inj h
        simp [hb, hw]

/-- The first of some rules that reads anything reads what the first one takes. -/
theorem findSome?_read?_eq_some_iff (rules : List RawRule) {t raw left : Text} :
    (rules.findSome? fun rule => rule.read? t) = some (raw, left) ↔
      raw ++ left = t ∧ FirstTakes rules raw left := by
  induction rules with
  | nil => simp [FirstTakes]
  | cons rule later ih =>
    rw [List.findSome?_cons, FirstTakes]
    cases hr : rule.read? t with
    | some r =>
      obtain ⟨ht, hrule⟩ := rule.read?_eq_some_iff.1 (show rule.read? t = some (r.1, r.2) from hr)
      constructor
      · intro h
        obtain rfl := Option.some.inj h
        exact ⟨ht, .inl hrule⟩
      · rintro ⟨rfl, htakes | ⟨hnone, -⟩⟩
        · exact hr.symm.trans (rule.read?_eq_some_iff.2 ⟨rfl, htakes⟩)
        · exact absurd hrule (hnone _ _ ht)
    | none =>
      have hnone : ∀ raw' left', raw' ++ left' = t → ¬rule.Takes raw' left' := by
        intro raw' left' ht htakes
        have hsome := rule.read?_eq_some_iff.2 ⟨ht, htakes⟩
        exact absurd (hr.symm.trans hsome) (by simp)
      rw [ih]
      constructor
      · rintro ⟨rfl, hlater⟩
        exact ⟨rfl, .inr ⟨hnone, hlater⟩⟩
      · rintro ⟨rfl, htakes | ⟨-, hlater⟩⟩
        · exact absurd htakes (hnone _ _ rfl)
        · exact ⟨rfl, hlater⟩

end RawRule

/-- The rule for single characters is the one that is left where no other one takes anything. -/
theorem findSome?_order {c : Char} {rest : Text} (hc : isBlank c = false) :
    (RawRule.order.findSome? fun rule => rule.read? (c :: rest)) = some (first c rest) := by
  have hrules : rules = RawRule.order.dropLast.map RawRule.read? := rfl
  have horder : RawRule.order = RawRule.order.dropLast ++ [.sign] := rfl
  have hfirst : (RawRule.order.dropLast.findSome? fun rule => rule.read? (c :: rest)) =
      rules.findSome? fun rule => rule (c :: rest) := by
    rw [hrules, List.findSome?_map]
    rfl
  rw [horder, List.findSome?_append, hfirst, first]
  cases hr : rules.findSome? fun rule => rule (c :: rest) with
  | some r => rfl
  | none =>
    have hword : word? (c :: rest) = none := List.findSome?_eq_none_iff.1 hr word? (by simp [rules])
    have hw : isWordChar c = false := by
      rw [← Bool.not_eq_true]
      intro hw
      simp [word?, hw] at hword
    simp [RawRule.read?, hc, hw]

/-- The raw token at the beginning of a text is what the first rule takes. -/
theorem first_eq_iff {c : Char} {rest raw left : Text} (hc : isBlank c = false) :
    first c rest = (raw, left) ↔
      raw ++ left = c :: rest ∧ RawRule.FirstTakes RawRule.order raw left := by
  rw [← RawRule.findSome?_read?_eq_some_iff, findSome?_order hc, Option.some.injEq]

end Lexeme

end SentenceReader

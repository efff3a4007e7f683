import Mathlib.Data.List.TakeWhile
import SentenceReader.Proofs.Token.Words

/-! Lexemes of two texts with white space between them. All rules but one take the same of the first
text, whatever the second one is. The rule for abbreviations looks beyond the white space: an
abbreviation at the end of the first text is a lexeme with its full stop if more follows, and two
lexemes if nothing does. -/
namespace SentenceReader

namespace Lexeme

/-- What was taken of a text, and what is left of it, with more text behind. -/
def extend {α : Type} (tail : Text) (r : α × Text) : α × Text := (r.1, r.2 ++ tail)

@[simp] theorem extend_mk {α : Type} (tail : Text) (taken : α) (left : Text) :
    extend tail (taken, left) = (taken, left ++ tail) := rfl

/-- A rule leaves what is put behind a text alone: it takes the same in front of it. -/
def Leaves (tail : Text) (rule : Text → Option (Text × Text)) : Prop :=
  ∀ t, rule (t ++ tail) = (rule t).map (extend tail)

/-- The first rule of some that leave what is put behind a text alone leaves it alone. -/
theorem findSome?_append {ι : Type} {t tail : Text} {items : List ι}
    {rule : ι → Text → Option (Text × Text)}
    (h : ∀ i ∈ items, rule i (t ++ tail) = (rule i t).map (extend tail)) :
    (items.findSome? fun i => rule i (t ++ tail)) =
      (items.findSome? fun i => rule i t).map (extend tail) := by
  induction items with
  | nil => rfl
  | cons i items ih =>
    obtain ⟨hi, hitems⟩ := List.forall_mem_cons.1 h
    simp only [List.findSome?_cons, hi]
    cases rule i t with
    | none => exact ih hitems
    | some r => rfl

theorem eq_false_of_isBlank {p : Char → Bool} (hp : ∀ c, p c = true → isSolid c = true) {d : Char}
    (hd : isBlank d = true) : p d = false := by
  rw [← Bool.not_eq_true]
  intro h
  have hs := hp d h
  rw [isSolid, hd] at hs
  exact Bool.noConfusion hs

theorem head?_any_append {p : Char → Bool} {d : Char} (hp : p d = false) (t later : Text) :
    (t ++ d :: later).head?.any p = t.head?.any p := by
  cases t with
  | nil => simp [hp]
  | cons c t => rfl

theorem takeJoined_append {p q : Char → Bool} {d : Char} (hp : p d = false) (hq : q d = false)
    (t later : Text) :
    takeJoined p q (t ++ d :: later) = extend (d :: later) (takeJoined p q t) := by
  induction t with
  | nil => simp [takeJoined, hp, hq]
  | cons c rest ih =>
    -- A character that is outside of the class joins nothing to what stands in front of it.
    have hnext := head?_any_append hp rest later
    simp only [List.cons_append, takeJoined, hnext, ih]
    split <;> rfl

/-- A word of the class is taken up to a character that is outside of it. -/
theorem takeJoined_of_all {p q : Char → Bool} {d : Char} (hp : p d = false) (hq : q d = false)
    {w : Text} (hw : ∀ c ∈ w, p c = true) (later : Text) :
    takeJoined p q (w ++ d :: later) = (w, d :: later) := by
  induction w with
  | nil => simp [takeJoined, hp, hq]
  | cons c w ih =>
    obtain ⟨hc, hw⟩ := List.forall_mem_cons.1 hw
    simp [takeJoined, hc, ih hw]

theorem isSolid_of_mem {marks : List Char} (h : marks.all isSolid = true) (c : Char)
    (hc : decide (c ∈ marks) = true) : isSolid c = true :=
  List.all_eq_true.1 h c (of_decide_eq_true hc)

section Blank

variable {d : Char} (hd : isBlank d = true) (later : Text)
include hd

theorem dropStart?_append {mark : Text} (hm : ∀ a ∈ mark, isBlank a = false) (t : Text) :
    Text.dropStart? mark (t ++ d :: later) = (Text.dropStart? mark t).map (· ++ d :: later) := by
  induction mark generalizing t with
  | nil => rfl
  | cons a mark ih =>
    obtain ⟨ha, hmark⟩ := List.forall_mem_cons.1 hm
    cases t with
    | nil =>
      have had : a ≠ d := by
        rintro rfl
        exact Bool.noConfusion (ha.symm.trans hd)
      simp [Text.dropStart?, had]
    | cons c t =>
      simp only [List.cons_append, Text.dropStart?, ih hmark t]
      split <;> rfl

theorem leaves_takeExactly? {mark : Text} (hm : mark.all isSolid = true) :
    Leaves (d :: later) (takeExactly? mark) := by
  have hblank := (Text.solid_of_all hm).isBlank_eq_false
  intro t
  rw [takeExactly?, dropStart?_append hd later hblank, takeExactly?]
  cases Text.dropStart? mark t <;> rfl

theorem takeInitials_append (t : Text) :
    takeInitials (t ++ d :: later) = extend (d :: later) (takeInitials t) := by
  have halpha : d.isAlpha = false := eq_false_of_isBlank (fun _ => isSolid_of_isAlpha) hd
  have hdot : d ≠ '.' := by
    rintro rfl
    exact absurd hd (by decide)
  fun_induction takeInitials t with
  | case1 c rest hc taken left hr ih => simp_all [takeInitials]
  | case2 c rest hc => simp [takeInitials, hc]
  | case3 t hn =>
    cases t with
    | nil =>
      rw [List.nil_append, takeInitials.eq_def]
      split
      · next c rest heq =>
        rw [List.cons.injEq] at heq
        obtain ⟨rfl, rfl⟩ := heq
        simp [halpha]
      · rfl
    | cons c t =>
      cases t with
      | nil => simp [takeInitials, hdot]
      | cons e t =>
        have he : e ≠ '.' := fun he => hn c t (he ▸ rfl)
        simp [takeInitials, he]

theorem goesOn_append (t : Text) :
    goesOn (t ++ d :: later) =
      (goesOn t || (t.all isBlank && (d :: later).any (!isBlank ·))) := by
  cases t with
  | nil => simp [goesOn, hd]
  | cons c t =>
    cases hc : isBlank c with
    | false => simp [goesOn, hc]
    | true =>
      have hany : t.any (!isBlank ·) = !t.all isBlank := List.not_all_eq_any_not.symm
      simp only [goesOn, List.cons_append, List.head?_cons, Option.any_some, List.any_cons,
        List.any_append, List.all_cons, hc, hd, hany]
      cases t.all isBlank <;> simp

/-- Whether a text is an abbreviation with its full stop, and nothing but white space behind. -/
def IsAbbreviated (t : Text) : Prop :=
  ∃ a ∈ abbreviations, ∃ gap, t = a ++ '.' :: gap ∧ ∀ c ∈ gap, isBlank c = true

theorem leaves_ellipsis? : Leaves (d :: later) ellipsis? :=
  leaves_takeExactly? hd later (by decide)

theorem leaves_initials? : Leaves (d :: later) initials? := by
  intro t
  by_cases hl : (takeInitials t).1.length < 4 <;>
    simp [initials?, takeInitials_append hd, extend, hl]

theorem leaves_number? : Leaves (d :: later) number? := by
  intro t
  have hp : isDigitChar d = false := eq_false_of_isBlank (fun _ => isSolid_of_isDigitChar) hd
  have hq : decide (d ∈ ['.', ',', ':']) = false := eq_false_of_isBlank (isSolid_of_mem (by decide)) hd
  rw [number?, head?_any_append hp, takeJoined_append hp hq, number?]
  split <;> rfl

theorem leaves_word? : Leaves (d :: later) word? := by
  intro t
  have hp : isWordChar d = false := eq_false_of_isBlank (fun _ => isSolid_of_isWordChar) hd
  have hq : decide (d ∈ ['-', '\'', '’']) = false := eq_false_of_isBlank (isSolid_of_mem (by decide)) hd
  rw [word?, head?_any_append hp, takeJoined_append hp hq, word?]
  split <;> rfl

theorem leaves_mark? : Leaves (d :: later) mark? := by
  have hmarks : ∀ m ∈ [['\'', '\''], ['\x60', '\x60'], ['-', '-']], m.all isSolid = true := by
    decide
  intro t
  exact findSome?_append fun m hm => leaves_takeExactly? hd later (hmarks m hm) t

/-- An abbreviation is taken with its full stop as before, unless it had nothing behind it and now has. -/
theorem abbreviation?_append {t : Text}
    (h : IsAbbreviated t → (d :: later).any (!isBlank ·) = false) :
    abbreviation? (t ++ d :: later) = (abbreviation? t).map (extend (d :: later)) := by
  have hsolid : ∀ a ∈ abbreviations, (a ++ ['.']).all isSolid = true := by decide
  have hfound := findSome?_append fun a ha => leaves_takeExactly? hd later (hsolid a ha) t
  rw [abbreviation?, hfound, abbreviation?]
  cases hr : abbreviations.findSome? fun a => takeExactly? (a ++ ['.']) t with
  | none => rfl
  | some r =>
    obtain ⟨a, ha, htaken⟩ := List.exists_of_findSome?_eq_some hr
    have hends : (r.2.all isBlank && (d :: later).any (!isBlank ·)) = false := by
      cases hblank : r.2.all isBlank with
      | false => rfl
      | true =>
        refine h ⟨a, ha, r.2, ?_, List.all_eq_true.1 hblank⟩
        rw [← append_takeExactly? htaken, fst_of_takeExactly? htaken, List.append_assoc]
        rfl
    have hgoes : goesOn (extend (d :: later) r).2 = goesOn r.2 := by
      rw [extend, goesOn_append hd, hends, Bool.or_false]
    rw [Option.map_some, Option.filter_some, Option.filter_some, hgoes]
    split <;> rfl

/-- What is put behind a text changes the first lexeme of no text but an abbreviation. -/
theorem first_append {c : Char} {rest : Text}
    (h : IsAbbreviated (c :: rest) → (d :: later).any (!isBlank ·) = false) :
    first c (rest ++ d :: later) = extend (d :: later) (first c rest) := by
  have habbreviation := abbreviation?_append hd later h
  simp only [List.cons_append] at habbreviation
  have hrules : ∀ rule ∈ rules,
      rule (c :: rest ++ d :: later) = (rule (c :: rest)).map (extend (d :: later)) := by
    simp only [rules, List.forall_mem_cons]
    exact ⟨leaves_ellipsis? hd later _, leaves_initials? hd later _, abbreviation?_append hd later h,
      leaves_number? hd later _, leaves_word? hd later _, leaves_mark? hd later _,
      List.forall_mem_nil _⟩
  have hfound := findSome?_append hrules
  rw [List.cons_append] at hfound
  rw [first, hfound, first]
  cases rules.findSome? fun rule => rule (c :: rest) <;> rfl

end Blank

section Abbreviation

variable {a : Text} (ha : a ∈ abbreviations)
include ha

/-- An abbreviation has at least two characters, all of them letters. -/
theorem spec_of_mem_abbreviations :
    (∃ c e w, a = c :: e :: w) ∧
      ∀ c ∈ a, c ≠ '.' ∧ isDigitChar c = false ∧ isWordChar c = true := by
  have hlength : ∀ w ∈ abbreviations, 2 ≤ w.length := by decide
  have hletters : ∀ w ∈ abbreviations,
      w.all (fun c => c != '.' && !isDigitChar c && isWordChar c) = true := by decide +kernel
  refine ⟨?_, fun c hc => ?_⟩
  · match a, hlength a ha with
    | c :: e :: w, _ => exact ⟨c, e, w, rfl⟩
  · have hletter := List.all_eq_true.1 (hletters a ha) c hc
    simpa [and_assoc] using hletter

/-- The word in front of a full stop is taken up to it. -/
theorem takeJoined_of_mem_abbreviations (x : Text) :
    takeJoined isWordChar (fun c => c ∈ ['-', '\'', '’']) (a ++ '.' :: x) = (a, '.' :: x) :=
  takeJoined_of_all (by decide +kernel) (by decide)
    (fun c hc => ((spec_of_mem_abbreviations ha).2 c hc).2.2) x

/-- A text begins with at most one abbreviation and its full stop. -/
theorem findSome?_abbreviations (x : Text) :
    (abbreviations.findSome? fun w => takeExactly? (w ++ ['.']) (a ++ '.' :: x)) =
      some (a ++ ['.'], x) := by
  have htake : takeExactly? (a ++ ['.']) (a ++ '.' :: x) = some (a ++ ['.'], x) := by
    have happend : a ++ '.' :: x = (a ++ ['.']) ++ x := by simp
    rw [takeExactly?, happend, Text.dropStart?_append, Option.map_some]
  have hsome : (abbreviations.findSome? fun w => takeExactly? (w ++ ['.']) (a ++ '.' :: x)).isSome := by
    rw [List.findSome?_isSome_iff]
    exact ⟨a, ha, by rw [htake]; rfl⟩
  obtain ⟨r, hr⟩ := Option.isSome_iff_exists.1 hsome
  obtain ⟨w, hw, htaken⟩ := List.exists_of_findSome?_eq_some hr
  have happend := append_takeExactly? htaken
  rw [fst_of_takeExactly? htaken, List.append_assoc, List.singleton_append] at happend
  have hwords := takeJoined_of_mem_abbreviations hw r.2
  rw [happend, takeJoined_of_mem_abbreviations ha, Prod.mk.injEq, List.cons.injEq] at hwords
  obtain rfl : a = w := hwords.1
  rw [hr, ← htaken, htake]

/-- An abbreviation and the full stop behind it are a single lexeme if the text goes on behind them, and
two lexemes if it does not. -/
theorem first_of_mem_abbreviations {c : Char} {rest x : Text} (h : c :: rest = a ++ '.' :: x) :
    first c rest = if goesOn x then (a ++ ['.'], x) else (a, '.' :: x) := by
  obtain ⟨⟨c', e, w, hw⟩, hletters⟩ := spec_of_mem_abbreviations ha
  have hhead : c' ∈ a := by simp [hw]
  have hsecond : e ∈ a := by simp [hw]
  have hstart : c :: rest = c' :: e :: (w ++ '.' :: x) := by rw [h, hw]; rfl
  have hellipsis : ellipsis? (c :: rest) = none := by
    have hdot : '.' ≠ c' := fun he => (hletters c' hhead).1 he.symm
    rw [hstart]
    simp [ellipsis?, takeExactly?, Text.dropStart?, hdot]
  have hinitials : initials? (c :: rest) = none := by
    rw [hstart]
    simp [initials?, takeInitials, (hletters e hsecond).1]
  have habbreviation : abbreviation? (c :: rest) = if goesOn x then some (a ++ ['.'], x) else none := by
    rw [h, abbreviation?, findSome?_abbreviations ha]
    rfl
  have hnumber : number? (c :: rest) = none := by
    rw [hstart]
    simp [number?, (hletters c' hhead).2.1]
  have hword : word? (c :: rest) = some (a, '.' :: x) := by
    rw [word?, if_pos, h, takeJoined_of_mem_abbreviations ha]
    rw [hstart]
    exact (hletters c' hhead).2.2
  rw [first]
  simp only [rules, List.findSome?_cons, hellipsis, hinitials, habbreviation, hnumber, hword]
  cases goesOn x <;> rfl

end Abbreviation

theorem scan_of_blank (previous : Option Char) {t : Text} (h : ∀ c ∈ t, isBlank c = true) :
    scan previous t = ([], t) := by
  rw [scan]
  split
  · rfl
  · next hd =>
    rw [List.dropWhile_eq_nil_iff.2 h] at hd
    exact absurd hd (List.cons_ne_nil _ _).symm

def push (l : Lexeme) (r : List Lexeme × Text) : List Lexeme × Text := (l :: r.1, r.2)

theorem scan_of_first (previous : Option Char) {t raw left : Text} {c : Char} {rest : Text}
    (h : t.dropWhile isBlank = c :: rest) (hf : first c rest = (raw, left)) :
    scan previous t =
      push ⟨t.takeWhile isBlank, raw, opensAfter ((t.takeWhile isBlank).getLast? <|> previous)⟩
        (scan raw.getLast? left) := by
  rw [scan]
  split
  · next hd => simp [h] at hd
  · next hd =>
    rw [h, List.cons.injEq] at hd
    obtain ⟨rfl, rfl⟩ := hd
    simp only [hf, push]

theorem fst_scan_eq_nil_iff {previous : Option Char} {t : Text} :
    (scan previous t).1 = [] ↔ t.any (!isBlank ·) = false := by
  cases hdrop : t.dropWhile isBlank with
  | nil =>
    have hblank := List.dropWhile_eq_nil_iff.1 hdrop
    simpa [scan_of_blank previous hblank] using hblank
  | cons c rest =>
    have hc : c ∈ t := (List.dropWhile_suffix isBlank).subset (by rw [hdrop]; simp)
    have hb : isBlank c = false := by
      have hhead := List.head?_dropWhile_not isBlank t
      simpa [hdrop] using hhead
    simp only [scan_of_first previous hdrop rfl, push, List.cons_ne_nil, false_iff, Bool.not_eq_false]
    exact List.any_eq_true.2 ⟨c, hc, by rw [hb]; rfl⟩

/-- A full stop with nothing but white space behind it is a lexeme. -/
theorem scan_stop (previous : Option Char) {gap : Text} (h : ∀ c ∈ gap, isBlank c = true) :
    scan previous ('.' :: gap) = ([⟨[], ['.'], opensAfter previous⟩], gap) := by
  have hdrop : ('.' :: gap).dropWhile isBlank = '.' :: gap := rfl
  have hfirst : first '.' gap = (['.'], gap) := by
    have hstop : first '.' [] = (['.'], []) := by decide +kernel
    cases gap with
    | nil => exact hstop
    | cons d later =>
      have hlater : (d :: later).any (!isBlank ·) = false := by simpa using h
      have happend : first '.' ([] ++ d :: later) = extend (d :: later) (first '.' []) :=
        first_append (h d List.mem_cons_self) later fun _ => hlater
      rwa [hstop] at happend
  rw [scan_of_first previous hdrop hfirst, scan_of_blank _ h]
  rfl

/-- Whether one lexeme is an abbreviation and the next one its full stop. -/
def abbreviates (l stop : Lexeme) : Bool :=
  abbreviations.contains l.raw && stop.gap.isEmpty && stop.raw == ['.']

/-- Lexemes in which an abbreviation at the end is one with its full stop. -/
def joinStop : List Lexeme → List Lexeme
  | [l, stop] => if abbreviates l stop then [{ l with raw := l.raw ++ stop.raw }] else [l, stop]
  | l :: later => l :: joinStop later
  | [] => []

theorem joinStop_cons {l : Lexeme} {later : List Lexeme}
    (h : ∀ stop, later = [stop] → abbreviates l stop = false) :
    joinStop (l :: later) = l :: joinStop later := by
  match later with
  | [] => rfl
  | [stop] => simp [joinStop, h stop rfl]
  | _ :: _ :: _ => rfl

/-- The lexemes of a text and those of another one that begins with white space, if they are put
together. -/
def follow (r s : List Lexeme × Text) : List Lexeme × Text :=
  match s.1 with
  | [] => (r.1, r.2 ++ s.2)
  | l :: later => (joinStop r.1 ++ { l with gap := r.2 ++ l.gap } :: later, s.2)

/-- An abbreviation that is a lexeme of its own in front of the last one is at the end of its text. -/
theorem isAbbreviated_of_abbreviates {t left : Text} {previous : Option Char} {l stop : Lexeme}
    (ht : t = l.raw ++ left) (hstop : (scan previous left).1 = [stop])
    (h : abbreviates l stop = true) : IsAbbreviated t := by
  simp only [abbreviates, Bool.and_eq_true, List.isEmpty_iff, beq_iff_eq,
    List.contains_iff_mem] at h
  obtain ⟨⟨ha, hgap⟩, hraw⟩ := h
  obtain ⟨-, hblank, hleft⟩ := scan_spec previous left
  rw [hstop, List.flatMap_singleton, hgap, hraw] at hleft
  refine ⟨l.raw, ha, _, ?_, hblank⟩
  rw [ht]
  exact congrArg (l.raw ++ ·) hleft.symm

theorem follow_push {l : Lexeme} {r s : List Lexeme × Text}
    (h : s.1 ≠ [] → ∀ stop, r.1 = [stop] → abbreviates l stop = false) :
    follow (push l r) s = push l (follow r s) := by
  obtain ⟨lexemes, left⟩ := s
  cases lexemes with
  | nil => rfl
  | cons first later =>
    have hjoin := joinStop_cons (h (List.cons_ne_nil first later))
    simp [follow, push, hjoin]

theorem follow_push_stop {l stop : Lexeme} {gap : Text} {s : List Lexeme × Text} (h : s.1 ≠ [])
    (hl : abbreviates l stop = true) :
    follow (push l ([stop], gap)) s =
      push { l with raw := l.raw ++ stop.raw } (follow ([], gap) s) := by
  obtain ⟨lexemes, left⟩ := s
  cases lexemes with
  | nil => exact absurd rfl h
  | cons first later => simp [follow, push, joinStop, hl]

section Blank

variable {d : Char} (hd : isBlank d = true) (later : Text)
include hd

theorem scan_blank_append (previous : Option Char) {gap : Text} (h : ∀ c ∈ gap, isBlank c = true) :
    scan previous (gap ++ d :: later) = follow ([], gap) (scan none (d :: later)) := by
  cases hdrop : (d :: later).dropWhile isBlank with
  | nil =>
    have hblank := List.dropWhile_eq_nil_iff.1 hdrop
    rw [scan_of_blank previous (List.forall_mem_append.2 ⟨h, hblank⟩), scan_of_blank none hblank]
    rfl
  | cons c rest =>
    have hdropped : (gap ++ d :: later).dropWhile isBlank = c :: rest := by
      rw [List.dropWhile_append_of_pos h, hdrop]
    have htaken : (gap ++ d :: later).takeWhile isBlank = gap ++ (d :: later).takeWhile isBlank :=
      List.takeWhile_append_of_pos h
    -- The white space is not empty, so it does not matter what stands in front of it.
    obtain ⟨last, hlast⟩ : ∃ last, ((d :: later).takeWhile isBlank).getLast? = some last := by
      rw [List.takeWhile_cons_of_pos hd]
      exact ⟨_, List.getLast?_cons⟩
    rw [scan_of_first previous hdropped rfl, scan_of_first none hdrop rfl, htaken]
    simp [follow, push, joinStop, hlast]

/-- An abbreviation at the end of a text is a lexeme with its full stop if more is put behind. -/
theorem scan_append_of_abbreviated (previous : Option Char) {t rest : Text} {c : Char}
    (hdrop : t.dropWhile isBlank = c :: rest)
    (hdrop' : (t ++ d :: later).dropWhile isBlank = c :: (rest ++ d :: later))
    (htake : (t ++ d :: later).takeWhile isBlank = t.takeWhile isBlank)
    (h : IsAbbreviated (c :: rest)) (hany : (d :: later).any (!isBlank ·) = true) :
    scan previous (t ++ d :: later) = follow (scan previous t) (scan none (d :: later)) := by
  obtain ⟨a, ha, gap, heq, hgap⟩ := h
  have hfirst : first c rest = (a, '.' :: gap) := by
    have hgoes : goesOn gap = false := by
      rw [goesOn, List.any_eq_false.2 (by simpa using hgap), Bool.and_false]
    rw [first_of_mem_abbreviations ha heq, hgoes]
    rfl
  have hjoined : first c (rest ++ d :: later) = (a ++ ['.'], gap ++ d :: later) := by
    have hgoes : goesOn (gap ++ d :: later) = true := by
      rw [goesOn_append hd, hany, List.all_eq_true.2 hgap, Bool.and_true, Bool.or_true]
    have happend : c :: (rest ++ d :: later) = a ++ '.' :: (gap ++ d :: later) := by
      rw [← List.cons_append, heq, List.append_assoc, List.cons_append]
    rw [first_of_mem_abbreviations ha happend, hgoes, if_pos rfl]
  have hne : (scan none (d :: later)).1 ≠ [] := by
    rw [Ne, fst_scan_eq_nil_iff, hany]
    exact Bool.noConfusion
  rw [scan_of_first previous hdrop hfirst, scan_stop _ hgap, follow_push_stop hne,
    scan_of_first previous hdrop' hjoined, htake, List.getLast?_concat, scan_blank_append hd later _ hgap]
  simp [abbreviates, ha]

/-- The lexemes of two texts with white space between them are those of the first and those of the
second, except that an abbreviation at the end of the first is one with its full stop if more follows. -/
theorem scan_append (previous : Option Char) (t : Text) :
    scan previous (t ++ d :: later) = follow (scan previous t) (scan none (d :: later)) := by
  fun_induction scan previous t with
  | case1 previous t h =>
    exact scan_blank_append hd later previous (List.dropWhile_eq_nil_iff.1 h)
  | case2 previous t c rest h gap found tail ih =>
    have hdrop : (t ++ d :: later).dropWhile isBlank = c :: (rest ++ d :: later) := by
      rw [List.dropWhile_append, h]
      rfl
    -- The white space in front of the first lexeme ends within the first text.
    have htake : (t ++ d :: later).takeWhile isBlank = t.takeWhile isBlank := by
      rw [List.takeWhile_append, if_neg]
      intro hl
      have happend := List.takeWhile_append_dropWhile (p := isBlank) (l := t)
      rw [h] at happend
      have hlength := congrArg List.length happend
      rw [List.length_append, hl, List.length_cons] at hlength
      omega
    have hscan : scan previous t = push ⟨gap, found.1, opensAfter (gap.getLast? <|> previous)⟩ tail :=
      scan_of_first previous h rfl
    by_cases hends : IsAbbreviated (c :: rest) ∧ (d :: later).any (!isBlank ·) = true
    · have happend := scan_append_of_abbreviated hd later previous h hdrop htake hends.1 hends.2
      rwa [hscan] at happend
    · -- Then the first lexeme is the same, and what is behind it is by induction.
      have hends' : IsAbbreviated (c :: rest) → (d :: later).any (!isBlank ·) = false := by
        intro h
        rw [← Bool.not_eq_true]
        exact fun hany => hends ⟨h, hany⟩
      rw [scan_of_first previous hdrop (first_append hd later hends'), htake]
      change push _ (scan found.1.getLast? (found.2 ++ d :: later)) = follow (push _ tail) _
      rw [ih, follow_push]
      intro hne stop hstop
      rw [← Bool.not_eq_true]
      intro habbreviates
      have hends := isAbbreviated_of_abbreviates (append_first c rest).symm hstop habbreviates
      exact hne (fst_scan_eq_nil_iff.2 (hends' hends))

end Blank

end Lexeme

end SentenceReader

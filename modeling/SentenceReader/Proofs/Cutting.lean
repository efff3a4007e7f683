/-! Lists cut into pieces, in front of some elements or behind some. The pieces are never empty, and
together they are the list. -/
namespace SentenceReader

namespace Cutting

variable {α : Type}

/-- What is left of a piece that is open, and the pieces behind it. A rule picks the elements in
front of which there is a cut: it looks at what stands in front of an element, the nearest first,
and at the element. -/
def rest (cut : List α → α → Bool) : List α → List α → List α × List (List α)
  | _, [] => ([], [])
  | seen, a :: later =>
    let found := rest cut (a :: seen) later
    if cut seen a then ([], (a :: found.1) :: found.2) else (a :: found.1, found.2)

/-- A list cut in front of every element that a rule picks. -/
def before (cut : List α → α → Bool) : List α → List (List α)
  | [] => []
  | a :: later =>
    let found := rest cut [a] later
    (a :: found.1) :: found.2

/-- Some elements as the front of the first piece. -/
def glue (front : List α) : List (List α) → List (List α)
  | [] => [front]
  | piece :: pieces => (front ++ piece) :: pieces

/-- A list cut behind every element of a class; what is left behind the last one is a piece. -/
def behind (last : α → Bool) : List α → List (List α)
  | [] => []
  | a :: later => if last a then [a] :: behind last later else glue [a] (behind last later)

@[simp] theorem glue_glue (xs ys : List α) (pieces : List (List α)) :
    glue xs (glue ys pieces) = glue (xs ++ ys) pieces := by
  cases pieces <;> simp [glue]

@[simp] theorem glue_ne_nil (xs : List α) (pieces : List (List α)) : glue xs pieces ≠ [] := by
  cases pieces <;> simp [glue]

theorem glue_nil {pieces : List (List α)} (h : pieces ≠ []) : glue [] pieces = pieces := by
  cases pieces with
  | nil => exact absurd rfl h
  | cons piece pieces => simp [glue]

@[simp] theorem flatten_glue (xs : List α) (pieces : List (List α)) :
    (glue xs pieces).flatten = xs ++ pieces.flatten := by
  cases pieces <;> simp [glue]

theorem map_filter_glue (p : α → Bool) (xs : List α) (pieces : List (List α)) :
    (glue xs pieces).map (List.filter p) = glue (xs.filter p) (pieces.map (List.filter p)) := by
  cases pieces <;> simp [glue]

theorem flatten_rest (cut : List α → α → Bool) (seen xs : List α) :
    (rest cut seen xs).1 ++ (rest cut seen xs).2.flatten = xs := by
  induction xs generalizing seen with
  | nil => rfl
  | cons a later ih =>
    have h := ih (a :: seen)
    by_cases hc : cut seen a <;> simp [rest, hc, h]

theorem ne_nil_of_mem_rest {cut : List α → α → Bool} {seen xs piece : List α}
    (h : piece ∈ (rest cut seen xs).2) : piece ≠ [] := by
  induction xs generalizing seen with
  | nil => simp [rest] at h
  | cons a later ih =>
    by_cases hc : cut seen a
    · simp only [rest, hc, if_true, List.mem_cons] at h
      rcases h with rfl | h
      · simp
      · exact ih h
    · simp only [rest, hc, Bool.false_eq_true, if_false] at h
      exact ih h

@[simp] theorem flatten_before (cut : List α → α → Bool) (xs : List α) :
    (before cut xs).flatten = xs := by
  cases xs with
  | nil => rfl
  | cons a later => simp [before, flatten_rest]

theorem ne_nil_of_mem_before {cut : List α → α → Bool} {xs piece : List α}
    (h : piece ∈ before cut xs) : piece ≠ [] := by
  cases xs with
  | nil => simp [before] at h
  | cons a later =>
    simp only [before, List.mem_cons] at h
    rcases h with rfl | h
    · simp
    · exact ne_nil_of_mem_rest h

theorem behind_cons (last : α → Bool) (a : α) (later : List α) :
    behind last (a :: later) =
      if last a then [a] :: behind last later else glue [a] (behind last later) := rfl

@[simp] theorem flatten_behind (last : α → Bool) (xs : List α) :
    (behind last xs).flatten = xs := by
  induction xs with
  | nil => rfl
  | cons a later ih => by_cases h : last a <;> simp [behind, h, ih]

theorem ne_nil_of_mem_behind {last : α → Bool} {xs piece : List α}
    (h : piece ∈ behind last xs) : piece ≠ [] := by
  induction xs generalizing piece with
  | nil => simp [behind] at h
  | cons a later ih =>
    by_cases ha : last a
    · simp only [behind, ha, if_true, List.mem_cons] at h
      rcases h with rfl | h
      · simp
      · exact ih h
    · simp only [behind, ha, Bool.false_eq_true, if_false] at h
      cases hb : behind last later with
      | nil =>
        simp only [hb, glue, List.mem_singleton] at h
        simp [h]
      | cons p ps =>
        simp only [hb, glue, List.mem_cons] at h
        rcases h with rfl | h
        · simp
        · exact ih (by simp [hb, h])

@[simp] theorem behind_eq_nil_iff {last : α → Bool} {xs : List α} :
    behind last xs = [] ↔ xs = [] := by
  cases xs with
  | nil => simp [behind]
  | cons a later => by_cases h : last a <;> simp [behind, h]

/-- There is no cut in a list, behind what stands in front of it. -/
def Uncut (cut : List α → α → Bool) (seen xs : List α) : Prop := (rest cut seen xs).2 = []

theorem uncut_cons {cut : List α → α → Bool} {seen : List α} {a : α} {later : List α} :
    Uncut cut seen (a :: later) ↔ cut seen a = false ∧ Uncut cut (a :: seen) later := by
  by_cases hc : cut seen a <;> simp [Uncut, rest, hc]

theorem uncut_rest (cut : List α → α → Bool) (seen xs : List α) :
    Uncut cut seen (rest cut seen xs).1 := by
  induction xs generalizing seen with
  | nil => rfl
  | cons a later ih =>
    by_cases hc : cut seen a
    · simp [rest, hc, Uncut]
    · simp only [rest, hc, Bool.false_eq_true, if_false]
      exact uncut_cons.2 ⟨by simpa using hc, ih (a :: seen)⟩

/-- Every piece behind a cut begins with the element that was picked, and there is no cut in it. -/
theorem exists_of_mem_rest {cut : List α → α → Bool} {seen xs piece : List α}
    (h : piece ∈ (rest cut seen xs).2) :
    ∃ front a later, piece = a :: later ∧ cut front a = true ∧ Uncut cut (a :: front) later := by
  induction xs generalizing seen with
  | nil => simp [rest] at h
  | cons a later ih =>
    by_cases hc : cut seen a
    · simp only [rest, hc, if_true, List.mem_cons] at h
      rcases h with rfl | h
      · exact ⟨seen, a, _, rfl, hc, uncut_rest cut (a :: seen) later⟩
      · exact ih h
    · simp only [rest, hc, Bool.false_eq_true, if_false] at h
      exact ih h

/-- Where there is no cut, all goes to the piece that is open. -/
theorem rest_append {cut : List α → α → Bool} {seen xs : List α} (h : Uncut cut seen xs)
    (ys : List α) :
    rest cut seen (xs ++ ys) =
      (xs ++ (rest cut (xs.reverse ++ seen) ys).1, (rest cut (xs.reverse ++ seen) ys).2) := by
  induction xs generalizing seen with
  | nil => rfl
  | cons a later ih =>
    obtain ⟨hc, hl⟩ := uncut_cons.1 h
    simp only [List.cons_append, rest, hc, Bool.false_eq_true, if_false, ih hl, List.reverse_cons,
      List.append_assoc, List.nil_append]

/-- A cut in front of an element leaves the pieces in front of it as they are. -/
theorem rest_append_cons {cut : List α → α → Bool} {seen xs : List α} {a : α}
    (h : cut (xs.reverse ++ seen) a = true) (ys : List α) :
    ∃ pieces, pieces.flatten = a :: ys ∧ pieces ≠ [] ∧
      rest cut seen (xs ++ a :: ys) = ((rest cut seen xs).1, (rest cut seen xs).2 ++ pieces) := by
  induction xs generalizing seen with
  | nil =>
    refine ⟨_, ?_, List.cons_ne_nil (a :: (rest cut (a :: seen) ys).1) (rest cut (a :: seen) ys).2, ?_⟩
    · rw [List.flatten_cons, List.cons_append, flatten_rest]
    · simp only [List.nil_append, List.reverse_nil] at h ⊢
      simp only [rest, h, if_true, List.nil_append]
  | cons x xs ih =>
    rw [List.reverse_cons, List.append_assoc, List.singleton_append] at h
    obtain ⟨pieces, hflat, hne, hrest⟩ := ih h
    refine ⟨pieces, hflat, hne, ?_⟩
    simp only [List.cons_append, rest, hrest]
    split <;> rfl

theorem before_append_cons {cut : List α → α → Bool} {xs : List α} {a : α} (hx : xs ≠ [])
    (h : cut xs.reverse a = true) (ys : List α) :
    ∃ pieces, pieces.flatten = a :: ys ∧ pieces ≠ [] ∧
      before cut (xs ++ a :: ys) = before cut xs ++ pieces := by
  cases xs with
  | nil => exact absurd rfl hx
  | cons x xs =>
    rw [List.reverse_cons] at h
    obtain ⟨pieces, hflat, hne, hrest⟩ := rest_append_cons h ys
    refine ⟨pieces, hflat, hne, ?_⟩
    rw [List.cons_append, before, hrest, before, List.cons_append]

/-- Where there is no cut in front of a list, its first piece is one that is open from the start. -/
theorem before_eq_rest {cut : List α → α → Bool} (h : ∀ a, cut [] a = false) {xs : List α}
    (hx : xs ≠ []) : before cut xs = (rest cut [] xs).1 :: (rest cut [] xs).2 := by
  cases xs with
  | nil => exact absurd rfl hx
  | cons a later => simp only [before, rest, h, Bool.false_eq_true, if_false]

theorem behind_append_cons {last : α → Bool} {xs : List α} (h : ∀ x ∈ xs, last x = false) {a : α}
    (ha : last a = true) (later : List α) :
    behind last (xs ++ a :: later) = (xs ++ [a]) :: behind last later := by
  induction xs with
  | nil => simp [behind, ha]
  | cons x xs ih =>
    obtain ⟨hx, hxs⟩ := List.forall_mem_cons.1 h
    simp [behind, hx, ih hxs, glue]

/-- A list without an element of the class is a single piece. -/
theorem behind_eq_singleton {last : α → Bool} {xs : List α} (h : ∀ x ∈ xs, last x = false)
    (hx : xs ≠ []) : behind last xs = [xs] := by
  induction xs with
  | nil => exact absurd rfl hx
  | cons a later ih =>
    obtain ⟨ha, hlater⟩ := List.forall_mem_cons.1 h
    rw [behind_cons, if_neg (ne_true_of_eq_false ha)]
    cases later with
    | nil => rfl
    | cons b later => rw [ih hlater (List.cons_ne_nil b later), glue, List.singleton_append]

/-- A list whose elements are replaced, and stay in the class or outside of it, has its pieces
replaced element by element. -/
theorem behind_map {β : Type} {last : β → Bool} {last' : α → Bool} {f : α → β} {xs : List α}
    (h : ∀ x ∈ xs, last (f x) = last' x) :
    behind last (xs.map f) = (behind last' xs).map (List.map f) := by
  induction xs with
  | nil => rfl
  | cons a later ih =>
    obtain ⟨ha, hlater⟩ := List.forall_mem_cons.1 h
    rw [List.map_cons, behind_cons, behind_cons, ha, ih hlater]
    split
    · rfl
    · cases behind last' later <;> rfl

theorem glue_append (xs : List α) {pieces : List (List α)} (h : pieces ≠ [])
    (more : List (List α)) : glue xs (pieces ++ more) = glue xs pieces ++ more := by
  cases pieces with
  | nil => exact absurd rfl h
  | cons piece pieces => rfl

/-- Behind an element of the class there is a cut, so what is put there changes no piece in front. -/
theorem behind_append {last : α → Bool} {xs : List α} (h : ∀ a ∈ xs.getLast?, last a = true)
    (ys : List α) : behind last (xs ++ ys) = behind last xs ++ behind last ys := by
  induction xs with
  | nil => rfl
  | cons a later ih =>
    cases later with
    | nil =>
      have ha : last a = true := h a rfl
      simp [behind, ha]
    | cons b later =>
      rw [List.getLast?_cons_cons] at h
      rw [List.cons_append, behind_cons, behind_cons, ih h]
      split
      · rfl
      · rw [glue_append]
        simp

/-- Pieces that are put together with an element of the class behind each are cut apart again. -/
theorem behind_flatMap {last : α → Bool} {a : α} (ha : last a = true) {pieces : List (List α)}
    (h : ∀ piece ∈ pieces, ∀ x ∈ piece, last x = false) :
    behind last (pieces.flatMap (· ++ [a])) = pieces.map (· ++ [a]) := by
  induction pieces with
  | nil => rfl
  | cons piece pieces ih =>
    obtain ⟨hp, hps⟩ := List.forall_mem_cons.1 h
    rw [List.flatMap_cons, List.append_assoc, List.singleton_append, behind_append_cons hp ha,
      ih hps, List.map_cons]

example : before (fun seen _ => seen.head? == some 0) [1, 0, 2, 0, 0] = [[1, 0], [2, 0], [0]] := by
  decide
example : behind (· == 0) [1, 0, 2, 0, 0, 3] = [[1, 0], [2, 0], [0], [3]] := by decide

end Cutting

end SentenceReader

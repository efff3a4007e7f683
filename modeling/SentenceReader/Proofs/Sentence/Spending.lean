import SentenceReader.Proofs.Sentence.Collecting

/-! What sentences are made of. Every sentence uses up tokens that no other one does: the one that was
carried over to it, and those that are taken for it, whether they are part of it or not. -/
namespace SentenceReader

/-- The tokens that are taken for a sentence are the next ones. Those that are content are part of it,
and at least one is taken where there is one and no delimiter was met before. -/
theorem SentenceRules.taken_of_gather {r : SentenceRules} {source source' : TokenSource}
    {ts taken : List Token} {ended : Bool} {sentence : Sentence} {carried : Option Token}
    (h : source.Gives ts)
    (hg : r.gather source taken ended = (.ok (sentence, carried), source')) :
    ∃ used later, source'.Gives later ∧
      ts.map r.mark = used ++ (carried.toList ++ later.map r.mark) ∧
      sentence = taken.reverse ++ used.filter r.isContent ∧
      (ended = false → ts ≠ [] → used ≠ []) := by
  induction ts generalizing source taken ended with
  | nil =>
    rw [TokenSource.gives_nil_iff] at h
    have hn : source.next? = (.ok none, source.next?.2) := Prod.ext h rfl
    rw [gather_of_none taken ended hn] at hg
    simp only [Prod.mk.injEq, Except.ok.injEq] at hg
    obtain ⟨⟨rfl, rfl⟩, rfl⟩ := hg
    exact ⟨[], [], TokenSource.gives_nil_of_next? hn, rfl, by simp, by simp⟩
  | cons t ts ih =>
    rw [TokenSource.gives_cons_iff] at h
    obtain ⟨hn, ht⟩ := h
    rw [gather_of_some taken ended (Prod.ext hn rfl)] at hg
    have hrev : (if r.isContent (r.mark t) then r.mark t :: taken else taken).reverse =
        taken.reverse ++ [r.mark t].filter r.isContent := by
      by_cases hc : r.isContent (r.mark t) = true <;> simp [hc]
    split at hg
    · next hc =>
      -- A delimiter was met, and this token is carried over to the next sentence.
      simp only [Prod.mk.injEq, Except.ok.injEq] at hg
      obtain ⟨⟨rfl, rfl⟩, rfl⟩ := hg
      refine ⟨[], ts, ht, rfl, by simp, ?_⟩
      rintro rfl
      simp at hc
    · dsimp only at hg
      generalize (if r.isContent (r.mark t) then r.mark t :: taken else taken) = taken' at hg hrev
      have goes {ended' : Bool}
          (hg : r.gather source.next?.2 taken' ended' = (.ok (sentence, carried), source')) :
          ∃ used later, source'.Gives later ∧
            (t :: ts).map r.mark = used ++ (carried.toList ++ later.map r.mark) ∧
            sentence = taken.reverse ++ used.filter r.isContent ∧
            (ended = false → t :: ts ≠ [] → used ≠ []) := by
        obtain ⟨used, later, hlater, hused, rfl, -⟩ := ih ht hg
        refine ⟨r.mark t :: used, later, hlater, by simp [hused], ?_, by simp⟩
        rw [hrev, List.append_assoc, ← List.filter_append, List.singleton_append]
      split at hg
      · split at hg
        · simp only [Prod.mk.injEq, Except.ok.injEq] at hg
          obtain ⟨⟨rfl, rfl⟩, rfl⟩ := hg
          exact ⟨[r.mark t], ts, ht, rfl, hrev, by simp⟩
        · exact goes hg
      · exact goes hg

namespace Segmenter

/-- These tokens are left to a segmenter: the one that was carried over, and those that its source
gives out, with their tags. -/
def Left (s : Segmenter) (tokens : List Token) : Prop :=
  ∃ ts, s.source.Gives ts ∧ tokens = s.carried.toList ++ ts.map s.rules.mark

/-- A segmenter gives out these sentences and then says that there are no more. A sentence uses up the
token that was carried over to it and those that are taken for it, one of them at least, and the others
are left to the sentences behind it. It begins with the former, and goes on with the content of the
latter. -/
inductive Spends : Segmenter → List Token → List Sentence → Prop
  | done {s : Segmenter} {tokens : List Token} (left : s.Left tokens)
    (ends : s.next.result = .error .exhausted) : Spends s tokens []
  | sentence {s : Segmenter} {used rest : List Token} {ss : List Sentence}
    (left : s.Left (s.carried.toList ++ used ++ rest)) (spent : s.carried.toList ++ used ≠ [])
    (gives : s.next.result =
      .ok (s.escape (s.carried.toList ++ used.filter s.rules.isContent)))
    (later : Spends s.next.state rest ss) :
    Spends s (s.carried.toList ++ used ++ rest)
      (s.escape (s.carried.toList ++ used.filter s.rules.isContent) :: ss)

variable {s : Segmenter} {ts tokens : List Token} {ss : List Sentence}

/-- There are no more sentences than tokens. -/
theorem Spends.length_le (h : s.Spends tokens ss) : ss.length ≤ tokens.length := by
  induction h with
  | done => exact Nat.zero_le _
  | @sentence s used rest ss _ spent _ _ ih =>
    have hpos := List.length_pos_iff.2 spent
    rw [List.length_cons, List.length_append, Nat.add_comm ss.length]
    exact Nat.add_le_add hpos ih

/-- A sentence that is built takes the token that was carried over and the next ones of the source, one
token at least, and leaves the others. -/
theorem taken_of_build {source : TokenSource} {carried : Option Token} {sentence : Sentence}
    (h : s.source.Gives ts) (hb : s.build = (.ok (some sentence), { s with source, carried })) :
    ∃ used later, source.Gives later ∧
      ts.map s.rules.mark = used ++ (carried.toList ++ later.map s.rules.mark) ∧
      s.carried.toList ++ used ≠ [] ∧
      sentence = s.carried.toList ++ used.filter s.rules.isContent := by
  obtain ⟨begun, hs, hg⟩ := s.begins_of_gives h
  rw [build_eq, hs] at hb
  cases hm : s.carried.isSome || !ts.isEmpty with
  | false => simp [hm] at hb
  | true =>
    simp only [hm] at hb
    split at hb
    · simp at hb
    · next found carried' source' hga =>
      simp only [Prod.mk.injEq, Except.ok.injEq, mk.injEq, true_and, and_true] at hb
      obtain ⟨hfound, rfl, rfl⟩ := hb
      obtain rfl : found = sentence := by
        split at hfound <;> simp_all
      obtain ⟨used, later, hl, hts, hsentence, hused⟩ := SentenceRules.taken_of_gather hg hga
      refine ⟨used, later, hl, hts, ?_, ?_⟩
      · intro hnil
        obtain ⟨hc, hu⟩ := List.append_eq_nil_iff.1 hnil
        rw [Option.toList_eq_nil_iff] at hc
        refine hused rfl ?_ hu
        rintro rfl
        simp [hc] at hm
      · cases hc : s.carried <;> simpa [hc] using hsentence

/-- A segmenter that waits spends its tokens on the sentences that it gives out. -/
theorem spends_of_gives (h : s.Waiting) (ht : s.source.Gives ts) (hg : s.Gives ss) :
    s.Spends (s.carried.toList ++ ts.map s.rules.mark) ss := by
  induction ss generalizing s ts with
  | nil => exact .done ⟨ts, ht, rfl⟩ hg
  | cons sentence ss ih =>
    obtain ⟨hr, hlater⟩ := hg
    rcases s.build_gives ht with ⟨s', hb, hready, -⟩ | ⟨built, carried, source, -, hb, -, -⟩
    · rw [next_of_build_none h hb (hready.trans h.ready)] at hr
      simp at hr
    · obtain ⟨hresult, hstate⟩ := next_of_build_some h hb
      obtain ⟨used, later, hl, hts, hspent, rfl⟩ := taken_of_build ht hb
      obtain rfl := Except.ok.inj (hresult.symm.trans hr)
      have hleft : s.Left (s.carried.toList ++ used ++ (carried.toList ++ later.map s.rules.mark)) :=
        ⟨ts, ht, by rw [hts, List.append_assoc]⟩
      rw [hts, ← List.append_assoc]
      refine .sentence hleft hspent hr ?_
      rw [hstate] at hlater ⊢
      exact ih ⟨rfl, h.finished⟩ hl hlater

end Segmenter

end SentenceReader

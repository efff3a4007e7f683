import SentenceReader.Proofs.Sentence.Recorded

/-! The faults of calls on sentences. Where the settings allow tokens every region can be taken up, and a
call fails in no other way than that a read failed, or that there are no more sentences. -/
namespace SentenceReader

def Fault.OfReading (fault : Fault) : Prop := ∃ cause, fault = .ofRead cause

namespace LookAhead

variable {σ α : Type} {l : LookAhead σ α} {good : σ → Prop}

/-- Calls keep what the search for the next item keeps, and fail as it fails, or because there are no more
items. -/
theorem answers_of_fill {bad : Fault → Prop}
    (hfill : ∀ s, good s → good (l.fill s).state ∧ ∀ fault, (l.fill s).result = .error fault → bad fault)
    (htake : ∀ s, good s → good (l.take s)) {s : σ} (hs : good s) (calls : List Call) :
    good (l.calls.after s calls) ∧
      ∀ fault, .error fault ∈ l.calls.answers s calls → fault = .exhausted ∨ bad fault := by
  have hask (s : σ) (hs : good s) (call : Call) : good (l.calls.ask s call).2 ∧
      ∀ fault, (l.calls.ask s call).1 = .error fault → fault = .exhausted ∨ bad fault := by
    obtain ⟨hgood, hbad⟩ := hfill s hs
    cases hf : (l.fill s).result with
    | error fault =>
      rw [l.ask_of_error hf]
      refine ⟨hgood, ?_⟩
      rintro _ ⟨⟩
      exact .inr (hbad fault hf)
    | ok u =>
      rw [l.ask_of_ok hf]
      cases call with
      | hasNext => exact ⟨hgood, by simp [answer]⟩
      | next =>
        simp only [answer]
        cases l.ready (l.fill s).state with
        | none => exact ⟨hgood, fun fault h => .inl (Except.error.inj h).symm⟩
        | some a => exact ⟨htake _ hgood, by simp⟩
  induction calls generalizing s with
  | nil => exact ⟨hs, by simp [Calls.answers]⟩
  | cons call calls ih =>
    obtain ⟨hgood, hfirst⟩ := hask s hs call
    obtain ⟨hafter, hlater⟩ := ih hgood
    refine ⟨hafter, fun fault h => ?_⟩
    rcases List.mem_cons.1 h with h | h
    · exact hfirst fault h.symm
    · exact hlater fault h

end LookAhead

namespace TokenSource

variable {s s' : TokenSource} {fault : Fault}

theorem ofReading_next? (h : s.next? = (.error fault, s')) : fault.OfReading := by
  unfold next? at h
  split at h
  · next cause _ _ =>
    simp only [Prod.mk.injEq, Except.error.injEq] at h
    exact ⟨cause, h.1.symm⟩
  · split at h <;> simp at h

theorem ofReading_hasNext (h : s.hasNext = (.error fault, s')) : fault.OfReading := by
  unfold hasNext at h
  split at h
  · next cause _ _ =>
    simp only [Prod.mk.injEq, Except.error.injEq] at h
    exact ⟨cause, h.1.symm⟩
  · simp at h

end TokenSource

theorem SentenceRules.ofReading_gather {r : SentenceRules} {source source' : TokenSource}
    {taken : List Token} {ended : Bool} {fault : Fault}
    (h : r.gather source taken ended = (.error fault, source')) : fault.OfReading := by
  fun_induction gather r source taken ended with
  | case1 source taken ended fault' next hn =>
    obtain ⟨rfl, rfl⟩ : fault' = fault ∧ next = source' := by simpa using h
    exact TokenSource.ofReading_next? hn
  | case2 => simp at h
  | case3 => simp at h
  | case4 => simp at h
  | case5 source taken ended t next hn t' hc taken' ended' he hk ih => exact ih h
  | case6 source taken ended t next hn t' hc taken' ended' he ih => exact ih h

namespace Segmenter

theorem ofReading_build {s s' : Segmenter} {fault : Fault} (h : s.build = (.error fault, s')) :
    fault.OfReading := by
  unfold build at h
  dsimp only at h
  split at h
  · next fault' source hs =>
    obtain ⟨rfl, -⟩ : fault' = fault ∧ _ := by simpa using h
    split at hs
    · simp at hs
    · exact TokenSource.ofReading_hasNext hs
  · simp at h
  · split at h
    · next fault' source hg =>
      obtain ⟨rfl, -⟩ : fault' = fault ∧ _ := by simpa using h
      exact SentenceRules.ofReading_gather hg
    · simp at h

theorem ofReading_fill {s : Segmenter} {fault : Fault} (h : s.fill.result = .error fault) :
    fault.OfReading := by
  unfold fill at h
  split at h
  · simp at h
  · split at h
    · next fault' s' hb =>
      have hfault : fault' = fault := by split at h <;> exact Except.error.inj h
      exact hfault ▸ ofReading_build hb
    · simp at h
    · simp at h

end Segmenter

theorem RegionSource.ofReading_next? {s s' : RegionSource} {fault : Fault}
    (h : s.next? = (.error fault, s')) : fault.OfReading := by
  unfold next? at h
  split at h
  · next cause _ _ =>
    simp only [Prod.mk.injEq, Except.error.injEq] at h
    exact ⟨cause, h.1.symm⟩
  · split at h <;> simp at h

namespace RegionSegmenter

theorem ofReading_fromCurrent {s : RegionSegmenter} {fault : Fault}
    (h : s.fromCurrent.result = .error fault) : fault.OfReading := by
  cases hc : s.current with
  | none =>
    rw [fromCurrent_of_none hc] at h
    simp at h
  | some segmenter =>
    rw [fromCurrent_of_some hc, LookAhead.next?_eq] at h
    cases hf : (Segmenter.lookAhead.fill segmenter).result with
    | error fault' =>
      rw [hf] at h
      exact Except.error.inj h ▸ Segmenter.ofReading_fill hf
    | ok u =>
      rw [hf] at h
      cases hr : Segmenter.lookAhead.ready (Segmenter.lookAhead.fill segmenter).state <;>
        · rw [hr] at h
          simp [Reply.mapState] at h

/-- Where the settings allow tokens a region can be taken up, whatever its text. -/
theorem takeUp_of_hasTokens {s : RegionSegmenter} (h : s.config.HasTokens) (text : Text) :
    (s.takeUp text).result = .ok () ∧ (s.takeUp text).state.config = s.config := by
  obtain ⟨segmenter, hs, -⟩ := h.ofStream (.ofText text)
  unfold takeUp
  dsimp only
  rw [← Prod.eta (Segmenter.ofStream s.config (.ofText text)), hs]
  exact ⟨rfl, rfl⟩

theorem config_fromCurrent {s s' : RegionSegmenter} {result : Except Fault (Option Sentence)}
    {events : List Event} (h : s.fromCurrent = ⟨result, s', events⟩) : s'.config = s.config := by
  obtain ⟨_, hstate⟩ := s.fromCurrent_state
  rw [h] at hstate
  rw [show s' = _ from hstate]

/-- Where the settings allow tokens the search for a sentence keeps them, and fails only where reading
does. -/
theorem fill_of_hasTokens {s : RegionSegmenter} (h : s.config.HasTokens) :
    s.fill.state.config = s.config ∧ ∀ fault, s.fill.result = .error fault → fault.OfReading := by
  fun_induction fill s with
  | case1 s hs => exact ⟨rfl, by simp⟩
  | case2 s hs fault s' events hc =>
    refine ⟨config_fromCurrent hc, ?_⟩
    rintro _ ⟨⟩
    exact ofReading_fromCurrent (congrArg Reply.result hc)
  | case3 s hs sentence s' events hc =>
    have hconfig := config_fromCurrent hc
    exact ⟨hconfig, by simp⟩
  | case4 s hs s₁ events hc fault regions hn s' hu =>
    have hconfig := config_fromCurrent hc
    refine ⟨hconfig, ?_⟩
    rintro _ ⟨⟩
    exact RegionSource.ofReading_next? hn
  | case5 s hs s₁ events hc fault regions hn s' hu =>
    have hconfig := config_fromCurrent hc
    refine ⟨hconfig, ?_⟩
    rintro _ ⟨⟩
    exact RegionSource.ofReading_next? hn
  | case6 s hs s₁ events hc regions hn s' =>
    have hconfig := config_fromCurrent hc
    exact ⟨hconfig, by simp⟩
  | case7 s hs s₁ events hc text regions hn fault s' more ht =>
    have hconfig := config_fromCurrent hc
    have htaken := (takeUp_of_hasTokens (s := { s₁ with regions }) (hconfig ▸ h) text).1
    rw [ht] at htaken
    simp at htaken
  | case8 s hs s₁ events hc text regions hn s₂ more ht ih =>
    have hconfig := config_fromCurrent hc
    have htaken := (takeUp_of_hasTokens (s := { s₁ with regions }) (hconfig ▸ h) text).2
    rw [ht] at htaken
    replace htaken : s₂.config = s.config := Eq.trans htaken hconfig
    obtain ⟨hkept, hreading⟩ := ih (htaken ▸ h)
    exact ⟨hkept.trans htaken, hreading⟩

/-- Where the settings allow tokens they are kept by all calls, so that every region can be taken up, and
a call fails only where reading does, or where there are no more sentences. -/
theorem answers_of_hasTokens {s : RegionSegmenter} (h : s.config.HasTokens) (asked : List Call) :
    (calls.after s asked).config = s.config ∧
      ∀ fault, .error fault ∈ calls.answers s asked → fault = .exhausted ∨ fault.OfReading := by
  have hfill (s' : RegionSegmenter) (hs' : s'.config = s.config) :
      s'.fill.state.config = s.config ∧
        ∀ fault, s'.fill.result = .error fault → fault.OfReading := by
    obtain ⟨hkept, hreading⟩ := fill_of_hasTokens (s := s') (hs' ▸ h)
    exact ⟨hkept.trans hs', hreading⟩
  rw [calls_eq]
  exact lookAhead.answers_of_fill hfill (fun _ hs' => hs') rfl asked

end RegionSegmenter

end SentenceReader

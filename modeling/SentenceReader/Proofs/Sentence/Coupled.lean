import SentenceReader.Proofs.Owning
import SentenceReader.Proofs.Region.Coupled
import SentenceReader.Proofs.Sentence.Regionwise
import SentenceReader.Proofs.Token.Coupled

/-! Sentences of two coupled streams. As long as nothing breaks off they are found by the same calls
and are the same; where reading breaks off the first sequence ends, and what it had begun is lost. -/
namespace SentenceReader

theorem SentenceRules.gather_eq (r : SentenceRules) (source : TokenSource) (taken : List Token)
    (ended : Bool) :
    r.gather source taken ended =
      match source.next? with
      | (.error fault, source) => (.error fault, source)
      | (.ok none, source) => (.ok (taken.reverse, none), source)
      | (.ok (some t), next) =>
        let t := r.mark t
        if ended && !r.ends t && !r.follows t then (.ok (taken.reverse, some t), next)
        else
          let taken := if r.isContent t then t :: taken else taken
          let ended := ended || r.ends t
          if ended && r.followers.isEmpty then
            if !taken.isEmpty || r.keepEmpty then (.ok (taken.reverse, none), next)
            else gather r next taken false
          else gather r next taken ended := by
  rw [gather]
  split <;> simp_all

namespace Coupling

variable (p : Coupling)

theorem gather_tokens (r : SentenceRules) {s t : TokenSource} (h : p.Tokens s t)
    (taken : List Token) (ended : Bool) :
    Follows (.unreadable .device) p.Tokens (fun s => p.broken s.stream) (r.gather s taken ended)
      (r.gather t taken ended) := by
  induction t using TokenSource.wellFounded_nearer.induction generalizing s taken ended with
  | _ t ih =>
    have hn := p.next_tokens h
    rw [r.gather_eq s, r.gather_eq t]
    generalize s.next? = a, ht : t.next? = b at hn ⊢
    cases hn with
    | breaks h => exact .breaks h
    | @together result s' t' h =>
      rcases result with fault | _ | u
      · exact .together h
      · exact .together h
      · have hlater := ih t' (TokenSource.nearer_of_next? ht) h
        dsimp only
        generalize (if r.isContent (r.mark u) then r.mark u :: taken else taken) = taken'
        split
        · exact .together h
        · split
          · split
            · exact .together h
            · exact hlater _ false
          · exact hlater _ _

end Coupling

namespace Segmenter

/-- What filling makes of the sentence that was built. -/
def conclude : Except Fault (Option Sentence) × Segmenter → Reply Segmenter Unit
  | (.error fault, s) =>
    if fault.isUnreadable then
      ⟨.error fault, s.finish, [.readFailed fault.message none, .streamReleased none]⟩
    else ⟨.error fault, s, []⟩
  | (.ok none, s) => ⟨.ok (), s.finish, [.streamReleased none]⟩
  | (.ok (some sentence), s) =>
    ⟨.ok (), { s with ready := some (s.escape sentence) },
      [.sentenceFinished (s.escape sentence).length]⟩

theorem fill_of_unsettled {s : Segmenter} (h : ¬ (s.ready.isSome || s.finished) = true) :
    s.fill = conclude s.build := by
  rw [fill, if_neg h]
  rfl

theorem ready_build (s : Segmenter) : s.build.2.ready = s.ready := by
  unfold build
  dsimp only
  repeat' split
  all_goals rfl

theorem finished_build (s : Segmenter) : s.build.2.finished = s.finished := by
  unfold build
  dsimp only
  repeat' split
  all_goals rfl

theorem stream_finish (s : Segmenter) : s.finish.stream = s.stream.release := by
  simp [finish, stream, mapStream]

theorem finish_mapStream (s : Segmenter) (x : TextStream) :
    (s.mapStream fun _ => x).finish = s.finish.mapStream fun _ => x.release := by
  cases s with
  | mk rules escaper source => cases source <;> rfl

end Segmenter

namespace Coupling

variable (p : Coupling) {x : TextStream}

abbrev Segmenters : Segmenter → Segmenter → Prop :=
  p.Held Segmenter.stream (fun t stream => t.mapStream fun _ => stream) Segmenter.finished

theorem build_segmenter (t : Segmenter) (h : p.tied x t.stream) :
    Follows (.unreadable .device)
      (p.Carried Segmenter.stream fun t stream => t.mapStream fun _ => stream)
      (fun s => p.broken s.stream) (t.mapStream fun _ => x).build t.build := by
  have hput (t : Segmenter) {source : TokenSource} (h : p.Tokens source t.source) :
      p.Carried Segmenter.stream (fun t stream => t.mapStream fun _ => stream)
        { t with source } t := by
    obtain ⟨_, h⟩ := h
    exact .intro t h
  have hb : Follows (.unreadable .device) p.Tokens (fun s => p.broken s.stream)
      (t.mapStream fun _ => x).begins t.begins := by
    simp only [Segmenter.begins, Segmenter.mapStream]
    cases t.carried with
    | none => exact p.hasNext_tokens (p.tokens_mapStream t.source h)
    | some token => exact .together (p.tokens_mapStream t.source h)
  rw [Segmenter.build_eq, Segmenter.build_eq t]
  generalize (t.mapStream fun _ => x).begins = a, t.begins = b at hb ⊢
  cases hb with
  | breaks h => exact .breaks h
  | @together result s' t' h =>
    rcases result with fault | _ | _
    · exact .together (hput { t with source := t' } h)
    · exact .together (hput { t with source := t' } h)
    · have hg := p.gather_tokens t.rules h t.carried.toList false
      dsimp only [Segmenter.mapStream]
      generalize t.rules.gather s' t.carried.toList false = a,
        t.rules.gather t' t.carried.toList false = b at hg ⊢
      cases hg with
      | breaks h => exact .breaks h
      | @together result s'' t'' h =>
        rcases result with fault | ⟨sentence, carried⟩
        · exact .together (hput { t with source := t'', carried := none } h)
        · exact .together (hput { t with source := t'', carried } h)

theorem finish_segmenter (t : Segmenter) (h : p.tied x t.stream) :
    p.Segmenters (t.mapStream fun _ => x).finish t.finish := by
  rw [Segmenter.finish_mapStream]
  exact .ended t.finish rfl h (Segmenter.stream_finish t)

theorem fill_segmenter {s t : Segmenter} (h : p.Segmenters s t) :
    Follows (.unreadable .device) p.Segmenters
      (p.Stopped Segmenter.stream Segmenter.finished Segmenter.ready)
      (s.fill.result, s.fill.state) (t.fill.result, t.fill.state) := by
  cases h with
  | @ended t x y hf h ht =>
    have hs : (t.ready.isSome || t.finished) = true := by rw [hf, Bool.or_true]
    rw [Segmenter.fill_of_settled hs, Segmenter.fill_of_settled (by exact hs)]
    exact .together (.ended t hf h ht)
  | @reading t x hf h =>
    by_cases hs : (t.ready.isSome || t.finished) = true
    · rw [Segmenter.fill_of_settled hs, Segmenter.fill_of_settled (by exact hs)]
      exact .together (.reading t hf h)
    · have hr : t.ready = none := by simpa [hf] using hs
      have hb := p.build_segmenter t h
      have hready := (t.mapStream fun _ => x).ready_build
      have hfinished := t.finished_build
      rw [Segmenter.fill_of_unsettled hs, Segmenter.fill_of_unsettled (by exact hs)]
      generalize (t.mapStream fun _ => x).build = a, t.build = b at hb hready hfinished ⊢
      cases hb with
      | breaks h =>
        refine .breaks ⟨rfl, hready.trans hr, _, h, Segmenter.stream_finish _⟩
      | @together result _ t' h =>
        obtain ⟨t', h⟩ := h
        have hf' : t'.finished = false := hfinished.trans hf
        rcases result with fault | _ | sentence
        · simp only [Segmenter.conclude]
          split
          · exact .together (p.finish_segmenter t' h)
          · exact .together (.reading t' hf' h)
        · exact .together (p.finish_segmenter t' h)
        · exact .together (.reading { t' with ready := some (t'.escape sentence) } hf' h)

end Coupling

namespace RegionSegmenter

theorem fill_of_settled {s : RegionSegmenter} (h : (s.ready.isSome || s.finished) = true) :
    s.fill = ⟨.ok (), s, []⟩ := by
  rw [fill, if_pos h]

/-- What filling does where nothing is left of the current region. -/
def takeNext (s : RegionSegmenter) : Reply RegionSegmenter Unit :=
  match s.regions.next? with
  | (.error fault, regions) =>
    if fault.isUnreadable then
      ⟨.error fault, { s with regions }.finish,
        [.readFailed fault.message (some s.count), .streamReleased (some s.count)]⟩
    else ⟨.error fault, { s with regions }, []⟩
  | (.ok none, regions) =>
    ⟨.ok (), { s with regions, current := none }.finish, [.streamReleased (some s.count)]⟩
  | (.ok (some text), regions) => (takeUp { s with regions } text).andThen fun _ s => s.fill

theorem fill_of_unsettled {s : RegionSegmenter} (h : ¬ (s.ready.isSome || s.finished) = true) :
    s.fill =
      match s.fromCurrent with
      | ⟨.error fault, s, events⟩ => ⟨.error fault, s, events⟩
      | ⟨.ok (some sentence), s, events⟩ => ⟨.ok (), { s with ready := some sentence }, events⟩
      | ⟨.ok none, s, events⟩ => s.takeNext.after events := by
  rw [fill, if_neg h]
  split
  · simp_all
  · simp_all
  · next hc =>
    simp only [hc, takeNext]
    split
    · next hn =>
      simp only [hn]
      split <;> simp [Reply.after]
    · next hn => simp [hn, Reply.after]
    · next hn =>
      simp only [hn]
      split <;> simp_all [Reply.after, Reply.andThen]

/-- Only the current region changes where one of its sentences is asked for. -/
theorem fromCurrent_state (s : RegionSegmenter) :
    ∃ current, s.fromCurrent.state = { s with current } := by
  unfold fromCurrent
  split
  · exact ⟨s.current, rfl⟩
  · exact ⟨_, rfl⟩

theorem takeUp_state (s : RegionSegmenter) (text : Text) :
    ∃ current, (s.takeUp text).state = { s with count := s.count + 1, current } := by
  unfold takeUp
  dsimp only
  split
  · exact ⟨s.current, rfl⟩
  · exact ⟨_, rfl⟩

theorem fromCurrent_mapStream (s : RegionSegmenter) (f : TextStream → TextStream) :
    (s.mapStream f).fromCurrent = s.fromCurrent.mapState (mapStream f) := by
  unfold fromCurrent
  simp only [mapStream]
  split <;> rfl

theorem takeUp_mapStream (s : RegionSegmenter) (f : TextStream → TextStream) (text : Text) :
    (s.mapStream f).takeUp text = (s.takeUp text).mapState (mapStream f) := by
  unfold takeUp
  simp only [mapStream]
  split <;> rfl

theorem stream_finish (s : RegionSegmenter) : s.finish.stream = s.stream.release := by
  simp [finish, stream, mapStream]

theorem finish_mapStream (s : RegionSegmenter) (x : TextStream) :
    (s.mapStream fun _ => x).finish = s.finish.mapStream fun _ => x.release := by
  cases s with
  | mk config regions => cases regions <;> rfl

end RegionSegmenter

namespace Coupling

variable (p : Coupling) {x : TextStream}

abbrev RegionSegmenters : RegionSegmenter → RegionSegmenter → Prop :=
  p.Held RegionSegmenter.stream (fun t stream => t.mapStream fun _ => stream)
    RegionSegmenter.finished

theorem finish_regionSegmenter (t : RegionSegmenter) (h : p.tied x t.stream) :
    p.RegionSegmenters (t.mapStream fun _ => x).finish t.finish := by
  rw [RegionSegmenter.finish_mapStream]
  exact .ended t.finish rfl h (RegionSegmenter.stream_finish t)

/-- Two sequences over the regions of tied streams take up the same region, or end both, if they go
on alike in the regions behind it. -/
theorem takeNext_regionSegmenter (t : RegionSegmenter) (hr : t.ready = none) (hf : t.finished = false)
    (h : p.tied x t.stream)
    (hfill : ∀ (t' : RegionSegmenter) (y : TextStream), t'.regions.remaining < t.regions.remaining →
      t'.finished = false → p.tied y t'.stream →
        Follows (.unreadable .device) p.RegionSegmenters
          (p.Stopped RegionSegmenter.stream RegionSegmenter.finished RegionSegmenter.ready)
          ((t'.mapStream fun _ => y).fill.result, (t'.mapStream fun _ => y).fill.state)
          (t'.fill.result, t'.fill.state)) :
    Follows (.unreadable .device) p.RegionSegmenters
      (p.Stopped RegionSegmenter.stream RegionSegmenter.finished RegionSegmenter.ready)
      ((t.mapStream fun _ => x).takeNext.result, (t.mapStream fun _ => x).takeNext.state)
      (t.takeNext.result, t.takeNext.state) := by
  have hn := p.next_regions (p.regions_mapStream t.regions h)
  unfold RegionSegmenter.takeNext
  dsimp only [RegionSegmenter.mapStream]
  generalize (t.regions.mapStream fun _ => x).next? = a, hb : t.regions.next? = b at hn ⊢
  cases hn with
  | breaks h => exact .breaks ⟨rfl, hr, _, h, RegionSegmenter.stream_finish _⟩
  | @together result _ regions h =>
    obtain @⟨regions, y, h⟩ := h
    let t' : RegionSegmenter := { t with regions }
    rcases result with fault | _ | text
    · dsimp only
      split
      · exact .together (p.finish_regionSegmenter t' h)
      · exact .together (.reading t' hf h)
    · exact .together (p.finish_regionSegmenter { t' with current := none } h)
    · have htake := t'.takeUp_mapStream (fun _ => y) text
      obtain ⟨current, hcurrent⟩ := t'.takeUp_state text
      dsimp only [RegionSegmenter.mapStream, t'] at htake hcurrent ⊢
      rw [htake]
      generalize RegionSegmenter.takeUp _ text = r at hcurrent ⊢
      obtain ⟨result, _, events⟩ := r
      obtain rfl := hcurrent
      let t₂ : RegionSegmenter := { t' with count := t.count + 1, current }
      cases result with
      | error fault => exact .together (.reading t₂ hf h)
      | ok u => exact hfill t₂ y (RegionSource.remaining_of_next? hb) hf h

/-- Two sequences over the regions of tied streams go on alike, from region to region. -/
theorem fill_regionSegmenter {s t : RegionSegmenter} (h : p.RegionSegmenters s t) :
    Follows (.unreadable .device) p.RegionSegmenters
      (p.Stopped RegionSegmenter.stream RegionSegmenter.finished RegionSegmenter.ready)
      (s.fill.result, s.fill.state) (t.fill.result, t.fill.state) := by
  cases h with
  | @ended t x y hf h ht =>
    have hs : (t.ready.isSome || t.finished) = true := by rw [hf, Bool.or_true]
    rw [RegionSegmenter.fill_of_settled hs, RegionSegmenter.fill_of_settled (by exact hs)]
    exact .together (.ended t hf h ht)
  | @reading t x hf h =>
    induction hsize : t.regions.remaining using Nat.strongRecOn generalizing t x with
    | ind size ih =>
      by_cases hs : (t.ready.isSome || t.finished) = true
      · rw [RegionSegmenter.fill_of_settled hs, RegionSegmenter.fill_of_settled (by exact hs)]
        exact .together (.reading t hf h)
      · have hr : t.ready = none := by simpa [hf] using hs
        rw [RegionSegmenter.fill_of_unsettled hs, RegionSegmenter.fill_of_unsettled (by exact hs),
          t.fromCurrent_mapStream]
        obtain ⟨current, hcurrent⟩ := t.fromCurrent_state
        generalize t.fromCurrent = r at hcurrent ⊢
        obtain ⟨result, _, events⟩ := r
        obtain rfl := hcurrent
        rcases result with fault | _ | sentence
        · exact .together (.reading { t with current } hf h)
        · refine p.takeNext_regionSegmenter { t with current } hr hf h fun t' y hlt hf' h' => ?_
          exact ih _ (hsize ▸ hlt) hf' h' rfl
        · exact .together (.reading { t with current, ready := some sentence } hf h)

end Coupling

end SentenceReader

import Mathlib.Order.Bounds.Basic
import Spectrometer.Reading.Report

/-!
The span of the last fetches, from the earliest start of one to the latest end of one. It depends on
the instants alone at which some worker started or stopped, not on who did so or how often, and more
instants never make it shorter.
-/

namespace Spectrometer.SimultaneousReport

/-- The instants that workers have as that time of theirs. -/
def instants (time : WorkerReport → Option Instant) (workers : List WorkerReport) : Set Instant :=
  {t | ∃ w ∈ workers, time w = some t}

variable {time : WorkerReport → Option Instant} {workers workers' idle : List WorkerReport}
  {w : WorkerReport} {t start stop : Instant} {total : Nat}

theorem min?_filterMap_eq_some_iff :
    (workers.filterMap time).min? = some t ↔ IsLeast (instants time workers) t := by
  rw [List.min?_eq_some_iff]
  simp only [List.mem_filterMap]
  rfl

theorem max?_filterMap_eq_some_iff :
    (workers.filterMap time).max? = some t ↔ IsGreatest (instants time workers) t := by
  rw [List.max?_eq_some_iff]
  simp only [List.mem_filterMap]
  rfl

/-- A span takes a start and a stop. -/
theorem span_eq (workers : List WorkerReport) : span ⟨workers⟩ =
    (workers.filterMap (·.start)).min?.bind fun first =>
      (workers.filterMap (·.stop)).max?.map (· - first) := by
  unfold span
  dsimp only
  cases (workers.filterMap (·.start)).min? with
  | none => rfl
  | some first => cases (workers.filterMap (·.stop)).max? <;> rfl

theorem span_eq_some_iff : span ⟨workers⟩ = some total ↔
    ∃ first last, IsLeast (instants (·.start) workers) first ∧
      IsGreatest (instants (·.stop) workers) last ∧ last - first = total := by
  simp only [span_eq, Option.bind_eq_some_iff, Option.map_eq_some_iff,
    min?_filterMap_eq_some_iff, max?_filterMap_eq_some_iff, exists_and_left]

theorem span_eq_none_iff : span ⟨workers⟩ = none ↔
    (∀ w ∈ workers, w.start = none) ∨ ∀ w ∈ workers, w.stop = none := by
  rw [span_eq, ← List.filterMap_eq_nil_iff, ← List.filterMap_eq_nil_iff, ← List.min?_eq_none_iff,
    ← List.max?_eq_none_iff]
  cases (workers.filterMap (·.start)).min? with
  | none => simp
  | some first => simp

/-- Only the instants count. -/
theorem span_congr (hstart : instants (·.start) workers' = instants (·.start) workers)
    (hstop : instants (·.stop) workers' = instants (·.stop) workers) :
    span ⟨workers'⟩ = span ⟨workers⟩ := by
  apply Option.ext
  intro total
  rw [span_eq_some_iff, span_eq_some_iff, hstart, hstop]

/-- More of them lengthen the span, if anything. -/
theorem span_mono (hstart : instants (·.start) workers ⊆ instants (·.start) workers')
    (hstop : instants (·.stop) workers ⊆ instants (·.stop) workers')
    (hspan : span ⟨workers⟩ = some total) :
    ∃ total', span ⟨workers'⟩ = some total' ∧ total ≤ total' := by
  obtain ⟨first, last, hfirst, hlast, rfl⟩ := span_eq_some_iff.mp hspan
  cases hspan' : span ⟨workers'⟩ with
  | none =>
    obtain ⟨w, hw, hstarted⟩ := hstart hfirst.1
    obtain ⟨v, hv, hstopped⟩ := hstop hlast.1
    obtain hnone | hnone := span_eq_none_iff.mp hspan'
    · cases (hnone w hw).symm.trans hstarted
    · cases (hnone v hv).symm.trans hstopped
  | some total' =>
    obtain ⟨first', last', hfirst', hlast', rfl⟩ := span_eq_some_iff.mp hspan'
    have hearlier : first' ≤ first := hfirst'.2 (hstart hfirst.1)
    have hlater : last ≤ last' := hlast'.2 (hstop hlast.1)
    exact ⟨_, rfl, (Nat.sub_le_sub_right hlater _).trans (Nat.sub_le_sub_left hearlier _)⟩

theorem instants_mono (hworkers : workers ⊆ workers') :
    instants time workers ⊆ instants time workers' := by
  rintro t ⟨w, hw, htime⟩
  exact ⟨w, hworkers hw, htime⟩

/-- Workers without that time bring no instant. -/
theorem instants_append_of_none (hidle : ∀ w ∈ idle, time w = none) :
    instants time (workers ++ idle) = instants time workers := by
  refine Set.Subset.antisymm ?_ (instants_mono (List.subset_append_left ..))
  rintro t ⟨w, hw, htime⟩
  obtain hw | hw := List.mem_append.mp hw
  · exact ⟨w, hw, htime⟩
  · cases (hidle w hw).symm.trans htime

theorem instants_perm (hperm : workers.Perm workers') :
    instants time workers = instants time workers' :=
  Set.Subset.antisymm (instants_mono hperm.subset) (instants_mono hperm.symm.subset)

theorem span_singleton (hstart : w.start = some start) (hstop : w.stop = some stop) :
    span ⟨[w]⟩ = some (stop - start) := by
  simp [span, hstart, hstop]

/-- `span` is `none` if and only if no worker has a `start` or no worker has a `stop`; otherwise it
is the latest `stop` less the earliest `start`, or zero if that is negative. The order of the
workers does not matter, nor do workers with neither instant. Adding a worker never shortens the
span, and the span is at least `stop - start` of every worker that has both. -/
theorem span_covers_last_fetches (workers : List WorkerReport) :
    (span ⟨workers⟩ = none ↔
      (∀ w ∈ workers, w.start = none) ∨ ∀ w ∈ workers, w.stop = none) ∧
    (∀ total, span ⟨workers⟩ = some total ↔
      ∃ first last, IsLeast {t | ∃ w ∈ workers, w.start = some t} first ∧
        IsGreatest {t | ∃ w ∈ workers, w.stop = some t} last ∧
        (total : Int) = max 0 ((last : Int) - first)) ∧
    (∀ idle workers', (∀ w ∈ idle, w.start = none ∧ w.stop = none) →
      workers'.Perm (workers ++ idle) → span ⟨workers'⟩ = span ⟨workers⟩) ∧
    (∀ w workers' total, workers'.Perm (w :: workers) → span ⟨workers⟩ = some total →
      ∃ total', span ⟨workers'⟩ = some total' ∧ total ≤ total') ∧
    (∀ w ∈ workers, ∀ start stop, w.start = some start → w.stop = some stop →
      ∃ total, span ⟨workers⟩ = some total ∧ (stop : Int) - start ≤ total) := by
  refine ⟨span_eq_none_iff, ?_, ?_, ?_, ?_⟩
  · intro total
    rw [span_eq_some_iff]
    refine exists_congr fun first => exists_congr fun last => ?_
    refine and_congr_right fun _ => and_congr_right fun _ => ?_
    rw [max_comm, ← Int.ofNat_toNat, Int.toNat_sub, Int.natCast_inj, eq_comm]
  · intro idle workers' hidle hperm
    apply span_congr
    · rw [instants_perm hperm, instants_append_of_none fun w hw => (hidle w hw).1]
    · rw [instants_perm hperm, instants_append_of_none fun w hw => (hidle w hw).2]
  · intro w workers' total hperm hspan
    have hworkers : workers ⊆ workers' :=
      List.Subset.trans (List.subset_cons_self w workers) hperm.symm.subset
    exact span_mono (instants_mono hworkers) (instants_mono hworkers) hspan
  · intro w hw start stop hstart hstop
    have hworkers : [w] ⊆ workers := List.cons_subset.mpr ⟨hw, List.nil_subset _⟩
    obtain ⟨total, hspan, hlength⟩ := span_mono (instants_mono hworkers) (instants_mono hworkers)
      (span_singleton hstart hstop)
    exact ⟨total, hspan, by omega⟩

/-- A worker that never stopped starts the span of another one; an idle worker adds nothing to it,
and a late one does not shorten it. -/
theorem unstopped_worker_covered :
    let unstopped : WorkerReport := ⟨0, [], some 2, none, none⟩
    let whole : WorkerReport := ⟨1, [4], some 5, some 9, none⟩
    let idle : WorkerReport := ⟨2, [], none, none, none⟩
    let late : WorkerReport := ⟨3, [1], some 6, some 8, none⟩
    span ⟨[unstopped, whole]⟩ = some 7 ∧ span ⟨[idle, whole, unstopped]⟩ = some 7 ∧
      ∃ total, span ⟨[unstopped, late, whole]⟩ = some total ∧ 7 ≤ total := by
  intro unstopped whole idle late
  have hspan : span ⟨[unstopped, whole]⟩ = some 7 := rfl
  obtain ⟨-, -, hidle, hlate, -⟩ := span_covers_last_fetches [unstopped, whole]
  refine ⟨hspan, (hidle [idle] _ ?_ ?_).trans hspan, hlate late _ 7 ?_ hspan⟩
  · exact List.forall_mem_singleton.mpr ⟨rfl, rfl⟩
  · decide
  · decide

end Spectrometer.SimultaneousReport

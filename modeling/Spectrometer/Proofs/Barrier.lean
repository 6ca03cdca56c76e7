import Spectrometer.Barrier

/-!
The count of a barrier. While participants are missing the barrier is closed and silent; it opens
with the announcement of the last arrival and stays as it is from then on. `after` tells it by the
arrivals so far, however many come.
-/

namespace Spectrometer.Barrier

/-- The barrier lacks so many participants: it is open, and its opening announced once, just when
none is missing. -/
structure Lacks (b : Barrier) (missing : Nat) : Prop where
  remaining : b.remaining = missing
  released : b.releasedAt.isSome = true ↔ missing = 0
  broadcasts : b.broadcasts = if missing = 0 then 1 else 0

theorem lacks_new {participants : Nat} (hsome : 0 < participants) (now : Instant) :
    (new participants now).Lacks participants := by
  have hne : participants ≠ 0 := by omega
  refine ⟨rfl, ?_, ?_⟩
  · simp [new, hne]
  · simp [new, hne]

/-- The arrival of a missing participant releases the barrier just if it was the last one. -/
theorem Lacks.arrive {b : Barrier} {missing : Nat} (h : b.Lacks (missing + 1)) (now : Instant) :
    (b.arrive now).1.Lacks missing ∧ (b.arrive now).2 = decide (missing = 0) ∧
      b.releasedAt = none ∧ b.broadcasts = 0 := by
  obtain ⟨remaining, releasedAt, broadcasts⟩ := b
  obtain ⟨hremaining, hreleased, hbroadcasts⟩ := h
  have hne : missing + 1 ≠ 0 := by omega
  have hclosed : releasedAt = none := by simpa [hne] using hreleased
  have hsilent : broadcasts = 0 := by simpa [hne] using hbroadcasts
  change remaining = missing + 1 at hremaining
  subst hremaining hclosed hsilent
  cases missing with
  | zero => exact ⟨⟨rfl, by simp [Barrier.arrive], rfl⟩, rfl, rfl, rfl⟩
  | succ n => exact ⟨⟨rfl, by simp [Barrier.arrive], rfl⟩, rfl, rfl, rfl⟩

theorem Lacks.arrive_of_none {b : Barrier} (h : b.Lacks 0) (now : Instant) :
    b.arrive now = (b, false) := by
  unfold Barrier.arrive
  rw [h.remaining]

theorem arrive_of_closed {b : Barrier} {now : Instant} (h : (b.arrive now).1.releasedAt = none) :
    (b.arrive now).2 = false := by
  unfold arrive at h ⊢
  match hremaining : b.remaining with
  | 0 => rfl
  | 1 => simp [hremaining] at h
  | _ + 2 => rfl

/-- The next arrival passes at once: no other participant is missing. -/
def AdmitsOne (b : Barrier) : Prop :=
  b.remaining = 1 ∨ b.remaining = 0 ∧ b.releasedAt.isSome = true

theorem admitsOne_new (participants : Nat) (now : Instant) (hfew : participants ≤ 1) :
    (new participants now).AdmitsOne := by
  obtain hone | hnone : participants = 1 ∨ participants = 0 := by omega
  · subst hone
    exact Or.inl rfl
  · subst hnone
    exact Or.inr ⟨rfl, rfl⟩

theorem AdmitsOne.arrive {b : Barrier} (h : b.AdmitsOne) (now : Instant) :
    (b.arrive now).1.releasedAt.isSome = true ∧ (b.arrive now).1.AdmitsOne := by
  unfold Barrier.arrive
  obtain hone | ⟨hnone, hreleased⟩ := h
  · rw [hone]
    exact ⟨rfl, Or.inr ⟨rfl, rfl⟩⟩
  · rw [hnone]
    exact ⟨hreleased, Or.inr ⟨hnone, hreleased⟩⟩

/-- The barrier for so many participants, set up at `start`, after arrivals at these instants. -/
def after (participants : Nat) (start : Instant) (arrivals : List Instant) : Barrier where
  remaining := participants - arrivals.length
  releasedAt := if participants = 0 then some start else arrivals[participants - 1]?
  broadcasts := if 1 ≤ participants ∧ participants ≤ arrivals.length then 1 else 0

section Arrivals

variable {participants : Nat} {start : Instant} {arrivals : List Instant}

theorem new_eq_after (participants : Nat) (start : Instant) :
    new participants start = after participants start [] := by
  have hsilent : ¬ (1 ≤ participants ∧ participants ≤ [].length (α := Instant)) := by
    rw [List.length_nil]
    omega
  rw [after, if_neg hsilent]
  rfl

/-- The arrival that makes up the number releases the barrier, and no other does. -/
theorem arrive_after (now : Instant) :
    (after participants start arrivals).arrive now =
      (after participants start (arrivals ++ [now]),
        decide (arrivals.length + 1 = participants)) := by
  have hlength : (arrivals ++ [now]).length = arrivals.length + 1 := List.length_append
  unfold arrive
  split
  · next hremaining =>
    change participants - arrivals.length = 0 at hremaining
    have hkept (hsome : participants ≠ 0) :
        (arrivals ++ [now])[participants - 1]? = arrivals[participants - 1]? :=
      List.getElem?_append_left (by omega)
    simp only [after, Prod.mk.injEq, Barrier.mk.injEq]
    grind
  · next hremaining =>
    change participants - arrivals.length = 1 at hremaining
    obtain rfl : participants = arrivals.length + 1 := by omega
    simp [after]
  · next n hremaining =>
    change participants - arrivals.length = n + 2 at hremaining
    simp only [after, Prod.mk.injEq, Barrier.mk.injEq]
    grind

theorem isSome_releasedAt_after :
    (after participants start arrivals).releasedAt.isSome = true ↔
      participants ≤ arrivals.length := by
  unfold after
  by_cases hnone : participants = 0
  · simp [hnone]
  · rw [if_neg hnone, Option.isSome_iff_ne_none, ne_eq, List.getElem?_eq_none_iff]
    omega

theorem releasedAt_after_of_lt (hmissing : arrivals.length < participants) :
    (after participants start arrivals).releasedAt = none := by
  rw [← Option.not_isSome_iff_eq_none, isSome_releasedAt_after]
  omega

theorem exists_releasedAt_after (hall : participants ≤ arrivals.length) :
    ∃ t, (after participants start arrivals).releasedAt = some t :=
  Option.isSome_iff_exists.mp (isSome_releasedAt_after.mpr hall)

/-- Once released, the barrier stays so, and since the same instant. -/
theorem releasedAt_after_append {t : Instant}
    (ht : (after participants start arrivals).releasedAt = some t) (later : List Instant) :
    (after participants start (arrivals ++ later)).releasedAt = some t := by
  unfold after at ht ⊢
  by_cases hnone : participants = 0
  · simpa only [if_pos hnone] using ht
  · simp only [if_neg hnone] at ht ⊢
    exact (List.getElem?_append_left (List.getElem?_eq_some_iff.mp ht).1).trans ht

/-- The barrier after arrivals at these instants, and what each call of `arrive` returned: whether
it released the barrier. -/
def arriveAll : Barrier → List Instant → Barrier × List Bool
  | b, [] => (b, [])
  | b, now :: later =>
    (((b.arrive now).1.arriveAll later).1, (b.arrive now).2 :: ((b.arrive now).1.arriveAll later).2)

theorem arriveAll_after (later : List Instant) :
    (after participants start arrivals).arriveAll later =
      (after participants start (arrivals ++ later),
        (List.range' arrivals.length later.length).map fun k => decide (k + 1 = participants)) := by
  induction later generalizing arrivals with
  | nil =>
    rw [List.append_nil]
    rfl
  | cons now later ih =>
    rw [arriveAll, arrive_after, ih, List.append_assoc, List.singleton_append, List.length_append,
      List.length_singleton, List.length_cons, List.range'_succ, List.map_cons]

end Arrivals

end Spectrometer.Barrier

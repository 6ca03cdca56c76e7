import Mathlib.Data.List.Basic
import Spectrometer.Proofs.Reading.Chronicle

/-!
The chronicle of a reading of one device. `Stage.Reads` follows a worker from the opened session to
the result, with every deed on the way. The chronicle is made up of one row for each frame, in the
order of the frames; where the reading fails the rows break off, and after each `memoryFull` event
come `clear` and `fire` before the next `status`.
-/

namespace Spectrometer

namespace Mark

/-- The rows of the frames that were fetched, in their order. -/
def rows (required : Nat) (fetches : List (Nat × Frame)) : List Mark :=
  (fetches.mapIdx (row required)).flatten

theorem rows_concat (required : Nat) (fetches : List (Nat × Frame)) (fetch : Nat × Frame) :
    rows required (fetches ++ [fetch]) =
      rows required fetches ++ row required fetches.length fetch := by
  unfold rows
  rw [List.mapIdx_concat, List.flatten_append, List.flatten_cons, List.flatten_nil, List.append_nil]

theorem memoryFull_notMem_fetching (last : Bool) : memoryFull ∉ fetching last := by
  cases last <;> decide

theorem memoryFull_notMem_row (required number : Nat) (fetch : Nat × Frame) :
    memoryFull ∉ row required number fetch := by
  unfold row
  rw [List.mem_append, not_or]
  exact ⟨memoryFull_notMem_fetching _, by simp⟩

end Mark

namespace Chronicle

/-- The fetches, the waiting for the last of them and the `fetched` events. -/
def progress (t : Chronicle) : List Mark := t.marks.filter (· ≠ .memoryFull)

theorem progress_append (t t' : Chronicle) : progress (t ++ t') = t.progress ++ t'.progress := by
  unfold progress
  rw [marks_append, List.filter_append]

theorem progress_eq_marks {t : Chronicle} (ht : .memoryFull ∉ t.marks) : t.progress = t.marks := by
  refine List.filter_eq_self.mpr fun m hm => decide_eq_true ?_
  rintro rfl
  exact ht hm

theorem progress_of_quiet {t : Chronicle} (ht : t.marks = []) : t.progress = [] := by
  rw [progress, ht]
  rfl

theorem notMem_of_marks {t : Chronicle} (ht : .memoryFull ∉ t.marks) :
    (⟨.observe .memoryFull, ()⟩ : Interaction.Turn Deed Deed.Answer) ∉ t := fun hmem =>
  ht (List.mem_filterMap.mpr ⟨_, hmem, rfl⟩)

theorem notMem_of_quiet {t : Chronicle} (ht : t.marks = []) :
    (⟨.observe .memoryFull, ()⟩ : Interaction.Turn Deed Deed.Answer) ∉ t :=
  notMem_of_marks (by rw [ht]; exact List.not_mem_nil)

theorem ne_of_quiet {t before after : Chronicle} (ht : t.marks = []) :
    t ≠ before ++ ⟨.observe .memoryFull, ()⟩ :: after := by
  intro heq
  apply notMem_of_quiet ht
  rw [heq]
  exact List.mem_append_right before List.mem_cons_self

/-- What the chronicle of a reading of `required` frames says, given the result. With a report there
is a row for each frame, and the report is about these frames; with a failure there are rows for
some frames only, and of the next one at most the fetch. -/
def Tells (required : Nat) (t : Chronicle) : WorkerResult → Prop
  | .ok report => ∃ fetches : List (Nat × Frame), fetches.length = required ∧
      t.progress = Mark.rows required fetches ∧
      report.latencies.reverse = fetches.map (·.1) ∧
      report.start.isSome = true ∧ report.stop.isSome = true ∧ report.lastFrame.isSome = true ∧
      report.lastFrame = fetches.getLast?.map (·.2)
  | .error _ => ∃ (fetches : List (Nat × Frame)) (lost : List Mark), fetches.length < required ∧
      t.progress = Mark.rows required fetches ++ lost ∧
      lost <+: Mark.fetching (fetches.length + 1 == required)

end Chronicle

/-- The rest of a reading after a `memoryFull` event: `clear`, then, if that succeeds, `fire`, and
then, if that succeeds too, the reading goes on with `status`. -/
inductive Session.Restarted (s : Session) : Chronicle → WorkerResult → Prop
  | uncleared {cleared : Chronicle} {e : DeviceError}
    (hclear : (Activity.attempt s.frames.clear).run.Unfolds cleared (.error e)) :
    Restarted s cleared (.error (.device e))
  | unfired {cleared fired : Chronicle} {e : DeviceError}
    (hclear : (Activity.attempt s.frames.clear).run.Unfolds cleared (.ok ()))
    (hfire : (Activity.attempt s.fire).run.Unfolds fired (.error e)) :
    Restarted s (cleared ++ fired) (.error (.device e))
  | goesOn {cleared fired looked later : Chronicle} {flags : Except DeviceError StatusFlags}
    {result : WorkerResult}
    (hclear : (Activity.attempt s.frames.clear).run.Unfolds cleared (.ok ()))
    (hfire : (Activity.attempt s.fire).run.Unfolds fired (.ok ()))
    (hlook : (Activity.attempt s.status).run.Unfolds looked flags) :
    Restarted s (cleared ++ fired ++ looked ++ later) result

namespace Reader

/-- The chronicle has the rows of the frames that a reader has fetched, and its record has them. -/
structure Told (r : Reader) (t : Chronicle) (fetches : List (Nat × Frame)) : Prop where
  number : r.number = fetches.length
  within : r.number ≤ r.required
  progress : t.progress = Mark.rows r.required fetches
  latencies : r.report.latencies.reverse = fetches.map (·.1)
  last : r.number = r.required → r.report.start.isSome = true ∧ r.report.stop.isSome = true ∧
    r.report.lastFrame = fetches.getLast?.map (·.2)

variable {r next : Reader} {t turns : Chronicle} {fetches : List (Nat × Frame)}

theorem Told.quiet (h : r.Told t fetches) (hturns : turns.progress = []) :
    r.Told (t ++ turns) fetches where
  number := h.number
  within := h.within
  progress := by rw [Chronicle.progress_append, hturns, List.append_nil, h.progress]
  latencies := h.latencies
  last := h.last

/-- A frame that is fetched is the next one of the record. -/
theorem Told.record (h : r.Told t fetches) (hmissing : r.number < r.required)
    {before after : Instant} {start stop : Option Instant} {frame : Frame}
    (hstart : start.isSome = r.isLast) (hstop : stop.isSome = r.isLast)
    (hturns : turns.progress = Mark.row r.required r.number (after - before, frame)) :
    (r.record before after start stop frame).Told (t ++ turns)
      (fetches ++ [(after - before, frame)]) where
  number := by
    rw [List.length_append, ← h.number]
    rfl
  within := hmissing
  progress := by
    change _ = Mark.rows r.required _
    rw [Chronicle.progress_append, Mark.rows_concat, hturns, h.progress, h.number]
  latencies := by
    change ((after - before) :: r.report.latencies).reverse = _
    rw [List.reverse_cons, h.latencies, List.map_append]
    rfl
  last hover := by
    have hlast : r.isLast = true := beq_iff_eq.mpr hover
    rw [hlast] at hstart hstop
    refine ⟨?_, ?_, ?_⟩
    · change (start.or r.report.start).isSome = true
      rw [Option.isSome_or, hstart, Bool.true_or]
    · change (stop.or r.report.stop).isSome = true
      rw [Option.isSome_or, hstop, Bool.true_or]
    · change (if r.isLast then some frame else r.report.lastFrame) = _
      rw [if_pos hlast, List.getLast?_concat]
      rfl

theorem Fetched.memoryFull_notMem {result : Except DeviceError Reader}
    (h : r.Fetched turns result) : .memoryFull ∉ turns.marks := by
  cases h with
  | lost hmarks => exact fun hmem => Mark.memoryFull_notMem_fetching _ (hmarks.subset hmem)
  | kept _ _ hmarks =>
    rw [hmarks]
    exact Mark.memoryFull_notMem_row _ _ _

/-- A poll makes progress only if it fetches. -/
theorem Looked.progress {result : Except DeviceError Reader} (h : r.Looked turns result) :
    (turns.progress = [] ∧ ∀ next, result = .ok next → next = r) ∨
      ∃ later : Chronicle, turns.progress = later.marks ∧ r.Fetched later result := by
  cases h with
  | failed hquiet =>
    exact Or.inl ⟨Chronicle.progress_of_quiet hquiet, fun next hnext => by cases hnext⟩
  | empty hquiet =>
    exact Or.inl ⟨Chronicle.progress_of_quiet hquiet, fun next hnext => (Except.ok.inj hnext).symm⟩
  | @full looked restarted started _ hquiet hrestart hresult =>
    have hmarks : Chronicle.marks (⟨.observe .memoryFull, ()⟩ :: restarted) = [.memoryFull] :=
      congrArg (Mark.memoryFull :: ·) (Session.marks_restart hrestart)
    refine Or.inl ⟨?_, ?_⟩
    · rw [Chronicle.progress, Chronicle.marks_append, hquiet, hmarks]
      rfl
    · rintro next rfl
      cases started with
      | error e => cases hresult
      | ok _ => exact Except.ok.inj hresult
  | fetched hquiet hfetched =>
    refine Or.inr ⟨_, ?_, hfetched⟩
    rw [Chronicle.progress_append, Chronicle.progress_of_quiet hquiet, List.nil_append]
    exact Chronicle.progress_eq_marks hfetched.memoryFull_notMem

theorem Looked.session_eq (h : r.Looked turns (.ok next)) : next.session = r.session := by
  obtain ⟨-, hsame⟩ | ⟨later, -, hfetched⟩ := h.progress
  · rw [hsame next rfl]
  · cases hfetched
    rfl

/-- A poll that succeeds adds the same frames to the record and to the chronicle. -/
theorem Told.of_ok (h : r.Told t fetches) (hmissing : r.number < r.required)
    (hlooked : r.Looked turns (.ok next)) :
    next.required = r.required ∧ ∃ fetches, next.Told (t ++ turns) fetches := by
  obtain ⟨hquiet, hsame⟩ | ⟨later, hprogress, hfetched⟩ := hlooked.progress
  · obtain rfl := hsame next rfl
    exact ⟨rfl, fetches, h.quiet hquiet⟩
  · cases hfetched with
    | kept hstart hstop hmarks =>
      exact ⟨rfl, _, h.record hmissing hstart hstop (hprogress.trans hmarks)⟩

/-- A poll that fails has no `fetched` event. -/
theorem Told.of_error {e : DeviceError} (h : r.Told t fetches)
    (hlooked : r.Looked turns (.error e)) :
    ∃ lost, Chronicle.progress (t ++ turns) = Mark.rows r.required fetches ++ lost ∧
      lost <+: Mark.fetching r.isLast := by
  rw [Chronicle.progress_append, h.progress]
  obtain ⟨hquiet, -⟩ | ⟨later, hprogress, hfetched⟩ := hlooked.progress
  · rw [hquiet]
    exact ⟨[], rfl, List.nil_prefix⟩
  · cases hfetched with
    | lost hmarks =>
      rw [hprogress]
      exact ⟨later.marks, rfl, hmarks⟩

/-- After a `memoryFull` event within a poll, the rest of the poll is a restart. -/
theorem Looked.full_inv {result : Except DeviceError Reader} (h : r.Looked turns result)
    {before after : Chronicle} (hturns : turns = before ++ ⟨.observe .memoryFull, ()⟩ :: after) :
    ∃ started, (Activity.attempt (restart r.session)).run.Unfolds after started ∧
      result = started.map fun _ => r := by
  cases h with
  | failed hquiet | empty hquiet => exact absurd hturns (Chronicle.ne_of_quiet hquiet)
  | full hquiet hrestart hresult =>
    obtain ⟨-, -, rfl⟩ := (List.append_cons_inj_of_notMem (Chronicle.notMem_of_quiet hquiet)
      (Chronicle.notMem_of_quiet (Session.marks_restart hrestart))).mp hturns
    exact ⟨_, hrestart, hresult⟩
  | fetched hquiet hfetched =>
    obtain hmem | hmem := List.mem_append.mp
      (hturns ▸ List.mem_append_right before List.mem_cons_self)
    · exact absurd hmem (Chronicle.notMem_of_quiet hquiet)
    · exact absurd hmem (Chronicle.notMem_of_marks hfetched.memoryFull_notMem)

theorem unfolds_restart {s : Session} {started : Except DeviceError Unit}
    (ht : (Activity.attempt (restart s)).run.Unfolds t started) :
    (∃ e, (Activity.attempt s.frames.clear).run.Unfolds t (.error e) ∧ started = .error e) ∨
      ∃ cleared fired, t = cleared ++ fired ∧
        (Activity.attempt s.frames.clear).run.Unfolds cleared (.ok ()) ∧
        (Activity.attempt s.fire).run.Unfolds fired started := by
  unfold restart at ht
  rw [Activity.attempt_bind] at ht
  obtain hfailed | ⟨_, cleared, fired, hboth⟩ := Interaction.unfolds_attempt_bind_iff.mp ht
  · exact Or.inl hfailed
  · exact Or.inr ⟨cleared, fired, hboth⟩

/-- Every poll begins with `status`. -/
theorem status_of_unfolds {result : Except DeviceError Reader} (ht : r.poll.run.Unfolds t result) :
    ∃ looked later flags, t = looked ++ later ∧
      (Activity.attempt r.session.status).run.Unfolds looked flags := by
  obtain ⟨flags, looked, later, rfl, hlook, -⟩ := Interaction.unfolds_bind_iff.mp ht
  exact ⟨looked, later, flags, rfl, hlook⟩

end Reader

/-- A mark within two lists that follow each other is in one of them. -/
private theorem append_eq_append_cons {α : Type} {first second before after : List α} {x : α}
    (h : first ++ second = before ++ x :: after) :
    (∃ rest, first = before ++ x :: rest ∧ after = rest ++ second) ∨
      ∃ rest, second = rest ++ x :: after := by
  obtain ⟨rest, -, hsecond⟩ | ⟨rest, rfl, hrest⟩ := List.append_eq_append_iff.mp h
  · exact Or.inr ⟨rest, hsecond⟩
  · cases rest with
    | nil => exact Or.inr ⟨[], hrest.symm⟩
    | cons y rest =>
      obtain ⟨rfl, rfl⟩ := List.cons.inj hrest
      exact Or.inl ⟨rest, rfl, rfl⟩

namespace Stage

/-- These deeds lead the worker of a device from a stage to the result that it closes with. -/
inductive Reads (plan : ReadingPlan) (device : Nat) : Stage → Chronicle → WorkerResult → Prop
  | closed (s : Session) (result : WorkerResult) : Reads plan device (.closing s result) [] result
  | onward {stage next : Stage} {turns later : Chronicle} {result : WorkerResult}
    (hact : (stage.act plan device).Unfolds turns (.inl next))
    (hnext : Reads plan device next later result) : Reads plan device stage (turns ++ later) result

variable {plan : ReadingPlan} {device : Nat} {s : Session} {r : Reader} {t : Chronicle}
  {result : WorkerResult}

theorem reads_closing {outcome : WorkerResult}
    (h : Reads plan device (.closing s outcome) t result) : t = [] ∧ result = outcome := by
  cases h with
  | closed => exact ⟨rfl, rfl⟩
  | onward hact hnext =>
    -- A worker that closes its session leaves, and does not come to a stage any more.
    obtain ⟨_, _, _, -, -, hleft⟩ := Interaction.unfolds_bind_iff.mp hact
    obtain ⟨-, hleaving⟩ := Interaction.unfolds_done_iff.mp hleft
    cases hleaving
    cases hnext with
    | onward hact _ =>
      obtain ⟨_, _, _, hover⟩ := Interaction.unfolds_ask_iff.mp hact
      obtain ⟨-, hover⟩ := Interaction.unfolds_done_iff.mp hover
      cases hover

/-- An attempt in a stage leads to the stage of its value, or ends the reading. -/
theorem unfolds_afterAttempt {α : Type} {x : Activity (Except DeviceError α)} {stage : α → Stage}
    {turns : Chronicle} {next : Stage}
    (hact : (do return afterAttempt s ((← x).map stage)).Unfolds turns (.inl next)) :
    (∃ a, x.Unfolds turns (.ok a) ∧ next = stage a) ∨
      ∃ e, x.Unfolds turns (.error e) ∧ next = .closing s (.error (.device e)) := by
  obtain ⟨outcome, before, after, rfl, hx, hdone⟩ := Interaction.unfolds_bind_iff.mp hact
  obtain ⟨rfl, hstage⟩ := Interaction.unfolds_done_iff.mp hdone
  rw [List.append_nil]
  cases outcome with
  | ok a => exact Or.inl ⟨a, hx, Sum.inl.inj hstage⟩
  | error e => exact Or.inr ⟨e, hx, Sum.inl.inj hstage⟩

/-- A reading of no frames is over at once, without a deed. -/
theorem reads_starting_none_iff (hnone : plan.required = 0) :
    Reads plan device (.starting s) t result ↔ t = [] ∧ result = .ok (.new device) := by
  have hact : (starting s).act plan device = .done (.inl (.closing s (.ok (.new device)))) := by
    unfold act
    rw [hnone]
    rfl
  constructor
  · rintro (_ | ⟨hstarting, hnext⟩)
    rw [hact] at hstarting
    obtain ⟨rfl, hstage⟩ := Interaction.unfolds_done_iff.mp hstarting
    cases hstage
    exact reads_closing hnext
  · rintro ⟨rfl, rfl⟩
    change Reads plan device (starting s) ([] ++ []) _
    refine .onward ?_ (.closed s _)
    rw [hact]
    exact .done _

/-- A reading of some frames starts an acquisition, if there is memory for its record. -/
theorem reads_starting (hsome : plan.required ≠ 0)
    (h : Reads plan device (.starting s) t result) :
    (t.marks = [] ∧ ∃ e, result = .error e) ∨
      ∃ started later, t = started ++ later ∧ Chronicle.marks started = [] ∧
        Reads plan device (.polling ⟨s, plan.required, 0, .new device⟩) later result := by
  cases h with
  | onward hact hnext =>
    simp only [act] at hact
    cases hlack : WorkerReport.shortage? plan.room plan.required with
    | some lack =>
      rw [hlack] at hact
      obtain ⟨rfl, hstage⟩ := Interaction.unfolds_done_iff.mp hact
      cases hstage
      obtain ⟨rfl, rfl⟩ := reads_closing hnext
      exact Or.inl ⟨rfl, _, rfl⟩
    | none =>
      rw [hlack] at hact
      simp only [if_neg hsome] at hact
      obtain ⟨_, hstarted, rfl⟩ | ⟨e, hstarted, rfl⟩ := unfolds_afterAttempt hact
      · exact Or.inr ⟨_, _, rfl, Session.marks_restart hstarted, hnext⟩
      · obtain ⟨rfl, rfl⟩ := reads_closing hnext
        rw [List.append_nil]
        exact Or.inl ⟨Session.marks_restart hstarted, _, rfl⟩

/-- A reading goes on poll by poll until all frames are there or a poll fails. -/
theorem Reads.polling_induction {motive : Reader → Chronicle → WorkerResult → Prop}
    (complete : ∀ r, ¬ r.number < r.required → motive r [] (.ok r.report))
    (failed : ∀ r turns e, r.number < r.required → r.poll.run.Unfolds turns (.error e) →
      motive r turns (.error (.device e)))
    (polled : ∀ r turns next later result, r.number < r.required →
      r.poll.run.Unfolds turns (.ok next) → Reads plan device (.polling next) later result →
      motive next later result → motive r (turns ++ later) result)
    (h : Reads plan device (.polling r) t result) : motive r t result := by
  generalize hstage : Stage.polling r = stage at h
  induction h generalizing r with
  | closed => cases hstage
  | onward hact hnext ih =>
    subst hstage
    simp only [act] at hact
    by_cases hmissing : r.number < r.required
    · rw [if_pos hmissing] at hact
      obtain ⟨next, hpoll, rfl⟩ | ⟨e, hpoll, rfl⟩ := unfolds_afterAttempt hact
      · exact polled r _ next _ _ hmissing hpoll hnext (ih rfl)
      · obtain ⟨rfl, rfl⟩ := reads_closing hnext
        rw [List.append_nil]
        exact failed r _ e hmissing hpoll
    · rw [if_neg hmissing] at hact
      obtain ⟨rfl, hstage⟩ := Interaction.unfolds_done_iff.mp hact
      cases hstage
      obtain ⟨rfl, rfl⟩ := reads_closing hnext
      exact complete r hmissing

/-- The rows of a reader so far are the first rows of the whole reading. -/
theorem Reads.tells (h : Reads plan device (.polling r) t result) (hsome : r.required ≠ 0)
    {before : Chronicle} {fetches : List (Nat × Frame)} (htold : r.Told before fetches) :
    Chronicle.Tells r.required (before ++ t) result := by
  refine Reads.polling_induction (motive := fun r t result => r.required ≠ 0 →
    ∀ before fetches, r.Told before fetches → Chronicle.Tells r.required (before ++ t) result)
    ?_ ?_ ?_ h hsome before fetches htold
  -- Every poll keeps `Told`; where the polls end, the result is read off it.
  · intro r hover hsome before fetches htold
    have hnumber : r.number = r.required := by
      have hwithin := htold.within
      omega
    obtain ⟨hstart, hstop, hlast⟩ := htold.last hnumber
    rw [List.append_nil]
    refine ⟨fetches, htold.number.symm.trans hnumber, htold.progress, htold.latencies, hstart,
      hstop, ?_, hlast⟩
    have hfetched : fetches ≠ [] := by
      rintro rfl
      exact hsome (hnumber.symm.trans htold.number)
    rw [hlast, Option.isSome_map, List.getLast?_isSome]
    exact hfetched
  · intro r turns e hmissing hpoll _ before fetches htold
    obtain ⟨lost, hprogress, hlost⟩ := htold.of_error (Reader.looked_of_unfolds hpoll)
    refine ⟨fetches, lost, htold.number ▸ hmissing, hprogress, ?_⟩
    rw [← htold.number]
    exact hlost
  · intro r turns next later result hmissing hpoll _ ih hsome before fetches htold
    obtain ⟨hrequired, fetches, htold⟩ := htold.of_ok hmissing (Reader.looked_of_unfolds hpoll)
    rw [← List.append_assoc, ← hrequired]
    exact ih (hrequired ▸ hsome) _ fetches htold

/-- A reader that misses frames begins with `status`. -/
theorem Reads.looks (h : Reads plan device (.polling r) t result)
    (hmissing : r.number < r.required) :
    ∃ looked later flags, t = looked ++ later ∧
      (Activity.attempt r.session.status).run.Unfolds looked flags := by
  refine Reads.polling_induction (motive := fun r t _ => r.number < r.required →
    ∃ looked later flags, t = looked ++ later ∧
      (Activity.attempt r.session.status).run.Unfolds looked flags) ?_ ?_ ?_ h hmissing
  · exact fun r hover hmissing => absurd hmissing hover
  · exact fun r turns e _ hpoll _ => Reader.status_of_unfolds hpoll
  · intro r turns next later result _ hpoll _ _ _
    obtain ⟨looked, rest, flags, rfl, hlook⟩ := Reader.status_of_unfolds hpoll
    exact ⟨looked, rest ++ later, flags, List.append_assoc .., hlook⟩

/-- A `memoryFull` event is followed by `clear` and `fire`. -/
theorem Reads.restarted (h : Reads plan device (.polling r) t result) {before after : Chronicle}
    (ht : t = before ++ ⟨.observe .memoryFull, ()⟩ :: after) :
    r.session.Restarted after result := by
  refine Reads.polling_induction (motive := fun r t result => ∀ before after : Chronicle,
    t = before ++ ⟨.observe .memoryFull, ()⟩ :: after → r.session.Restarted after result)
    ?_ ?_ ?_ h before after ht
  · exact fun r _ before after ht => absurd ht (Chronicle.ne_of_quiet rfl)
  · intro r turns e _ hpoll before after hturns
    obtain ⟨started, hrestart, hstarted⟩ := (Reader.looked_of_unfolds hpoll).full_inv hturns
    cases started with
    | ok _ => cases hstarted
    | error e' =>
      cases hstarted
      obtain ⟨_, hclear, heq⟩ | ⟨cleared, fired, rfl, hclear, hfire⟩ :=
        Reader.unfolds_restart hrestart
      · cases heq
        exact .uncleared hclear
      · exact .unfired hclear hfire
  · intro r turns next later result hmissing hpoll hnext ih before after ht
    have hlooked := Reader.looked_of_unfolds hpoll
    -- The full memory was told of in this poll, or later.
    obtain ⟨rest, hturns, rfl⟩ | ⟨rest, hlater⟩ := append_eq_append_cons ht
    · obtain ⟨started, hrestart, hstarted⟩ := hlooked.full_inv hturns
      cases started with
      | error e => cases hstarted
      | ok _ =>
        cases hstarted
        obtain ⟨_, _, heq⟩ | ⟨cleared, fired, rfl, hclear, hfire⟩ :=
          Reader.unfolds_restart hrestart
        · cases heq
        · obtain ⟨looked, rest, flags, rfl, hlook⟩ := hnext.looks hmissing
          rw [← List.append_assoc]
          exact .goesOn hclear hfire hlook
    · exact hlooked.session_eq ▸ ih rest after hlater

end Stage

/-- The chronicle of a reading by one open session, over every driver. With `required = 0` it makes
no request and returns the empty report. Otherwise the `fetched` events are numbered from zero and
only the last one has its flag set; before that fetch, and after the event of the fetch before,
comes one `wait`. A report follows all events, with the latencies of all fetches, the instants of
the last one and its frame; an error comes before them, after the `wait` only if just the last frame
is missing. Each `memoryFull` event is followed by `clear` and `fire`, and then by `status` or by
their error. -/
theorem Session.reading_told_frame_by_frame (plan : ReadingPlan) (device : Nat) (s : Session) :
    (plan.required = 0 → ∀ t result, Stage.Reads plan device (.starting s) t result ↔
      t = [] ∧ result = .ok (.new device)) ∧
    ∀ t result, Stage.Reads plan device (.starting s) t result →
      (plan.required ≠ 0 → Chronicle.Tells plan.required t result) ∧
      ∀ before after, t = before ++ ⟨.observe .memoryFull, ()⟩ :: after →
        s.Restarted after result := by
  refine ⟨fun hnone _ _ => Stage.reads_starting_none_iff hnone, fun t result hreads => ?_⟩
  by_cases hnone : plan.required = 0
  · obtain ⟨rfl, -⟩ := (Stage.reads_starting_none_iff hnone).mp hreads
    exact ⟨fun hsome => absurd hnone hsome, fun _ _ ht => absurd ht (Chronicle.ne_of_quiet rfl)⟩
  · obtain ⟨hquiet, e, rfl⟩ | ⟨started, later, rfl, hquiet, hpolling⟩ :=
      Stage.reads_starting hnone hreads
    · refine ⟨fun hsome => ?_, fun _ _ ht => absurd ht (Chronicle.ne_of_quiet hquiet)⟩
      exact ⟨[], [], Nat.pos_of_ne_zero hsome, Chronicle.progress_of_quiet hquiet, List.nil_prefix⟩
    · have htold : Reader.Told ⟨s, plan.required, 0, .new device⟩ started [] :=
        ⟨rfl, Nat.zero_le _, Chronicle.progress_of_quiet hquiet, rfl,
          fun h => absurd h.symm hnone⟩
      refine ⟨fun hsome => hpolling.tells hsome htold, fun before after ht => ?_⟩
      obtain ⟨rest, hstarted, -⟩ | ⟨rest, hlater⟩ := append_eq_append_cons ht
      · exact absurd hstarted (Chronicle.ne_of_quiet hquiet)
      · exact hpolling.restarted hlater

/-- A reading of two frames that finds `memoryFull` at its first poll. -/
theorem Session.reading_of_two_told_frame_by_frame :
    let s : Session := ⟨none, ⟨⟨1⟩, true⟩, none, none, .ring, .software⟩
    let asked (r : Request) (value : r.Value) : Interaction.Turn Deed Deed.Answer :=
      ⟨.say (.call (.operate ⟨1⟩ r)), .ok value⟩
    let started : Chronicle := [asked .clearMemory (), asked .trigger ()]
    let status (full : Bool) := asked .getStatus ⟨⟨!full, full⟩, 1⟩
    let got (sample : UInt16) : Chronicle := [status false,
      ⟨.say (.call (.pixelsInFrame ⟨1⟩)), some 47⟩,
      asked (.getFrame 0 47) (List.replicate 32 0 ++ sample :: List.replicate 14 0)]
    let first : Chronicle := [status false, status false, ⟨.readClock, (10 : Nat)⟩] ++ got 5 ++
      [⟨.readClock, (12 : Nat)⟩, ⟨.observe (.fetched 0 2 ⟨[5]⟩ false), ()⟩]
    let last : Chronicle := [status false, status false, ⟨.wait, (20 : Nat)⟩,
      ⟨.readClock, (21 : Nat)⟩, ⟨.readClock, (22 : Nat)⟩] ++ got 6 ++ [⟨.readClock, (25 : Nat)⟩,
      ⟨.readClock, (26 : Nat)⟩, ⟨.observe (.fetched 1 3 ⟨[6]⟩ true), ()⟩]
    let t : Chronicle := started ++ ([status true, ⟨.observe .memoryFull, ()⟩] ++ started ++
      (first ++ last))
    let result : WorkerResult := .ok ⟨0, [3, 2], some 21, some 26, some ⟨[6]⟩⟩
    Stage.Reads ⟨fun _ => pure s, 2, 0x100000⟩ 0 (.starting s) t result ∧
      Chronicle.Tells 2 t result ∧ s.Restarted (started ++ (first ++ last)) result := by
  intro s asked started status got first last t result
  have hreads : Stage.Reads ⟨fun _ => pure s, 2, 0x100000⟩ 0 (.starting s) t result := by
    refine .onward (.ask _ (.ask _ (.done _))) ?_
    refine .onward (.ask _ (.ask _ (.ask _ (.ask _ (.done _))))) ?_
    refine .onward (.ask _ (.ask _ (.ask _ (.ask _ (.ask _ (.ask _ (.ask _ (.ask _
      (.done _))))))))) ?_
    rw [← List.append_nil last]
    refine .onward (.ask _ (.ask _ (.ask _ (.ask _ (.ask _ (.ask _ (.ask _ (.ask _ (.ask _
      (.ask _ (.ask _ (.done _)))))))))))) ?_
    change Stage.Reads _ _ _ ([] ++ []) _
    exact .onward (.done _) (.closed _ _)
  obtain ⟨htells, hrestarted⟩ :=
    (reading_told_frame_by_frame ⟨fun _ => pure s, 2, 0x100000⟩ 0 s).2 t result hreads
  exact ⟨hreads, htells (by decide), hrestarted (started ++ [status true]) _ rfl⟩

end Spectrometer

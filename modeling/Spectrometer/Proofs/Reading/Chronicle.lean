import Spectrometer.Proofs.Reading.Attendance
import Spectrometer.Proofs.Session.Action
import Spectrometer.Proofs.Unfolding

/-!
The deeds of a reading of one device, in their order. A `Chronicle` lists deeds with their answers;
its marks are the events, the fetches and the waiting. The laws here give the marks of everything a
reader does in one poll, whatever the driver answers, whenever the barrier is released and whatever
the clock shows.
-/

namespace Spectrometer

/-- Deeds and what came of them, one after the other. -/
abbrev Chronicle := List (Interaction.Turn Deed Deed.Answer)

/-- A deed that the order of a reading is stated by: a fetch, the waiting or an event. -/
inductive Mark
  | memoryFull
  | wait
  /-- A call for a frame. -/
  | fetch
  | told (number latency : Nat) (frame : Frame) (last : Bool)
  deriving DecidableEq, Repr

def Deed.mark? : Deed → Option Mark
  | say u => if u.asksFrame then some .fetch else none
  | observe .memoryFull => some .memoryFull
  | observe (.fetched number latency frame last) => some (.told number latency frame last)
  | wait => some .wait
  | readClock | leave => none

namespace Chronicle

def marks (t : Chronicle) : List Mark := t.filterMap (·.question.mark?)

@[simp] theorem marks_append (t t' : Chronicle) : marks (t ++ t') = t.marks ++ t'.marks :=
  List.filterMap_append

end Chronicle

namespace Activity

variable {α β : Type}

/-- A turn of a dialogue as one of the activity that it is part of. -/
def said (turn : Interaction.Turn Utterance Utterance.Answer) : Interaction.Turn Deed Deed.Answer :=
  ⟨.say turn.question, turn.answer⟩

theorem unfolds_say_iff {d : Dialogue α} {t : Chronicle} {a : α} :
    (say d).Unfolds t a ↔ ∃ turns, t = turns.map said ∧ d.Unfolds turns a := by
  constructor
  · intro h
    induction d generalizing t with
    | done b =>
      obtain ⟨rfl, rfl⟩ := Interaction.unfolds_done_iff.mp h
      exact ⟨[], rfl, .done _⟩
    | ask u next ih =>
      obtain ⟨(answer : u.Answer), rest, rfl, hrest⟩ := Interaction.unfolds_ask_iff.mp h
      obtain ⟨turns, rfl, hturns⟩ := ih answer hrest
      exact ⟨⟨u, answer⟩ :: turns, rfl, .ask answer hturns⟩
  · rintro ⟨turns, rfl, h⟩
    induction h with
    | done b => exact .done b
    | @ask u next turns b answer _ ih => exact .ask (show (Deed.say u).Answer from answer) ih

theorem say_bind (d : Dialogue α) (f : α → Dialogue β) :
    say (d >>= f) = say d >>= fun a => say (f a) := by
  induction d with
  | done a => rfl
  | ask u next ih => exact congrArg (Interaction.ask _) (funext ih)

theorem attempt_bind (x : Attempt α) (f : α → Attempt β) :
    attempt (x >>= f) = attempt x >>= fun a => attempt (f a) := by
  apply ExceptT.ext
  change say (x.run >>= _) = _
  rw [ExceptT.run_bind, say_bind]
  congr 1
  funext result
  cases result <;> rfl

end Activity

/-- An attempt through a handle leaves no mark unless it may ask for frames. -/
theorem Attempt.Through.marks_eq_nil {α : Type} {h : Handle} {kind : Request → Prop} {a : Attempt α}
    (ha : Attempt.Through h kind a) (hkind : ∀ index length, ¬ kind (.getFrame index length))
    {t : Chronicle} {result : Except DeviceError α}
    (ht : (Activity.attempt a).run.Unfolds t result) : t.marks = [] := by
  obtain ⟨turns, rfl, hturns⟩ := Activity.unfolds_say_iff.mp ht
  apply List.filterMap_eq_nil_iff.mpr
  intro turn hturn
  obtain ⟨x, hx, rfl⟩ := List.mem_map.mp hturn
  have hthrough := (Interaction.Obeys.of_unfolds ha hturns).1 x hx
  have hasks : x.question.asksFrame = false := hthrough.asksFrame_eq_false hkind
  change (if x.question.asksFrame then some Mark.fetch else none) = none
  rw [hasks]
  rfl

/-- What asks for one frame asks for it once, and has asked for it if it got it. -/
def FetchMarked {α : Type} (t : Chronicle) : Except DeviceError α → Prop
  | .ok _ => t.marks = [.fetch]
  | .error _ => t.marks <+: [.fetch]

theorem FetchMarked.after {α : Type} {t t' : Chronicle} {result : Except DeviceError α}
    (ht : t.marks = []) (h : FetchMarked t' result) : FetchMarked (t ++ t') result := by
  unfold FetchMarked at h ⊢
  rw [Chronicle.marks_append, ht]
  exact h

theorem Handle.fetchMarked_frame {h : Handle} {index : UInt16} {t : Chronicle}
    {result : Except DeviceError Frame}
    (ht : (Activity.attempt (h.frame index)).run.Unfolds t result) : FetchMarked t result := by
  obtain ⟨ctx, connected⟩ := h
  cases connected with
  | true =>
    obtain ⟨size, _, rfl, hasked⟩ := Interaction.unfolds_ask_iff.mp ht
    obtain ⟨reply, _, rfl, hreplied⟩ := Interaction.unfolds_ask_iff.mp hasked
    cases reply with
    | ok samples =>
      obtain ⟨rfl, rfl⟩ := Interaction.unfolds_done_iff.mp hreplied
      exact rfl
    | error code =>
      obtain ⟨rfl, rfl⟩ := Interaction.unfolds_done_iff.mp hreplied
      exact List.prefix_refl _
  | false =>
    obtain ⟨rfl, rfl⟩ := Interaction.unfolds_done_iff.mp ht
    exact List.nil_prefix

theorem Memory.fetchMarked_get {m : Memory} {index : Nat} {t : Chronicle}
    {result : Except DeviceError Frame}
    (ht : (Activity.attempt (m.get index)).run.Unfolds t result) : FetchMarked t result := by
  obtain ⟨kind, h⟩ := m
  cases kind with
  | latestFrame => exact Handle.fetchMarked_frame ht
  | ring =>
    unfold get at ht
    have hlength : Attempt.Through h (· = .getStatus) (length ⟨.ring, h⟩) :=
      through_length ⟨.ring, h⟩ rfl
    rw [Activity.attempt_bind, Interaction.unfolds_attempt_bind_iff] at ht
    obtain ⟨e, hcounted, rfl⟩ | ⟨length, counted, fetched, rfl, hcounted, ht⟩ := ht
    · change t.marks <+: _
      rw [hlength.marks_eq_nil nofun hcounted]
      exact List.nil_prefix
    · refine .after (hlength.marks_eq_nil nofun hcounted) ?_
      split at ht
      · exact Handle.fetchMarked_frame ht
      · obtain ⟨rfl, rfl⟩ := Interaction.unfolds_done_iff.mp ht
        exact List.nil_prefix

namespace Mark

/-- The marks of a fetch: before the last one the reader waits. -/
def fetching (last : Bool) : List Mark := if last then [wait, fetch] else [fetch]

/-- The marks of frame `number`, up to its telling. -/
def row (required number : Nat) (fetch : Nat × Frame) : List Mark :=
  let last := number + 1 == required
  fetching last ++ [told number fetch.1 fetch.2 last]

end Mark

namespace Session

variable {s : Session} {t : Chronicle}

theorem marks_status {status : Except DeviceError StatusFlags}
    (ht : (Activity.attempt s.status).run.Unfolds t status) : t.marks = [] :=
  s.through_status.marks_eq_nil nofun ht

theorem marks_isEmpty {empty : Except DeviceError Bool}
    (ht : (Activity.attempt s.frames.isEmpty).run.Unfolds t empty) : t.marks = [] :=
  s.through_isEmpty.marks_eq_nil nofun ht

theorem marks_restart {started : Except DeviceError Unit}
    (ht : (Activity.attempt (Reader.restart s)).run.Unfolds t started) : t.marks = [] :=
  (Reader.through_restart s).marks_eq_nil (by simp) ht

end Session

namespace Reader

/-- How a fetch ends: with an error and no event, or with an event for a frame that is recorded. -/
inductive Fetched (r : Reader) (t : Chronicle) : Except DeviceError Reader → Prop
  | lost {e : DeviceError} (hmarks : t.marks <+: Mark.fetching r.isLast) : Fetched r t (.error e)
  | kept {before after : Instant} {start stop : Option Instant} {frame : Frame}
    (hstart : start.isSome = r.isLast) (hstop : stop.isSome = r.isLast)
    (hmarks : t.marks = Mark.row r.required r.number (after - before, frame)) :
    Fetched r t (.ok (r.record before after start stop frame))

variable {r : Reader} {t : Chronicle} {result : Except DeviceError Reader}

private theorem unfolds_readClock {f : Instant → ExceptT DeviceError Activity Reader}
    (ht : (liftM Activity.readClock >>= f).run.Unfolds t result) :
    ∃ now later, t.marks = Chronicle.marks later ∧ (f now).run.Unfolds later result := by
  obtain ⟨now, later, rfl, hlater⟩ := Interaction.unfolds_ask_iff.mp ht
  exact ⟨now, later, rfl, hlater⟩

theorem unfolds_fetchNow {start : Option Instant} (ht : (r.fetchNow start).run.Unfolds t result) :
    (∃ e, result = .error e ∧ t.marks <+: [.fetch]) ∨
      ∃ before after stop frame, result = .ok (r.record before after start stop frame) ∧
        stop.isSome = r.isLast ∧
        t.marks = [.fetch, .told r.number (after - before) frame r.isLast] := by
  obtain ⟨before, attempted, hmarks, hattempted⟩ := unfolds_readClock ht
  rw [hmarks]
  obtain ⟨e, hgot, rfl⟩ | ⟨frame, got, later, rfl, hgot, hlater⟩ :=
    Interaction.unfolds_attempt_bind_iff.mp hattempted
  · exact Or.inl ⟨e, rfl, Memory.fetchMarked_get hgot⟩
  · have hfetch : Chronicle.marks got = [.fetch] := Memory.fetchMarked_get hgot
    obtain ⟨after, stopped, hstopped, hstop⟩ := unfolds_readClock hlater
    rw [Chronicle.marks_append, hfetch, hstopped]
    refine Or.inr ⟨before, after, ?_⟩
    by_cases hlast : r.isLast = true
    · rw [if_pos hlast] at hstop
      obtain ⟨stop, _, rfl, htold⟩ := Interaction.unfolds_ask_iff.mp hstop
      obtain ⟨_, _, rfl, hover⟩ := Interaction.unfolds_ask_iff.mp htold
      obtain ⟨rfl, rfl⟩ := Interaction.unfolds_done_iff.mp hover
      exact ⟨some stop, frame, rfl, hlast.symm, rfl⟩
    · rw [if_neg hlast] at hstop
      obtain ⟨_, _, rfl, hover⟩ := Interaction.unfolds_ask_iff.mp hstop
      obtain ⟨rfl, rfl⟩ := Interaction.unfolds_done_iff.mp hover
      exact ⟨none, frame, rfl, (Bool.eq_false_iff.mpr hlast).symm, rfl⟩

/-- Before its last frame a reader waits, and then it fetches. -/
theorem waited_of_unfolds (ht : r.fetch.run.Unfolds t result) :
    ∃ waited start later, t.marks = waited ++ Chronicle.marks later ∧
      Mark.fetching r.isLast = waited ++ [.fetch] ∧ Option.isSome start = r.isLast ∧
      (r.fetchNow start).run.Unfolds later result := by
  rw [fetch_eq] at ht
  by_cases hlast : r.isLast = true
  · rw [if_pos hlast] at ht
    obtain ⟨release, waited, rfl, hwaited⟩ := Interaction.unfolds_ask_iff.mp ht
    obtain ⟨start, later, hmarks, hlater⟩ := unfolds_readClock hwaited
    refine ⟨[.wait], some start, later, congrArg (Mark.wait :: ·) hmarks, ?_, hlast.symm, hlater⟩
    rw [hlast]
    rfl
  · rw [if_neg hlast] at ht
    have hfalse := Bool.eq_false_iff.mpr hlast
    refine ⟨[], none, t, rfl, ?_, hfalse.symm, ht⟩
    rw [hfalse]
    rfl

theorem fetched_of_unfolds (ht : r.fetch.run.Unfolds t result) : r.Fetched t result := by
  obtain ⟨waited, start, later, hmarks, hfetching, hstart, hlater⟩ := waited_of_unfolds ht
  obtain ⟨e, rfl, hlost⟩ | ⟨before, after, stop, frame, rfl, hstop, hkept⟩ :=
    unfolds_fetchNow hlater
  · refine .lost ?_
    rw [hmarks, hfetching]
    exact (List.prefix_append_right_inj waited).mpr hlost
  · refine .kept hstart hstop ?_
    rw [hmarks, hkept, Mark.row, ← isLast, hfetching, List.append_assoc]
    rfl

/-- How a poll can end: it fails or finds the memory empty, which leaves no mark; it finds the
memory full and starts anew; or it fetches a frame. -/
inductive Looked (r : Reader) : Chronicle → Except DeviceError Reader → Prop
  | failed {t : Chronicle} {e : DeviceError} (hquiet : t.marks = []) : Looked r t (.error e)
  | empty {t : Chronicle} (hquiet : t.marks = []) : Looked r t (.ok r)
  | full {looked restarted : Chronicle} {started : Except DeviceError Unit}
    {result : Except DeviceError Reader} (hquiet : looked.marks = [])
    (hrestart : (Activity.attempt (restart r.session)).run.Unfolds restarted started)
    (hresult : result = started.map fun _ => r) :
    Looked r (looked ++ ⟨.observe .memoryFull, ()⟩ :: restarted) result
  | fetched {looked later : Chronicle} {result : Except DeviceError Reader}
    (hquiet : looked.marks = []) (hfetched : r.Fetched later result) :
    Looked r (looked ++ later) result

theorem looked_of_unfolds (ht : r.poll.run.Unfolds t result) : r.Looked t result := by
  unfold poll at ht
  obtain ⟨e, hlooked, rfl⟩ | ⟨flags, looked, later, rfl, hlooked, hlater⟩ :=
    Interaction.unfolds_attempt_bind_iff.mp ht
  · exact .failed (Session.marks_status hlooked)
  · by_cases hfull : flags.memoryFull = true
    · rw [if_pos hfull] at hlater
      obtain ⟨_, restarted, rfl, hrestarted⟩ := Interaction.unfolds_ask_iff.mp hlater
      obtain ⟨e, hrestart, rfl⟩ | ⟨_, restarted, rest, rfl, hrestart, hover⟩ :=
        Interaction.unfolds_attempt_bind_iff.mp hrestarted
      · exact .full (Session.marks_status hlooked) hrestart rfl
      · obtain ⟨rfl, rfl⟩ := Interaction.unfolds_done_iff.mp hover
        rw [List.append_nil]
        exact .full (Session.marks_status hlooked) hrestart rfl
    · rw [if_neg hfull] at hlater
      obtain ⟨e, hcounted, rfl⟩ | ⟨empty, counted, later, rfl, hcounted, hlater⟩ :=
        Interaction.unfolds_attempt_bind_iff.mp hlater
      · refine .failed ?_
        rw [Chronicle.marks_append, Session.marks_status hlooked, Session.marks_isEmpty hcounted]
        rfl
      · have hquiet : Chronicle.marks (looked ++ counted) = [] := by
          rw [Chronicle.marks_append, Session.marks_status hlooked, Session.marks_isEmpty hcounted]
          rfl
        rw [← List.append_assoc]
        cases empty with
        | true =>
          obtain ⟨rfl, rfl⟩ := Interaction.unfolds_done_iff.mp hlater
          rw [List.append_nil]
          exact .empty hquiet
        | false => exact .fetched hquiet (fetched_of_unfolds hlater)

end Reader

end Spectrometer

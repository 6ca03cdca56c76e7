import Spectrometer.Driver.Script
import Spectrometer.Emulator.Basic
import Spectrometer.Proofs.Journal
import Spectrometer.Proofs.Session.Connection

/-!
Setting up an external trigger. The session sends the setups of `setupsTo`, one call for each, and
stops at the first that fails. Its trigger then is the last setup that was accepted, or what it was
before.
-/

namespace Spectrometer

/-- The setups on the way to the wanted one. An external trigger changes its mode first and its
edges then, each where it is another one; any other trigger is set up at once. -/
def Trigger.setupsTo (mode : ExternalMode) (edge : SignalEdge) : Trigger → List ExternalTrigger
  | .external t =>
    (if t.mode = mode then [] else [⟨mode, t.edge⟩]) ++
      if t.edge = edge then [] else [⟨mode, edge⟩]
  | .software | .optical => [⟨mode, edge⟩]

/-- The trigger after these setups were accepted. -/
def Trigger.after (trigger : Trigger) (accepted : List ExternalTrigger) : Trigger :=
  accepted.getLast?.elim trigger .external

@[simp] theorem Trigger.after_nil (trigger : Trigger) : trigger.after [] = trigger := rfl

@[simp] theorem Trigger.after_cons (trigger : Trigger) (t : ExternalTrigger)
    (rest : List ExternalTrigger) :
    trigger.after (t :: rest) = (Trigger.external t).after rest := by
  cases rest with
  | nil => rfl
  | cons next rest => simp [after, List.getLast?_cons]

/-- The way leads to the wanted setup. -/
theorem Trigger.after_setupsTo (trigger : Trigger) (mode : ExternalMode) (edge : SignalEdge) :
    trigger.after (trigger.setupsTo mode edge) = .external ⟨mode, edge⟩ := by
  cases trigger with
  | software | optical => rfl
  | external t =>
    by_cases hmode : t.mode = mode
    · by_cases hedge : t.edge = edge
      · simp [setupsTo, ← hmode, ← hedge]
      · simp [setupsTo, hmode, hedge]
    · by_cases hedge : t.edge = edge
      · simp [setupsTo, hmode, hedge]
      · simp [setupsTo, hmode, hedge]

/-- The call for a setup, and the reply it got. -/
def ExternalTrigger.exchange (t : ExternalTrigger) (ctx : Context)
    (reply : Except ResultCode Unit) : Exchange :=
  ⟨.operate ctx (.setExternalTrigger t.mode t.edge), reply⟩

namespace Session

variable {W : Type} {s : Session}

/-- Asks for setups one after the other, up to the first that is refused. -/
def sendSetups (s : Session) :
    List ExternalTrigger → Dialogue (Session × Except DeviceError Unit)
  | [] => return (s, .ok ())
  | t :: rest => do
    match ← (s.handle.request (.setExternalTrigger t.mode t.edge)).run with
    | .ok () => (s.setTrigger (.external t)).sendSetups rest
    | .error e => return (s, .error e)

/-- Once the mode is right there are the edges left to change. -/
theorem setEdge_eq_sendSetups {t : ExternalTrigger} (htrigger : s.trigger = .external t)
    (edge : SignalEdge) :
    (do
      let (t, result) ← (do
        match ← t.setEdge s.handle edge with
        | (t, .error e) => return (t, .error e)
        | (t, .ok _) => return (t, .ok ()))
      return ({ s with trigger := .external t }, result)) =
      s.sendSetups (if t.edge = edge then [] else [⟨t.mode, edge⟩]) := by
  have hsame : { s with trigger := .external t } = s := by rw [← htrigger]
  unfold ExternalTrigger.setEdge
  by_cases hedge : t.edge = edge
  · simp only [if_pos hedge, pure_bind, hsame, sendSetups]
  · simp only [if_neg hedge, bind_assoc, sendSetups]
    congr 1
    funext result
    cases result with
    | ok value => rfl
    | error e => simp only [pure_bind, hsame]

theorem configureExternalTrigger_eq_sendSetups (s : Session) (mode : ExternalMode)
    (edge : SignalEdge) :
    s.configureExternalTrigger mode edge = s.sendSetups (s.trigger.setupsTo mode edge) := by
  unfold configureExternalTrigger
  cases htrigger : s.trigger with
  | software | optical =>
    simp only [ExternalTrigger.new, ExceptT.run_bind, bind_assoc, Trigger.setupsTo, sendSetups]
    congr 1
    funext result
    cases result <;> rfl
  | external t =>
    have hsame : { s with trigger := .external t } = s := by rw [← htrigger]
    simp only [ExternalTrigger.configure, ExternalTrigger.setMode, Trigger.setupsTo]
    by_cases hmode : t.mode = mode
    · simp only [if_pos hmode, pure_bind, List.nil_append]
      exact (setEdge_eq_sendSetups htrigger edge).trans (by rw [hmode])
    · simp only [if_neg hmode, bind_assoc, List.singleton_append, sendSetups]
      congr 1
      funext result
      cases result with
      | error e => exact congrArg (fun s => Interaction.done (s, Except.error e)) hsame
      | ok value =>
        simp only [pure_bind]
        exact setEdge_eq_sendSetups (s := s.setTrigger (.external { t with mode })) rfl edge

/-- Setups are asked for until all are accepted, or up to the first that is refused. The session's
trigger is the last of those that were accepted. -/
theorem run_sendSetups (link : Link W) (hconnected : s.isConnected = true)
    (setups : List ExternalTrigger) (j : Journal W) :
    let run := (s.sendSetups setups).run (Journal.link link).reply j
    (run.1 = (s.setTrigger (s.trigger.after setups), .ok ()) ∧
      run.2.exchanges.reverse =
        j.exchanges.reverse ++ setups.map (·.exchange s.handle.ctx (.ok ()))) ∨
    ∃ accepted t rest code, setups = accepted ++ t :: rest ∧
      run.1 = (s.setTrigger (s.trigger.after accepted), .error (.ofCode code)) ∧
      run.2.exchanges.reverse =
        j.exchanges.reverse ++ accepted.map (·.exchange s.handle.ctx (.ok ())) ++
          [t.exchange s.handle.ctx (.error code)] := by
  induction setups generalizing s j with
  | nil => exact Or.inl ⟨rfl, by simp [sendSetups]⟩
  | cons t rest ih =>
    intro run
    cases hlink : link (.operate s.handle.ctx (.setExternalTrigger t.mode t.edge)) j.world with
    | mk reply w =>
      have hjournal := Journal.link_of_eq hlink
      cases reply with
      | error code =>
        have hrun : run = ((s, .error (.ofCode code)),
            ⟨w, t.exchange s.handle.ctx (.error code) :: j.exchanges⟩) := by
          simp only [run, sendSetups, Interaction.run_bind,
            Handle.run_request_error hconnected hjournal]
          rfl
        refine Or.inr ⟨[], t, rest, code, rfl, ?_, ?_⟩
        · rw [hrun]
          rfl
        · simp [hrun]
      | ok value =>
        let next : Journal W := ⟨w, t.exchange s.handle.ctx (.ok ()) :: j.exchanges⟩
        have hrun : run =
            ((s.setTrigger (.external t)).sendSetups rest).run (Journal.link link).reply next := by
          simp only [run, sendSetups, Interaction.run_bind,
            Handle.run_request_ok hconnected hjournal]
          rfl
        rw [hrun]
        obtain ⟨hall, hexchanges⟩ | ⟨accepted, refused, rest, code, rfl, hstopped, hexchanges⟩ :=
          ih (s := s.setTrigger (.external t)) hconnected next
        · refine Or.inl ⟨?_, ?_⟩
          · rw [hall, Trigger.after_cons]
            rfl
          · rw [hexchanges]
            simp [next, setTrigger]
        · refine Or.inr ⟨t :: accepted, refused, rest, code, rfl, ?_, ?_⟩
          · rw [hstopped, Trigger.after_cons]
            rfl
          · rw [hexchanges]
            simp [next, setTrigger]

/-- `configureExternalTrigger` on a connected session, over every driver, sends the setups of
`setupsTo` in their order, each by one `setExternalTrigger` request. If all succeed, the trigger is
the wanted one. Otherwise the failing request is the last one, its code is the error, and the
trigger is the last setup that succeeded, or unchanged if none did. No other field of the session
changes. -/
theorem external_trigger_is_last_accepted (link : Link W) (w : W)
    (hconnected : s.isConnected = true) (mode : ExternalMode) (edge : SignalEdge) :
    let run := (s.configureExternalTrigger mode edge).run (Journal.link link).reply ⟨w, []⟩
    (run.1 = (s.setTrigger (.external ⟨mode, edge⟩), .ok ()) ∧
      run.2.exchanges.reverse =
        (s.trigger.setupsTo mode edge).map (·.exchange s.handle.ctx (.ok ()))) ∨
    ∃ accepted t rest code, s.trigger.setupsTo mode edge = accepted ++ t :: rest ∧
      run.1 = (s.setTrigger (s.trigger.after accepted), .error (.ofCode code)) ∧
      run.2.exchanges.reverse = accepted.map (·.exchange s.handle.ctx (.ok ())) ++
        [t.exchange s.handle.ctx (.error code)] := by
  intro run
  have hsent := run_sendSetups link hconnected (s.trigger.setupsTo mode edge) ⟨w, []⟩
  rw [← configureExternalTrigger_eq_sendSetups, Trigger.after_setupsTo] at hsent
  simpa only [List.reverse_nil, List.nil_append] using hsent

/-- A driver that lets the new mode pass and turns the new edges down leaves the session with the
one and without the other. -/
theorem external_trigger_keeps_accepted_mode :
    let x := course (Scripted.link Emulator.link)
      [.connect, .configureExternalTrigger .enabled ⟨true, false⟩]
      (new none, ⟨[⟨.setExternalTrigger, none, [none, none, some (refusal .writeFailed)]⟩],
        .new .default⟩)
    let run := (x.1.configureExternalTrigger .oneTime ⟨false, true⟩).run
      (Journal.link (Scripted.link Emulator.link)).reply ⟨x.2, []⟩
    x.1.isConnected = true ∧ run.1.1.trigger = .external ⟨.oneTime, ⟨true, false⟩⟩ ∧
      ∃ accepted t rest code,
        x.1.trigger.setupsTo .oneTime ⟨false, true⟩ = accepted ++ t :: rest ∧
        run.1 = (x.1.setTrigger (x.1.trigger.after accepted), .error (.ofCode code)) ∧
        run.2.exchanges.reverse = accepted.map (·.exchange x.1.handle.ctx (.ok ())) ++
          [t.exchange x.1.handle.ctx (.error code)] := by
  intro x run
  have hconnected : x.1.isConnected = true := by decide
  have htrigger : run.1.1.trigger = .external ⟨.oneTime, ⟨true, false⟩⟩ := by decide
  refine ⟨hconnected, htrigger, ?_⟩
  obtain ⟨hall, -⟩ | hrefused := external_trigger_is_last_accepted (Scripted.link Emulator.link) x.2
    hconnected .oneTime ⟨false, true⟩
  · rw [show run.1 = _ from hall] at htrigger
    cases htrigger
  · exact hrefused

end Session

end Spectrometer

import Spectrometer.Proofs.Emulator.Effect
import Spectrometer.Proofs.Journal
import Spectrometer.Proofs.Session.Connection

/-!
What a connecting call that the driver accepts leads to. The settings are read on the new context,
and the session is connected just if both reads succeed. A read that fails is the last one: the
context is released again, and nothing is left of what the session knew before but its serial
number.
-/

namespace Spectrometer

namespace Journal

variable {W : Type}

/-- An exchange is written down in front of the older ones. -/
theorem exchanges_of_link {inner : Link W} {c : Call} {j j' : Journal W} {reply : c.Reply}
    (hlink : link inner c j = (reply, j')) : j'.exchanges = ⟨c, reply⟩ :: j.exchanges := by
  cases hlink
  rfl

end Journal

namespace Session

variable {W : Type}

/-- The reads of the settings on a context, up to the first that fails. -/
inductive FailedReads (ctx : Context) (code : ResultCode) : List Exchange → Prop
  | acquisition : FailedReads ctx code [⟨.operate ctx .getAcquisition, .error code⟩]
  | format (p : Acquisition) : FailedReads ctx code
      [⟨.operate ctx .getAcquisition, .ok p⟩, ⟨.operate ctx .getFormat, .error code⟩]

/-- The settings are what both reads say, or the error is that of the first read that fails. -/
theorem exchanges_loadSettings (link : Link W) (ctx : Context) (j : Journal W) :
    let run := (loadSettings ⟨ctx, true⟩).run.run (Journal.link link).reply j
    (∃ p f, run.1 = .ok (p, f) ∧ run.2.exchanges.reverse = j.exchanges.reverse ++
        [⟨.operate ctx .getAcquisition, .ok p⟩, ⟨.operate ctx .getFormat, .ok f⟩]) ∨
      ∃ code reads, FailedReads ctx code reads ∧ run.1 = .error (.ofCode code) ∧
        run.2.exchanges.reverse = j.exchanges.reverse ++ reads := by
  intro run
  obtain ⟨code, j₁, hfirst, hrun⟩ | ⟨p, j₁, hfirst, hrest⟩ :=
    loadSettings_cases (Journal.link link) ctx j
  · refine Or.inr ⟨code, _, .acquisition, congrArg Prod.fst hrun, ?_⟩
    simp only [run, hrun, Journal.exchanges_of_link hfirst, List.reverse_cons]
  · obtain ⟨code, j₂, hsecond, hrun⟩ | ⟨f, j₂, hsecond, hrun⟩ := hrest
    · refine Or.inr ⟨code, _, .format p, congrArg Prod.fst hrun, ?_⟩
      simp [run, hrun, Journal.exchanges_of_link hsecond, Journal.exchanges_of_link hfirst]
    · refine Or.inl ⟨p, f, congrArg Prod.fst hrun, ?_⟩
      simp [run, hrun, Journal.exchanges_of_link hsecond, Journal.exchanges_of_link hfirst]

/-- `connect` after the driver has accepted the connecting call. If both reads succeed, the session
holds the new context, the acquisition parameters and the format that they returned, and the memory
of their mode; no other call was made. If one fails, the result is its error, the new context is
released by one `disconnect` whose reply is ignored, and the session equals `new s.serial`, whose
`drop` makes no call. -/
theorem connected_or_new_again (link : Link W) (s : Session) {w w₁ : W} {ctx : Context}
    (haccepted : link (.connectBySerial s.serial s.handle.ctx) w = ((ctx, .ok ()), w₁)) :
    let run := s.connect.run (Journal.link link).reply ⟨w, []⟩
    let opened : Exchange := ⟨.connectBySerial s.serial s.handle.ctx, (ctx, .ok ())⟩
    (∃ p f, run.1 = ({ s with handle := ⟨ctx, true⟩, acquisition := some p, frame := some f,
                              memory := .ofMode p.mode }, .ok ()) ∧
        run.2.exchanges.reverse = [opened, ⟨.operate ctx .getAcquisition, .ok p⟩,
          ⟨.operate ctx .getFormat, .ok f⟩]) ∨
      ∃ code reads released, FailedReads ctx code reads ∧
        run.1 = (new s.serial, .error (.ofCode code)) ∧
        run.2.exchanges.reverse = opened :: reads ++ [⟨.disconnect ctx, released⟩] ∧
        run.1.1.drop = pure () := by
  intro run opened
  have hopened := Journal.link_of_eq (j := ⟨w, []⟩) haccepted
  obtain ⟨ctx', code, j', hrefused, -⟩ | ⟨ctx', j₁, hlink, hloaded⟩ :=
    connect_cases (Journal.link link) s ⟨w, []⟩
  · cases hopened.symm.trans hrefused
  · cases hopened.symm.trans hlink
    have hexchanges := exchanges_loadSettings link ctx ⟨w₁, [opened]⟩
    obtain ⟨e, j₂, hload, hrun⟩ | ⟨p, f, j₂, hload, hrun⟩ := hloaded
    · rw [hload] at hexchanges
      obtain ⟨_, _, hok, -⟩ | ⟨code, reads, hreads, herror, hasked⟩ := hexchanges
      · cases hok
      · cases herror
        refine Or.inr ⟨code, reads, (link (.disconnect ctx) j₂.world).1, hreads, ?_, ?_, ?_⟩
        · exact congrArg Prod.fst hrun
        · have hall : run.2.exchanges =
              ⟨.disconnect ctx, (link (.disconnect ctx) j₂.world).1⟩ :: j₂.exchanges :=
            congrArg (·.2.exchanges) hrun
          simp [hall, hasked]
        · simp only [run, hrun]
          rfl
    · rw [hload] at hexchanges
      obtain ⟨_, _, hok, hasked⟩ | ⟨_, _, -, herror, -⟩ := hexchanges
      · cases hok
        refine Or.inl ⟨p, f, congrArg Prod.fst hrun, ?_⟩
        have hall : run.2.exchanges = j₂.exchanges := congrArg (·.2.exchanges) hrun
        simp [hall, hasked]
      · cases herror

/-- A connected session, with settings and a trigger of its own, connects again. The read of the
format fails, and so does the `disconnect` of the new context. -/
theorem reconnected_is_new_again :
    let x := course Emulator.link
      [.connect, .setScans 5, .configureExternalTrigger .enabled ⟨true, false⟩] (new none, .twin)
    let e := (x.2.failNext .getFormat .readFailed).failNext .disconnect .writeFailed
    let run := x.1.connect.run (Journal.link Emulator.link).reply ⟨e, []⟩
    x.1.isConnected = true ∧ x.1.trigger = .external ⟨.enabled, ⟨true, false⟩⟩ ∧
      ∃ w₁, Emulator.link (.connectBySerial x.1.serial x.1.handle.ctx) e = ((⟨2⟩, .ok ()), w₁) ∧
        ∃ code reads released, FailedReads ⟨2⟩ code reads ∧
          run.1 = (new x.1.serial, .error (.ofCode code)) ∧
          run.2.exchanges.reverse =
            ⟨.connectBySerial x.1.serial x.1.handle.ctx, (⟨2⟩, .ok ())⟩ :: reads ++
              [⟨.disconnect ⟨2⟩, released⟩] ∧
          run.1.1.drop = pure () := by
  intro x e
  dsimp only
  have haccepted : Emulator.link (.connectBySerial x.1.serial x.1.handle.ctx) e =
      ((⟨2⟩, .ok ()), (e.enter .connectBySerial).2.attach 0 ⟨1⟩ |>.2) := rfl
  have hfailed : (x.1.connect.run (Journal.link Emulator.link).reply ⟨e, []⟩).1.2.isOk = false := by
    decide
  refine ⟨by decide, by decide, _, haccepted, ?_⟩
  obtain ⟨p, f, hrun, -⟩ | hagain := connected_or_new_again Emulator.link x.1 haccepted
  · rw [hrun] at hfailed
    cases hfailed
  · exact hagain

end Session

end Spectrometer

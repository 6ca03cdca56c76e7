import Spectrometer.Proofs.Emulator.InPlace

/-!
Calls that are refused. A waiting fault, a context that stands for nothing, a device that is
unplugged and the arguments all make the emulator refuse calls, each at another step. Whichever it
is, nothing has been done by then except that the call was counted and the fault taken.
-/

namespace Spectrometer.Emulator

/-- All that sets the second emulator apart is that a call of this kind was counted, and that the
fault which waited for it is gone. -/
structure OnlyCounted (e : Emulator) (o : Operation) (e' : Emulator) : Prop where
  readLimit : e'.readLimit = e.readLimit
  devices : e'.devices = e.devices
  contexts : e'.contexts = e.contexts
  next : e'.nextContext = e.nextContext
  count : e'.callCount o = e.callCount o + 1
  fault : e'.fault? o = none
  others : ∀ o', o' ≠ o → e'.callCount o' = e.callCount o' ∧ e'.fault? o' = e.fault? o'

theorem onlyCounted_enter (e : Emulator) (o : Operation) : OnlyCounted e o (e.enter o).2 where
  readLimit := rfl
  devices := rfl
  contexts := rfl
  next := rfl
  count := callCount_enter e o
  fault := fault?_enter e o
  others o' hne := by
    have hindex : o.index ≠ o'.index := fun hindex => hne (Operation.index_injective hindex).symm
    exact ⟨callCount_enter_of_ne hindex, fault?_enter_of_ne hindex⟩

variable {e : Emulator} {c : Call} {code : ResultCode}

/-- A call that is refused has only been entered, and leaves the caller with the context that it
carried. -/
theorem link_refused (hrefused : c.outcome (link c e).1 = .error code) :
    (link c e).2 = (e.enter c.operation).2 ∧
      c.contextAfter (link c e).1 = c.context?.getD .null := by
  cases c with
  | devicesCount | devicesInfo | pixelsInFrame => cases hrefused
  | connectBySerial serial ctx =>
    obtain ⟨_, heq⟩ | ⟨_, -, heq⟩ := link_connectBySerial_cases e serial ctx
    · rw [heq]
      exact ⟨rfl, rfl⟩
    · rw [heq] at hrefused
      cases hrefused
  | connectByIndex index ctx =>
    obtain ⟨_, heq⟩ | ⟨_, -, heq⟩ := link_connectByIndex_cases e index ctx
    · rw [heq]
      exact ⟨rfl, rfl⟩
    · rw [heq] at hrefused
      cases hrefused
  | disconnect ctx =>
    obtain ⟨_, heq⟩ | heq := link_disconnect_cases e ctx
    · rw [heq]
      exact ⟨rfl, rfl⟩
    · rw [heq] at hrefused
      cases hrefused
  | operate ctx r => exact ⟨link_operate_error (Prod.ext hrefused rfl), rfl⟩

/-- In every reachable state, a call that the emulator refuses changes nothing but its own counter
and pending fault. `carryOut` runs the call statement by statement on the emulator, the caller's
context and the caller's buffers: wherever it fails, context, buffers, devices, live contexts and
the next context are those from before, as they are in the reply of `link`. -/
theorem refused_calls_only_counted (config : EmulatorConfig) (events : List Event) (c : Call)
    (b : Buffers) {code : ResultCode}
    (hrefused : c.outcome (link c ((new config).after events)).1 = .error code) :
    let e := (new config).after events
    let ctx := c.context?.getD .null
    (Scene.carryOut c).on ⟨e, ctx, b⟩ = (.error code, ⟨(link c e).2, ctx, b⟩) ∧
      c.contextAfter (link c e).1 = ctx ∧ c.buffersAfter (link c e).1 b = b ∧
      OnlyCounted e c.operation (link c e).2 := by
  intro e ctx
  have hwellFormed : e.WellFormed config.memoryFrames := (wellFormed_new config).after events
  obtain ⟨hentered, hcontext⟩ := link_refused hrefused
  have hbuffers : c.buffersAfter (link c e).1 b = b := Call.buffersAfter_of_refused hrefused b
  refine ⟨?_, hcontext, hbuffers, hentered ▸ onlyCounted_enter e c.operation⟩
  rw [Scene.carryOut_eq hwellFormed, hrefused, hcontext, hbuffers]

/-- A frame that is not in memory, asked for with a buffer that holds something. -/
theorem missing_frame_only_counted :
    let e := engaged none
    let c : Call := .operate ⟨1⟩ (.getFrame 3 2)
    c.outcome (link c e).1 = .error .readFailed ∧
      (Scene.carryOut c).on ⟨e, ⟨1⟩, ⟨[7, 7], []⟩⟩ =
        (.error .readFailed, ⟨(link c e).2, ⟨1⟩, ⟨[7, 7], []⟩⟩) ∧
      OnlyCounted e .getFrame (link c e).2 := by
  intro e c
  have hrefused : c.outcome (link c e).1 = .error .readFailed := rfl
  obtain ⟨hinPlace, -, -, hcounted⟩ := refused_calls_only_counted ⟨["A"], 4, none⟩
    [.call (.connectBySerial none .null)] c ⟨[7, 7], []⟩ hrefused
  exact ⟨hrefused, hinPlace, hcounted⟩

end Spectrometer.Emulator

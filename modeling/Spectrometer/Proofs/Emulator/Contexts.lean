import Mathlib.Data.List.Nodup
import Spectrometer.Proofs.Emulator.Live
import Spectrometer.Proofs.Emulator.WellFormed

/-!
The life of contexts. Every connecting call gives out a number that was never given out before, and
a context that its owner gives up leaves the table. Together this is why an old context is dead for
good, whatever else is said to the emulator.
-/

namespace Spectrometer

namespace Exchange

/-- The context that a connecting call gave out. -/
def given? : Exchange → Option Context
  | ⟨.connectBySerial .., (ctx, .ok _)⟩ | ⟨.connectByIndex .., (ctx, .ok _)⟩ => some ctx
  | _ => none

/-- The context that its owner gave up, for another one or for none, where this was accepted. -/
def taken? : Exchange → Option Context
  | ⟨.connectBySerial _ old, (_, .ok _)⟩ | ⟨.connectByIndex _ old, (_, .ok _)⟩
  | ⟨.disconnect old, (_, .ok _)⟩ => some old
  | _ => none

end Exchange

namespace Emulator

/-- A call together with the reply that the emulator has for it. -/
def exchange (e : Emulator) (c : Call) : Exchange := ⟨c, (link c e).1⟩

namespace Event

/-- The context that is given out where the event is a call that connects. -/
def given? (e : Emulator) (event : Event) : Option Context :=
  (event.call?.map e.exchange).bind Exchange.given?

/-- The context that is given up where the event is a call that renews one. -/
def taken? (e : Emulator) (event : Event) : Option Context :=
  (event.call?.map e.exchange).bind Exchange.taken?

end Event

/-- The contexts that are given out while the events happen, earliest first. -/
def given (e : Emulator) : List Event → List Context
  | [] => []
  | event :: rest => (event.given? e).toList ++ (event.apply e).given rest

/-- How the contexts in use change: those given out join them, under the next number, and those
given up leave. -/
structure Turnover (e : Emulator) (given taken : Option Context) (e' : Emulator) : Prop where
  live : e'.live = given.toList ++ e.live.filter (some · ≠ taken)
  next : e'.nextContext = e.nextContext + given.toList.length
  given : ∀ ctx, given = some ctx → ctx = ⟨e.nextContext⟩

variable {e e' : Emulator} {ctx : Context}

theorem Turnover.unchanged (hcontexts : e'.contexts = e.contexts)
    (hnext : e'.nextContext = e.nextContext) : Turnover e none none e' := by
  refine ⟨?_, hnext, nofun⟩
  rw [live_of_contexts_eq hcontexts]
  simp

theorem Turnover.renewed {old : Context} {i : Nat} (hcontexts : e'.contexts = e.contexts)
    (hnext : e'.nextContext = e.nextContext) :
    Turnover e (some ⟨e.nextContext⟩) (some old) (e'.attach i old).2 := by
  refine ⟨?_, congrArg (· + 1) hnext, fun _ hctx => (Option.some.inj hctx).symm⟩
  rw [live_attach, live_of_contexts_eq hcontexts, hnext]
  simp

theorem Turnover.released {old : Context} (hcontexts : e'.contexts = e.contexts)
    (hnext : e'.nextContext = e.nextContext) :
    Turnover e none (some old) (e'.forget old) := by
  refine ⟨?_, hnext, nofun⟩
  rw [live_forget, live_of_contexts_eq hcontexts]
  simp

theorem turnover_call (e : Emulator) (c : Call) :
    Turnover e (e.exchange c).given? (e.exchange c).taken? (link c e).2 := by
  cases c with
  | devicesCount | devicesInfo | pixelsInFrame => exact .unchanged rfl rfl
  | connectBySerial serial old =>
    obtain ⟨code, heq⟩ | ⟨i, -, heq⟩ := link_connectBySerial_cases e serial old
    · rw [exchange, heq]
      exact .unchanged rfl rfl
    · rw [exchange, heq]
      exact .renewed rfl rfl
  | connectByIndex index old =>
    obtain ⟨code, heq⟩ | ⟨i, -, heq⟩ := link_connectByIndex_cases e index old
    · rw [exchange, heq]
      exact .unchanged rfl rfl
    · rw [exchange, heq]
      exact .renewed rfl rfl
  | disconnect old =>
    obtain ⟨code, heq⟩ | heq := link_disconnect_cases e old
    · rw [exchange, heq]
      exact .unchanged rfl rfl
    · rw [exchange, heq]
      exact .released rfl rfl
  | operate ctx r =>
    obtain ⟨code, heq⟩ | ⟨_, _, _, _, _, _, _, heq⟩ := link_operate_cases e ctx r
    · rw [exchange, heq]
      exact .unchanged rfl rfl
    · rw [exchange, heq]
      exact .unchanged rfl rfl

/-- Only calls turn contexts over. -/
theorem turnover_apply (e : Emulator) (event : Event) :
    Turnover e (event.given? e) (event.taken? e) (event.apply e) := by
  cases event with
  | call c => exact turnover_call e c
  | failNext | resetCalls | forceFrames | reattach => exact .unchanged rfl rfl

/-- No connecting call gives out a context that is in use. -/
theorem Turnover.nodup {given taken : Option Context} (h : Turnover e given taken e')
    (hsound : e.Sound) (hlive : e.live.Nodup) : e'.live.Nodup := by
  rw [h.live]
  have hkept : (e.live.filter (some · ≠ taken)).Nodup := hlive.filter _
  cases given with
  | none => exact hkept
  | some new =>
    refine List.nodup_cons.mpr ⟨fun hold => ?_, hkept⟩
    have hlt := (hsound.of_mem_live (List.mem_filter.mp hold).1).2
    rw [h.given new rfl] at hlt
    exact Nat.lt_irrefl _ hlt

/-- The context was given out once and is no longer in use. -/
def Spent (e : Emulator) (ctx : Context) : Prop := ctx ∉ e.live ∧ ctx.raw < e.nextContext

/-- What is given up is spent. -/
theorem Turnover.spent_taken {given : Option Context} (h : Turnover e given (some ctx) e')
    (hsound : e.Sound) (hctx : ctx ∈ e.live) : e'.Spent ctx := by
  have hlt := (hsound.of_mem_live hctx).2
  refine ⟨fun hlive => ?_, by rw [h.next]; omega⟩
  rw [h.live] at hlive
  obtain hnew | hold := List.mem_append.mp hlive
  · rw [h.given ctx (Option.mem_toList.mp hnew)] at hlt
    exact Nat.lt_irrefl _ hlt
  · simpa using (List.mem_filter.mp hold).2

/-- What is spent stays so. -/
theorem Spent.turnover {given taken : Option Context} (hspent : e.Spent ctx)
    (h : Turnover e given taken e') : e'.Spent ctx := by
  have hlt := hspent.2
  refine ⟨fun hlive => ?_, by rw [h.next]; omega⟩
  rw [h.live] at hlive
  obtain hnew | hold := List.mem_append.mp hlive
  · rw [h.given ctx (Option.mem_toList.mp hnew)] at hlt
    exact Nat.lt_irrefl _ hlt
  · exact hspent.1 (List.mem_filter.mp hold).1

theorem Spent.after (hspent : e.Spent ctx) (events : List Event) : (e.after events).Spent ctx := by
  induction events generalizing e with
  | nil => exact hspent
  | cons event rest ih => exact ih (hspent.turnover (turnover_apply e event))

/-- Nothing is reached through the context: no request comes to a device, there is no frame size to
tell, and no connecting call is about to give it out. -/
structure Dead (e : Emulator) (ctx : Context) : Prop where
  operate : ∀ r, link (.operate ctx r) e =
    (.error ((e.enter r.operation).1.getD .deviceNotInitialized), (e.enter r.operation).2)
  pixelsInFrame : (link (.pixelsInFrame ctx) e).1 = none
  given : ∀ c, (e.exchange c).given? ≠ some ctx

theorem Spent.dead (hspent : e.Spent ctx) : e.Dead ctx := by
  have hlookup := lookup_eq_none hspent.1
  refine ⟨fun r => ?_, ?_, fun c hgiven => ?_⟩
  · have hdevice : (e.enter r.operation).2.deviceOf? ctx = none := by
      simp [deviceOf?, enter, hlookup]
    simp only [link]
    cases henter : e.enter r.operation with
    | mk fault e₁ =>
      rw [henter] at hdevice
      cases fault with
      | some code => rfl
      | none => simp [Emulator.operate, hdevice]
  · simp [link, hlookup]
  · have hlt := hspent.2
    rw [(turnover_call e c).given ctx hgiven] at hlt
    exact Nat.lt_irrefl _ hlt

/-- Contexts are numbered in the order in which they are given out. -/
theorem given_eq (e : Emulator) (events : List Event) :
    e.given events = (List.range' e.nextContext (e.given events).length).map Context.mk ∧
      (e.after events).nextContext = e.nextContext + (e.given events).length := by
  induction events generalizing e with
  | nil => exact ⟨rfl, rfl⟩
  | cons event rest ih =>
    obtain ⟨hrest, hlast⟩ := ih (event.apply e)
    obtain ⟨-, hnext, hgiven⟩ := turnover_apply e event
    change (e.after (event :: rest)).nextContext = _ at hlast
    cases hnew : event.given? e with
    | none =>
      rw [hnew] at hnext
      simp only [given, hnew, Option.toList_none, List.nil_append, hlast]
      rw [hnext] at hrest ⊢
      exact ⟨hrest, rfl⟩
    | some new =>
      rw [hnew] at hnext
      simp only [given, hnew, Option.toList_some, List.singleton_append, List.length_cons,
        List.range'_succ, List.map_cons, hlast]
      rw [hnext] at hrest ⊢
      refine ⟨?_, by simp only [Option.toList_some, List.length_singleton]; omega⟩
      rw [hgiven new hnew]
      exact congrArg (_ :: ·) hrest

/-- What is in use was in use before or was given out since. -/
theorem mem_live_after (e : Emulator) (events : List Event) (hctx : ctx ∈ (e.after events).live) :
    ctx ∈ e.live ∨ ctx ∈ e.given events := by
  induction events generalizing e with
  | nil => exact Or.inl hctx
  | cons event rest ih =>
    obtain hlive | hgiven := ih (event.apply e) hctx
    · rw [(turnover_apply e event).live] at hlive
      obtain hnew | hold := List.mem_append.mp hlive
      · exact Or.inr (List.mem_append_left _ hnew)
      · exact Or.inl (List.mem_filter.mp hold).1
    · exact Or.inr (List.mem_append_right _ hgiven)

theorem nodup_live_after (hsound : e.Sound) (hlive : e.live.Nodup) (events : List Event) :
    (e.after events).live.Nodup := by
  induction events generalizing e with
  | nil => exact hlive
  | cons event rest ih =>
    exact ih (event.sound hsound) ((turnover_apply e event).nodup hsound hlive)

/-- Over any sequence of events, the contexts that connecting calls give out are pairwise distinct.
The live contexts are among them, without repetition and without `null`, and each belongs to a
device. A context that a call replaces or releases is dead after every later sequence of events. Raw
numbers stay below `2 ^ 64` as long as fewer contexts than that are given out. -/
theorem contexts_never_return (config : EmulatorConfig) (events : List Event) :
    let e := (new config).after events
    let given := (new config).given events
    given.Nodup ∧
      (given.length < UInt64.size → ∀ ctx ∈ given, ctx.raw < UInt64.size) ∧
      .null ∉ e.live ∧ e.live.Nodup ∧ e.live ⊆ given ∧
      (∀ ctx, ctx ∈ e.live ↔ ∃ i d, e.deviceOf? ctx = some i ∧ e.devices[i]? = some d) ∧
      ∀ ctx ∈ e.live, ∀ c, (e.exchange c).taken? = some ctx →
        ∀ later, ((link c e).2.after later).Dead ctx := by
  intro e given
  have hsound : e.Sound := ((wellFormed_new config).after events).sound
  have hgiven : given = (List.range' 1 given.length).map Context.mk :=
    (given_eq (new config) events).1
  refine ⟨?_, ?_, ?_, ?_, ?_, fun ctx => hsound.mem_live_iff, ?_⟩
  · rw [hgiven]
    exact List.Nodup.map (fun a b hab => congrArg Context.raw hab) List.nodup_range'
  · intro hfew ctx hctx
    rw [hgiven] at hctx
    obtain ⟨raw, hraw, rfl⟩ := List.mem_map.mp hctx
    have hlast := (List.mem_range'_1.mp hraw).2
    show raw < UInt64.size
    omega
  · exact fun hnull => (hsound.of_mem_live hnull).1 rfl
  · exact nodup_live_after (sound_new config (new config).devices) List.nodup_nil events
  · intro ctx hctx
    exact (mem_live_after (new config) events hctx).resolve_left List.not_mem_nil
  · intro ctx hctx c htaken later
    have hturnover := turnover_call e c
    rw [htaken] at hturnover
    exact ((hturnover.spent_taken hsound hctx).after later).dead

/-- A context that its owner connects with once more. -/
theorem contexts_never_return_reconnected :
    (⟨1⟩ ∈ (engaged none).live ∧
      ((engaged none).exchange (.connectBySerial none ⟨1⟩)).taken? = some ⟨1⟩) ∧
      ∀ later, ((link (.connectBySerial none ⟨1⟩) (engaged none)).2.after later).Dead ⟨1⟩ := by
  have hlive : ⟨1⟩ ∈ (engaged none).live := by decide
  have htaken : ((engaged none).exchange (.connectBySerial none ⟨1⟩)).taken? = some ⟨1⟩ := by decide
  obtain ⟨-, -, -, -, -, -, hdead⟩ :=
    contexts_never_return ⟨["A"], 4, none⟩ [.call (.connectBySerial none .null)]
  exact ⟨⟨hlive, htaken⟩, hdead ⟨1⟩ hlive (.connectBySerial none ⟨1⟩) htaken⟩

end Emulator

end Spectrometer

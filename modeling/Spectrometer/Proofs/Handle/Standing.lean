import Spectrometer.Proofs.Handle

/-!
When a handle calls its driver. A connection stands once a connecting call has succeeded, until the
next one or until it is released; `standing?` computes it from the exchanges of the handle, whatever
the driver answers. Every request that needs a connection is made under the context of the standing
one, and fails without a call while there is none. A code that the driver returns comes back as an
error that carries it.
-/

namespace Spectrometer

namespace DeviceError

/-- The driver's number behind an error, if there is one. -/
def code? : DeviceError → Option ResultCode
  | connection .wrongId => some 500
  | connection .notFound => some 501
  | connection .failed => some 502
  | connection .wrongSerial => some 516
  | operation .deviceNotInitialized => some 503
  | operation .writeFailed => some 504
  | operation .readFailed => some 505
  | operation .wrongAnswer => some 506
  | operation .frameRemainingPackets => some 507
  | operation .framePacketCount => some 508
  | operation .inputNotInitialized => some 509
  | operation .flashRemainingPackets => some 510
  | operation .noDeviceContext => some 585
  | operation (.unexpected code) => some code
  | _ => none

/-- Giving a number a meaning loses nothing. -/
theorem code?_ofCode (code : ResultCode) : (ofCode code).code? = some code := by
  unfold ofCode
  split <;> rename_i hcode
  all_goals first
    | rfl
    | exact congrArg some (Int32.toInt_inj.mp hcode.symm)

end DeviceError

/-- Calls that are made on a standing connection only. -/
def Call.needsConnection : Call → Bool
  | disconnect _ | operate .. => true
  | _ => false

namespace Exchange

/-- The code of a refusal. -/
def refusal? {α : Type} : Except ResultCode α → Option ResultCode
  | .ok _ => none
  | .error code => some code

theorem refusal?_eq_some_iff {α : Type} {verdict : Except ResultCode α} {code : ResultCode} :
    refusal? verdict = some code ↔ verdict = .error code := by
  cases verdict with
  | ok a => exact ⟨nofun, nofun⟩
  | error code' => exact ⟨fun heq => congrArg _ (Option.some.inj heq), fun heq => by cases heq; rfl⟩

/-- The code with which the driver refused, if it did. -/
def code? : Exchange → Option ResultCode
  | ⟨.connectBySerial .., (_, verdict)⟩ | ⟨.connectByIndex .., (_, verdict)⟩
  | ⟨.disconnect _, (_, verdict)⟩ => refusal? verdict
  | ⟨.operate .., verdict⟩ => refusal? verdict
  | _ => none

/-- The context of the connection that stands after some exchanges, latest first: the one that the
last connecting call left behind, if it succeeded and nothing was disconnected since. -/
def standing? : List Exchange → Option Context
  | [] => none
  | ⟨.connectBySerial .., (ctx, verdict)⟩ :: _ | ⟨.connectByIndex .., (ctx, verdict)⟩ :: _ =>
    if verdict.isOk then some ctx else none
  | ⟨.disconnect _, _⟩ :: _ => none
  | ⟨.operate .., _⟩ :: earlier | ⟨.pixelsInFrame _, _⟩ :: earlier | ⟨.devicesCount, _⟩ :: earlier
  | ⟨.devicesInfo, _⟩ :: earlier => standing? earlier

/-- Each call that needs a connection was made under the context of the one that stood. -/
def OnStanding (exchanges : List Exchange) : Prop :=
  ∀ later x earlier, exchanges = later ++ x :: earlier → x.call.needsConnection = true →
    x.call.context? = standing? earlier

theorem OnStanding.cons {x : Exchange} {earlier : List Exchange} (h : OnStanding earlier)
    (hx : x.call.needsConnection = true → x.call.context? = standing? earlier) :
    OnStanding (x :: earlier) := by
  rintro (_ | ⟨y, later⟩) x' earlier' heq hneeds
  · cases heq
    exact hx hneeds
  · cases heq
    exact h later x' earlier' rfl hneeds

/-- An outcome fits the exchanges that led to it: a refusal by the driver is its error, and there is
no other error than that of a handle which is not connected and did not call. -/
structure Explains {α : Type} (connected : Bool) (own : List Exchange)
    (outcome : Except DeviceError α) : Prop where
  refused : ∀ x ∈ own, ∀ code, x.code? = some code → outcome = .error (.ofCode code)
  error : ∀ e, outcome = .error e →
    (∃ x ∈ own, ∃ code, x.code? = some code ∧ e = .ofCode code) ∨
      connected = false ∧ own = [] ∧ e = .notConnected

end Exchange

open Exchange

namespace Handle

variable {W : Type}

/-- The context of a connected handle. -/
def standing? (h : Handle) : Option Context := if h.connected then some h.ctx else none

theorem standing?_eq_some_iff {h : Handle} {ctx : Context} :
    h.standing? = some ctx ↔ h.connected = true ∧ h.ctx = ctx := by
  unfold standing?
  split <;> simp [*]

/-- Everything that can be done with a handle. -/
inductive Action
  | connect (serial : Option String)
  | connectByIndex (index : UInt32)
  | disconnect
  | request (r : Request)
  | status
  | framesInMemory
  | frameSize
  | rawFrame (index : UInt16)
  | frame (index : UInt16)

namespace Action

/-- What an action that succeeds hands back. -/
abbrev Value : Action → Type
  | request r => r.Value
  | status => StatusFlags
  | framesInMemory | frameSize => UInt16
  | rawFrame _ => List UInt16
  | frame _ => Frame
  | _ => Unit

/-- An attempt that leaves the handle as it is. -/
def keeping {α : Type} (h : Handle) (a : Attempt α) : Dialogue (Handle × Except DeviceError α) :=
  return (h, ← a.run)

theorem run_keeping {α : Type} (link : Link W) (h : Handle) (a : Attempt α) (w : W) :
    (keeping h a).run link.reply w =
      ((h, (a.run.run link.reply w).1), (a.run.run link.reply w).2) :=
  Interaction.run_bind _ _ _ _

/-- The handle after an action and how the action ended. -/
def perform (h : Handle) : (a : Action) → Dialogue (Handle × Except DeviceError a.Value)
  | connect serial => h.connect serial
  | connectByIndex index => h.connectByIndex index
  | disconnect => h.disconnect
  | request r => keeping h (h.request r)
  | status => keeping h h.status
  | framesInMemory => keeping h h.framesInMemory
  | frameSize => keeping h (ExceptT.lift h.frameSize)
  | rawFrame index => keeping h (h.rawFrame index)
  | frame index => keeping h (h.frame index)

/-- The connecting calls and `pixelsInFrame` are made without a connection as well. -/
def needsConnection : Action → Bool
  | connect _ | connectByIndex _ | frameSize => false
  | _ => true

/-- The handle and the driver after an action. -/
def step (link : Link W) (x : Handle × W) (a : Action) : Handle × W :=
  let ((h, _), w) := (a.perform x.1).run link.reply x.2
  (h, w)

end Action

/-- The handle and the driver after some actions, one after the other. -/
def course (link : Link W) (actions : List Action) (x : Handle × W) : Handle × W :=
  actions.foldl (Action.step link) x

/-- A handle is connected as the exchanges say, and all calls were made on a standing connection. -/
structure Kept (h : Handle) (exchanges : List Exchange) : Prop where
  onStanding : OnStanding exchanges
  standing : h.standing? = Exchange.standing? exchanges

theorem kept_new : new.Kept [] where
  onStanding := by
    intro later x earlier heq
    cases later <;> cases heq
  standing := rfl

/-- What goes through a handle is said on the connection that it has. -/
theorem Kept.keeping {α : Type} {h : Handle} {j : Journal W} (hkept : h.Kept j.exchanges)
    (link : Link W) {a : Attempt α} (ha : Attempt.Through h (fun _ => True) a) :
    ((Action.keeping h a).run (Journal.link link).reply j).1.1.Kept
      ((Action.keeping h a).run (Journal.link link).reply j).2.exchanges := by
  rw [Action.run_keeping]
  let keeps (j : Journal W) : Prop := h.Kept j.exchanges
  suffices hstep : ∀ u j, Utterance.Through h (fun _ => True) u → keeps j →
      keeps ((Journal.link link).reply u j).2 from ha.run_keeps hstep hkept
  rintro (c | _) j hu hj
  · cases c with
    | operate ctx r =>
      obtain ⟨hconnected, rfl, -⟩ := hu
      refine ⟨hj.onStanding.cons fun _ => ?_, hj.standing⟩
      rw [← hj.standing, standing?, if_pos hconnected]
      rfl
    | pixelsInFrame ctx => exact ⟨hj.onStanding.cons nofun, hj.standing⟩
    | _ => cases hu
  · exact hj

theorem standing?_afterConnect (reply : Context × Except ResultCode Unit) :
    (afterConnect reply).1.standing? = if reply.2.isOk then some reply.1 else none := rfl

/-- Every action leaves the handle connected as its exchanges say. -/
theorem Kept.perform {h : Handle} {j : Journal W} (hkept : h.Kept j.exchanges) (link : Link W)
    (a : Action) :
    ((a.perform h).run (Journal.link link).reply j).1.1.Kept
      ((a.perform h).run (Journal.link link).reply j).2.exchanges := by
  cases a with
  | connect serial => exact ⟨hkept.onStanding.cons nofun, standing?_afterConnect _⟩
  | connectByIndex index => exact ⟨hkept.onStanding.cons nofun, standing?_afterConnect _⟩
  | disconnect =>
    change (h.disconnect.run _ j).1.1.Kept (h.disconnect.run _ j).2.exchanges
    rw [run_disconnect]
    by_cases hconnected : h.connected = true
    · rw [if_pos hconnected]
      refine ⟨hkept.onStanding.cons fun _ => ?_, rfl⟩
      rw [← hkept.standing, standing?, if_pos hconnected]
      rfl
    · rw [if_neg hconnected]
      exact hkept
  | request r => exact hkept.keeping link (h.through_request trivial)
  | status => exact hkept.keeping link (h.through_status trivial)
  | framesInMemory => exact hkept.keeping link (h.through_framesInMemory trivial)
  | frameSize => exact hkept.keeping link (a := ExceptT.lift h.frameSize) ⟨rfl, fun _ => trivial⟩
  | rawFrame index => exact hkept.keeping link (h.through_rawFrame index fun _ => trivial)
  | frame index => exact hkept.keeping link (h.through_frame index fun _ => trivial)

theorem Kept.course {h : Handle} {j : Journal W} (hkept : h.Kept j.exchanges) (link : Link W)
    (actions : List Action) :
    (Handle.course (Journal.link link) actions (h, j)).1.Kept
      (Handle.course (Journal.link link) actions (h, j)).2.exchanges := by
  induction actions generalizing h j with
  | nil => exact hkept
  | cons a rest ih => exact ih (hkept.perform link a)

/-- A handle that is not connected refuses what needs a connection, and nothing happens. -/
theorem run_perform_unconnected {h : Handle} (hconnected : ¬ h.connected = true) (link : Link W)
    (w : W) {a : Action} (hneeds : a.needsConnection = true) :
    (a.perform h).run link.reply w = ((h, .error .notConnected), w) := by
  have hrequest (r : Request) : h.request r = throw .notConnected := if_neg hconnected
  have hraw (index : UInt16) : h.rawFrame index = throw .notConnected := if_neg hconnected
  cases a with
  | connect | connectByIndex | frameSize => cases hneeds
  | disconnect =>
    change h.disconnect.run link.reply w = _
    rw [run_disconnect, if_neg hconnected]
  | request r => simp only [Action.perform, hrequest]; rfl
  | status => simp only [Action.perform, Handle.status, hrequest]; rfl
  | framesInMemory => simp only [Action.perform, Handle.framesInMemory, hrequest]; rfl
  | rawFrame index => simp only [Action.perform, hraw]; rfl
  | frame index => simp only [Action.perform, Handle.frame, hraw]; rfl

end Handle

/-- Over every journal the attempt's outcome fits the exchanges that it adds. -/
def Attempt.Explained {α : Type} (a : Attempt α) : Prop :=
  ∀ {W : Type} (link : Link W) (j : Journal W), ∃ own,
    (a.run.run (Journal.link link).reply j).2.exchanges = own ++ j.exchanges ∧
      Explains true own (a.run.run (Journal.link link).reply j).1

namespace Attempt.Explained

variable {α β : Type}

theorem pure (a : α) : Attempt.Explained (Pure.pure a) := fun _ _ => ⟨[], rfl, nofun, nofun⟩

/-- A success was no refusal, so what comes after it decides. -/
theorem bind {x : Attempt α} {f : α → Attempt β} (hx : Attempt.Explained x)
    (hf : ∀ a, Attempt.Explained (f a)) : Attempt.Explained (x >>= f) := by
  intro W link j
  obtain ⟨own, hown, hexplains⟩ := hx link j
  cases hrun : x.run.run (Journal.link link).reply j with
  | mk outcome j' =>
    rw [hrun] at hown hexplains
    cases outcome with
    | error e =>
      rw [Interaction.run_bind_error hrun]
      refine ⟨own, hown, ?_, ?_⟩
      · intro x hx code hcode
        cases hexplains.refused x hx code hcode
        rfl
      · intro e' heq
        cases heq
        exact hexplains.error e rfl
    | ok a =>
      rw [Interaction.run_bind_ok hrun]
      obtain ⟨more, hmore, hnext⟩ := hf a link j'
      refine ⟨more ++ own, by rw [hmore, hown, List.append_assoc], ?_, ?_⟩
      · intro x hx code hcode
        obtain hx | hx := List.mem_append.mp hx
        · exact hnext.refused x hx code hcode
        · cases hexplains.refused x hx code hcode
      · intro e heq
        obtain ⟨x, hx, hcode⟩ | ⟨hconnected, -⟩ := hnext.error e heq
        · exact Or.inl ⟨x, List.mem_append_left _ hx, hcode⟩
        · cases hconnected

end Attempt.Explained

/-- One exchange explains the outcome that is the meaning of its verdict. -/
theorem Exchange.explains_singleton {α : Type} {connected : Bool} {x : Exchange}
    {verdict : Except ResultCode α} (hcode : ∀ code, x.code? = some code ↔ verdict = .error code) :
    Explains connected [x] (verdict.mapError .ofCode) := by
  refine ⟨?_, ?_⟩
  · intro y hy code hy'
    obtain rfl := List.mem_singleton.mp hy
    rw [(hcode code).mp hy']
    rfl
  · intro e heq
    cases verdict with
    | ok a => cases heq
    | error code =>
      cases heq
      exact Or.inl ⟨x, List.mem_singleton_self x, code, (hcode code).mpr rfl, rfl⟩

namespace Handle

variable {h : Handle}

theorem explained_request (hconnected : h.connected = true) (r : Request) :
    (h.request r).Explained := by
  intro W link j
  rw [run_request, if_pos hconnected]
  exact ⟨[⟨.operate h.ctx r, _⟩], rfl, explains_singleton fun code => refusal?_eq_some_iff⟩

theorem explained_frameSize (h : Handle) : Attempt.Explained (ExceptT.lift h.frameSize) := by
  intro W link j
  refine ⟨[⟨.pixelsInFrame h.ctx, _⟩], rfl, ?_, nofun⟩
  intro x hx code hcode
  obtain rfl := List.mem_singleton.mp hx
  cases hcode

theorem explained_rawFrame (hconnected : h.connected = true) (index : UInt16) :
    (h.rawFrame index).Explained := by
  unfold rawFrame
  rw [if_pos hconnected]
  refine Attempt.Explained.bind h.explained_frameSize fun size => ?_
  exact Attempt.Explained.bind (explained_request hconnected _) fun _ => Attempt.Explained.pure _

theorem Action.explains_keeping {α : Type} {connected : Bool} (hconnected : connected = true)
    (link : Link W) (j : Journal W) (h : Handle) {a : Attempt α} (ha : a.Explained) : ∃ own,
    ((keeping h a).run (Journal.link link).reply j).2.exchanges = own ++ j.exchanges ∧
      Explains connected own ((keeping h a).run (Journal.link link).reply j).1.2 := by
  rw [run_keeping, hconnected]
  exact ha link j

/-- How an action ends fits the exchanges that it adds. -/
theorem explains_perform (link : Link W) (j : Journal W) (h : Handle) (a : Action) : ∃ own,
    ((a.perform h).run (Journal.link link).reply j).2.exchanges = own ++ j.exchanges ∧
      Explains h.connected own ((a.perform h).run (Journal.link link).reply j).1.2 := by
  by_cases hrefused : ¬ h.connected = true ∧ a.needsConnection = true
  · obtain ⟨hconnected, hneeds⟩ := hrefused
    rw [run_perform_unconnected hconnected _ _ hneeds]
    refine ⟨[], rfl, nofun, ?_⟩
    rintro e heq
    cases heq
    exact Or.inr ⟨Bool.eq_false_iff.mpr hconnected, rfl, rfl⟩
  · have hconnected (hneeds : a.needsConnection = true) : h.connected = true :=
      Decidable.not_not.mp fun hnot => hrefused ⟨hnot, hneeds⟩
    cases a with
    | connect serial =>
      exact ⟨[⟨.connectBySerial serial h.ctx, _⟩], rfl,
        explains_singleton fun code => refusal?_eq_some_iff⟩
    | connectByIndex index =>
      exact ⟨[⟨.connectByIndex index h.ctx, _⟩], rfl,
        explains_singleton fun code => refusal?_eq_some_iff⟩
    | disconnect =>
      change ∃ own, (h.disconnect.run _ j).2.exchanges = own ++ j.exchanges ∧
        Explains h.connected own (h.disconnect.run _ j).1.2
      rw [run_disconnect, if_pos (hconnected rfl)]
      exact ⟨[⟨.disconnect h.ctx, _⟩], rfl, explains_singleton fun code => refusal?_eq_some_iff⟩
    | request r =>
      exact Action.explains_keeping (hconnected rfl) link j h (explained_request (hconnected rfl) r)
    | status | framesInMemory =>
      refine Action.explains_keeping (hconnected rfl) link j h ?_
      exact Attempt.Explained.bind (explained_request (hconnected rfl) _) fun _ =>
        Attempt.Explained.pure _
    | frameSize =>
      obtain ⟨own, hown, hexplains⟩ := explained_frameSize h link j
      exact ⟨own, hown, hexplains.refused, nofun⟩
    | rawFrame index =>
      exact Action.explains_keeping (hconnected rfl) link j h
        (explained_rawFrame (hconnected rfl) index)
    | frame index =>
      refine Action.explains_keeping (hconnected rfl) link j h ?_
      exact Attempt.Explained.bind (explained_rawFrame (hconnected rfl) index) fun _ =>
        Attempt.Explained.pure _

/-- Over every driver, including one that returns a new context from a failing call, and after every
course of actions on a handle: each call that needs a connection was made under the context of the
last successful connect, while no disconnect or failed connect had followed. Without such a
connection these actions return `notConnected` and make no call. A code that the driver returns is
recovered from the error by `code?`. `disconnect` resets the handle whatever the driver returns, and
`drop` makes one `disconnect` call if and only if the handle is connected. -/
theorem needs_standing_connection (link : Link W) (actions : List Action) (w : W) :
    let (h, j) := course (Journal.link link) actions (new, ⟨w, []⟩)
    OnStanding j.exchanges ∧ h.standing? = Exchange.standing? j.exchanges ∧
    (Exchange.standing? j.exchanges = none → ∀ a : Action, a.needsConnection = true →
      (a.perform h).run (Journal.link link).reply j = ((h, .error .notConnected), j)) ∧
    (∀ a : Action, ∃ own,
      ((a.perform h).run (Journal.link link).reply j).2.exchanges = own ++ j.exchanges ∧
      Explains h.connected own ((a.perform h).run (Journal.link link).reply j).1.2) ∧
    (∀ code, (DeviceError.ofCode code).code? = some code) ∧
    (∀ ctx, Exchange.standing? j.exchanges = some ctx →
      ((Action.disconnect.perform h).run (Journal.link link).reply j).1.1 = new ∧
      ((Action.disconnect.perform h).run (Journal.link link).reply j).2.exchanges =
        ⟨.disconnect ctx, (link (.disconnect ctx) j.world).1⟩ :: j.exchanges) ∧
    (h.drop.run (Journal.link link).reply j).2.exchanges =
      match Exchange.standing? j.exchanges with
      | some ctx => ⟨.disconnect ctx, (link (.disconnect ctx) j.world).1⟩ :: j.exchanges
      | none => j.exchanges := by
  have hkept := kept_new.course (j := ⟨w, []⟩) link actions
  generalize course (Journal.link link) actions (new, ⟨w, []⟩) = x at hkept
  obtain ⟨h, j⟩ := x
  have hstanding : h.standing? = Exchange.standing? j.exchanges := hkept.standing
  refine ⟨hkept.onStanding, hstanding, ?_, fun a => explains_perform link j h a,
    DeviceError.code?_ofCode, ?_, ?_⟩
  · intro hnone a hneeds
    refine run_perform_unconnected ?_ _ j hneeds
    intro hconnected
    rw [← hstanding, standing?, if_pos hconnected] at hnone
    cases hnone
  · intro ctx hctx
    obtain ⟨hconnected, rfl⟩ := standing?_eq_some_iff.mp (hstanding.trans hctx)
    change (h.disconnect.run _ j).1.1 = _ ∧ (h.disconnect.run _ j).2.exchanges = _
    rw [run_disconnect, if_pos hconnected]
    exact ⟨rfl, rfl⟩
  · rw [run_drop, ← hstanding, standing?]
    split <;> rfl

end Handle

end Spectrometer

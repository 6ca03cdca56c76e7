import Spectrometer.Proofs.Bench.Accounts

/-!
Where the contexts in use are, after every run of a bench without faults. Each connected handle
holds one of them. The others were left behind by connecting calls that were turned down on
connected handles: `leftBehind` follows a run for them, and decides exactly whether there are any.
-/

namespace Spectrometer

/-- The driver's verdict on the connecting call that a task makes, if it makes one. -/
def Holder.verdict? (e : Emulator) : Holder → Task → Option (Except ResultCode Unit)
  | session s, .act .connect | session s, .act .reconnect =>
    some (Emulator.link (.connectBySerial s.serial s.handle.ctx) e).1.2
  | bare h, .connect serial => some (Emulator.link (.connectBySerial serial h.ctx) e).1.2
  | bare h, .connectByIndex index => some (Emulator.link (.connectByIndex index h.ctx) e).1.2
  | _, _ => none

/-- The contexts left behind after a task. -/
def Holder.leaves (e : Emulator) (holder : Holder) (task : Task) (left : List Context) :
    List Context :=
  (holder.verdict? e task).elim left fun verdict => holder.handle.leaves verdict left

theorem Accounts.perform {e : Emulator} {holder : Holder} {rest : List Handle}
    {left : List Context} (ha : Accounts e (holder.handle :: rest) left) (task : Task) :
    Accounts ((holder.perform task).run Emulator.link.reply e).2
      (((holder.perform task).run Emulator.link.reply e).1.1.handle :: rest)
      (holder.leaves e task left) := by
  have hidle (holder : Holder) (ha : Accounts e (holder.handle :: rest) left) (r : Request) :
      Accounts ((holder.handle.request r).run.run Emulator.link.reply e).2
        (holder.handle :: rest) left :=
    have hthrough : Attempt.Through holder.handle (fun _ => True) (holder.handle.request r) :=
      holder.handle.through_request trivial
    ha.through hthrough
  cases holder with
  | session s =>
    cases task with
    | act a =>
      simp only [Holder.perform, Interaction.run_bind]
      cases a with
      | connect | reconnect => exact ha.connectSession
      | disconnect => exact ha.disconnectSession
      | _ => exact ha.act rfl
    | request r =>
      simp only [Holder.perform, Interaction.run_bind]
      exact hidle (.session s) ha r
    | _ => exact ha
  | bare h =>
    cases task with
    | act a => exact ha
    | connect serial => exact ha.connectHandle serial
    | connectByIndex index => exact ha.connectHandleByIndex index
    | disconnect =>
      simp only [Holder.perform, Interaction.run_bind]
      exact ha.disconnectHandle
    | request r =>
      simp only [Holder.perform, Interaction.run_bind]
      exact hidle (.bare h) ha r

namespace Bench

/-- The contexts left behind after a move: only a holder's task can leave one or get one back. -/
def leaves (b : Bench) (left : List Context) : Move → List Context
  | .perform n task =>
    b.holders[n]?.elim left fun holder => holder.leaves b.emulator task left
  | _ => left

/-- The contexts left behind after some moves. -/
def leftBehind : List Move → Bench → List Context → List Context
  | [], _, left => left
  | m :: rest, b, left => leftBehind rest (b.step m) (b.leaves left m)

/-- The books of a bench. -/
def Balanced (b : Bench) (left : List Context) : Prop := Accounts b.emulator b.handles left

variable {b : Bench} {left : List Context}

/-- The handles of a bench, one of them in front. -/
theorem handles_perm {n : Nat} {holder : Holder} (hholder : b.holders[n]? = some holder) :
    b.handles.Perm (holder.handle :: (b.holders.eraseIdx n).map Holder.handle) := by
  obtain ⟨hn, rfl⟩ := List.getElem?_eq_some_iff.mp hholder
  exact ((List.getElem_cons_eraseIdx_perm hn).symm).map Holder.handle

theorem Balanced.perform (hb : b.Balanced left) (n : Nat) (task : Task) :
    (b.perform n task).Balanced (b.leaves left (.perform n task)) := by
  unfold Balanced
  simp only [leaves]
  cases hholder : b.holders[n]? with
  | none =>
    rw [perform_of_none task hholder]
    exact hb
  | some holder =>
    have hn := (List.getElem?_eq_some_iff.mp hholder).1
    have hperformed := (Accounts.perm hb (handles_perm hholder)).perform task
    rw [perform_of_some task hholder]
    exact hperformed.perm ((List.set_perm_cons_eraseIdx hn _).map Holder.handle).symm

theorem Balanced.drop (hb : b.Balanced left) (n : Nat) : (b.drop n).Balanced left := by
  unfold Balanced Bench.drop
  cases hholder : b.holders[n]? with
  | none => exact hb
  | some holder => exact (Accounts.perm hb (handles_perm hholder)).dropHandle

/-- One who is admitted keeps the connection, one who stays away has given it up. -/
theorem balanced_welcome {α : Type} (wrap : α → Holder)
    {connect : Dialogue (α × Except DeviceError Unit)} {drop : α → Dialogue Unit}
    (hdrop : ∀ a, drop a = (wrap a).handle.drop)
    (hconnect : Accounts (connect.run Emulator.link.reply b.emulator).2
      ((wrap (connect.run Emulator.link.reply b.emulator).1.1).handle :: b.handles) left) :
    (b.welcome <| (wrap <$> Attempt.opening connect drop).run.run Emulator.link.reply
      b.emulator).Balanced left := by
  rw [ExceptT.run_map, map_eq_pure_bind, Interaction.run_bind]
  obtain ⟨a, e, heq, hopen⟩ | ⟨a, failure, e, heq, hopen⟩ :=
    Attempt.opening_cases Emulator.link connect drop b.emulator
  · rw [heq] at hconnect
    rw [hopen]
    exact hconnect
  · rw [heq] at hconnect
    rw [hopen, hdrop]
    exact hconnect.dropHandle

theorem Balanced.openHandle (hb : b.Balanced left) (serial : Option String) :
    (b.step (.openHandle serial)).Balanced left := by
  have hconnect := (Accounts.add hb).connectHandle serial
  rw [Accounts.leaves_new hb] at hconnect
  exact balanced_welcome Holder.bare (fun _ => rfl) hconnect

theorem Balanced.openSession (hb : b.Balanced left) (serial : Option String) :
    (b.step (.openSession serial)).Balanced left := by
  have hnew : Accounts b.emulator ((Session.new serial).handle :: b.handles) left := Accounts.add hb
  have hconnect := hnew.connectSession
  change Accounts _ _ (Handle.new.leaves _ left) at hconnect
  rw [Accounts.leaves_new hb] at hconnect
  simp only [Bench.step, Session.establish_eq_opening]
  exact balanced_welcome Holder.session (fun _ => rfl) hconnect

theorem Balanced.step (hb : b.Balanced left) {m : Move} (hm : m.isFault = false) :
    (b.step m).Balanced (b.leaves left m) := by
  have hevent (event : Emulator.Event) (hlive : (event.apply b.emulator).live = b.emulator.live)
      (hfaults : (event.apply b.emulator).faults = b.emulator.faults) :
      Accounts (event.apply b.emulator) b.handles left :=
    hb.keep (event.sound hb.sound) (hb.untroubled.of_faults_eq hfaults) hlive
  cases m with
  | newSession | newHandle => exact Accounts.add hb
  | openSession serial => exact hb.openSession serial
  | openHandle serial => exact hb.openHandle serial
  | perform n task => exact hb.perform n task
  | drop n => exact hb.drop n
  | failNext => cases hm
  | resetCalls => exact hevent .resetCalls rfl rfl
  | forceFrames i frames => exact hevent (.forceFrames i frames) rfl rfl
  | reattach i => exact hevent (.reattach i) rfl rfl

theorem Balanced.run (hb : b.Balanced left) (moves : List Move)
    (hfaultless : ∀ m ∈ moves, m.isFault = false) :
    (b.run moves).Balanced (leftBehind moves b left) := by
  induction moves generalizing b left with
  | nil => exact hb
  | cons m rest ih =>
    have hfirst := hb.step (hfaultless m List.mem_cons_self)
    exact ih hfirst fun m' hmem => hfaultless m' (List.mem_cons_of_mem m hmem)

theorem balanced_new (config : EmulatorConfig) : (Bench.new config).Balanced [] :=
  Accounts.new config

/-- After every run without injected faults, the live contexts are those of the connected handles
together with those left behind, each once. `leftBehind` collects the context of a connected handle
whose connecting call failed, until the same handle connects again. So the live contexts are those
of the connected handles if and only if `leftBehind` is empty, and once no handle is connected they
are exactly the ones left behind. -/
theorem live_contexts_held_or_left_behind (config : EmulatorConfig) (moves : List Move)
    (hfaultless : ∀ m ∈ moves, m.isFault = false) :
    let b := (new config).run moves
    let left := leftBehind moves (new config) []
    b.emulator.live.Nodup ∧ b.emulator.live.Perm (Handle.held b.handles ++ left) ∧
      (b.emulator.live.Perm (Handle.held b.handles) ↔ left = []) ∧
      ((∀ h ∈ b.handles, h.connected = false) → b.emulator.live.Perm left) := by
  intro b left
  have hbalanced : Accounts b.emulator b.handles left := (balanced_new config).run moves hfaultless
  have hbalance := hbalanced.balance
  refine ⟨hbalanced.nodup, hbalance, ⟨fun hheld => ?_, fun hnone => ?_⟩, fun hclosed => ?_⟩
  · have hlength := (hbalance.symm.trans hheld).length_eq
    rw [List.length_append] at hlength
    exact List.eq_nil_of_length_eq_zero (by omega)
  · rwa [hnone, List.append_nil] at hbalance
  · have hnobody : Handle.held b.handles = [] := by
      apply List.eq_nil_iff_forall_not_mem.mpr
      intro ctx hctx
      obtain ⟨h, hmem, hconnected, -⟩ := Handle.mem_held.mp hctx
      rw [hclosed h hmem] at hconnected
      cases hconnected
    rwa [hnobody] at hbalance

/-- A handle connects, is turned down when it asks for a device that there is not, and goes; a
session comes and connects. -/
def succession : List Move :=
  [.newHandle, .perform 0 (.connect none), .perform 0 (.connectByIndex 5), .drop 0,
    .openSession none]

theorem succession_live_contexts :
    (∀ m ∈ succession, m.isFault = false) ∧ leftBehind succession (new .default) [] = [⟨1⟩] ∧
      let b := (new .default).run succession
      b.emulator.live.Nodup ∧ b.emulator.live.Perm (Handle.held b.handles ++ [⟨1⟩]) ∧
        (b.emulator.live.Perm (Handle.held b.handles) ↔ [(⟨1⟩ : Context)] = []) ∧
        ((∀ h ∈ b.handles, h.connected = false) → b.emulator.live.Perm [⟨1⟩]) :=
  have hfaultless : ∀ m ∈ succession, m.isFault = false := by decide
  ⟨hfaultless, rfl, live_contexts_held_or_left_behind .default succession hfaultless⟩

/-- A handle that was turned down while it was connected is gone, and its context is in use. -/
theorem turned_down_handle_leaves_context :
    let b := (new .default).run (succession.take 4)
    (∀ m ∈ succession.take 4, m.isFault = false) ∧ b.handles = [] ∧ b.emulator.live = [⟨1⟩] :=
  ⟨by decide, rfl, rfl⟩

end Bench

end Spectrometer

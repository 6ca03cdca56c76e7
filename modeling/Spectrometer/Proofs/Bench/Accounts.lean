import Spectrometer.Proofs.Bench.Basic
import Spectrometer.Proofs.Emulator.Live
import Spectrometer.Proofs.Session.Requests

/-!
Who holds the contexts that an emulator has in use. While no fault is planted every one of them is
held by one connected handle, or was left behind: a connecting call that is turned down while its
handle is connected clears the handle's flag and keeps the context alive. The books (`Accounts`)
are kept over lists of handles, whose order does not matter, so each move is looked at with its
handle in front.
-/

namespace Spectrometer

namespace Handle

/-- The contexts that the connected ones among some handles hold. -/
def held (handles : List Handle) : List Context :=
  (handles.filter (·.connected)).map (·.ctx)

/-- The contexts that are written in some handles, connected or not. -/
def noted (handles : List Handle) : List Context :=
  (handles.map (·.ctx)).filter (· ≠ .null)

/-- The contexts left behind after a connecting call with this verdict: a handle that is turned down
while it is connected leaves its own, and one that is accepted trades its own in. -/
def leaves (h : Handle) (verdict : Except ResultCode Unit) (left : List Context) : List Context :=
  match verdict with
  | .ok () => left.filter (· ≠ h.ctx)
  | .error _ => if h.connected then h.ctx :: left else left

theorem held_cons (h : Handle) (rest : List Handle) :
    held (h :: rest) = if h.connected then h.ctx :: held rest else held rest := by
  unfold held
  rw [List.filter_cons]
  split <;> rfl

theorem noted_cons (h : Handle) (rest : List Handle) :
    noted (h :: rest) = if h.ctx = .null then noted rest else h.ctx :: noted rest := by
  unfold noted
  rw [List.map_cons, List.filter_cons]
  by_cases hnull : h.ctx = .null <;> simp [hnull]

theorem mem_held {handles : List Handle} {ctx : Context} :
    ctx ∈ held handles ↔ ∃ h ∈ handles, h.connected = true ∧ h.ctx = ctx := by
  simp [held, and_assoc]

theorem mem_noted {handles : List Handle} {ctx : Context} :
    ctx ∈ noted handles ↔ ctx ≠ .null ∧ ∃ h ∈ handles, h.ctx = ctx := by
  simp [noted, and_comm]

theorem held_perm {handles handles' : List Handle} (hperm : handles.Perm handles') :
    (held handles).Perm (held handles') := (hperm.filter _).map _

theorem noted_perm {handles handles' : List Handle} (hperm : handles.Perm handles') :
    (noted handles).Perm (noted handles') := (hperm.map _).filter _

theorem noted_nodup_of_cons {h : Handle} {rest : List Handle} (hnodup : (noted (h :: rest)).Nodup) :
    (noted rest).Nodup := by
  rw [noted_cons] at hnodup
  split at hnodup
  · exact hnodup
  · exact hnodup.of_cons

end Handle

open Handle (held noted)

theorem filter_ne_eq_self {ctx : Context} {l : List Context} (hmem : ctx ∉ l) :
    l.filter (· ≠ ctx) = l := by
  apply List.filter_eq_self.mpr
  intro ctx' hctx'
  simpa using fun heq : ctx' = ctx => hmem (heq ▸ hctx')

/-- The books of an emulator without faults: the contexts in use are those that connected handles
hold and those that were left behind, each once; no context is written in two handles, and a context
that is written in a handle without a connection was left behind. -/
structure Accounts (e : Emulator) (handles : List Handle) (left : List Context) : Prop where
  sound : e.Sound
  untroubled : e.Untroubled
  nodup : e.live.Nodup
  balance : e.live.Perm (held handles ++ left)
  distinct : (noted handles).Nodup
  stray : ∀ h ∈ handles, h.connected = false → h.ctx ≠ .null → h.ctx ∈ left

namespace Accounts

variable {e e' : Emulator} {h : Handle} {handles rest : List Handle} {left : List Context}

theorem perm {handles' : List Handle} (ha : Accounts e handles left)
    (hperm : handles.Perm handles') : Accounts e handles' left where
  sound := ha.sound
  untroubled := ha.untroubled
  nodup := ha.nodup
  balance := ha.balance.trans ((Handle.held_perm hperm).append_right left)
  distinct := (Handle.noted_perm hperm).nodup_iff.mp ha.distinct
  stray h hmem := ha.stray h (hperm.mem_iff.mpr hmem)

/-- What leaves the contexts in use alone leaves the books right. -/
theorem keep (ha : Accounts e handles left) (hsound : e'.Sound) (huntroubled : e'.Untroubled)
    (hlive : e'.live = e.live) : Accounts e' handles left where
  sound := hsound
  untroubled := huntroubled
  nodup := hlive ▸ ha.nodup
  balance := hlive ▸ ha.balance
  distinct := ha.distinct
  stray := ha.stray

theorem new (config : EmulatorConfig) : Accounts (.new config) [] [] where
  sound := Emulator.sound_new config _
  untroubled := Emulator.untroubled_new config
  nodup := .nil
  balance := .nil
  distinct := .nil
  stray := nofun

/-- A handle that notes no context may come and go. -/
theorem add (ha : Accounts e handles left) : Accounts e (.new :: handles) left where
  sound := ha.sound
  untroubled := ha.untroubled
  nodup := ha.nodup
  balance := ha.balance
  distinct := ha.distinct
  stray h hmem hclosed hnull := by
    obtain rfl | hmem := List.mem_cons.mp hmem
    · exact absurd rfl hnull
    · exact ha.stray h hmem hclosed hnull

theorem remove (ha : Accounts e (h :: rest) left) (hclosed : h.connected = false) :
    Accounts e rest left where
  sound := ha.sound
  untroubled := ha.untroubled
  nodup := ha.nodup
  balance := by
    have hbalance := ha.balance
    rwa [Handle.held_cons, hclosed] at hbalance
  distinct := Handle.noted_nodup_of_cons ha.distinct
  stray h' hmem := ha.stray h' (List.mem_cons_of_mem h hmem)

theorem live_of_noted (ha : Accounts e handles left) {ctx : Context} (hctx : ctx ∈ noted handles) :
    ctx ∈ e.live := by
  obtain ⟨hnull, h, hmem, rfl⟩ := Handle.mem_noted.mp hctx
  apply ha.balance.mem_iff.mpr
  cases hconnected : h.connected with
  | true => exact List.mem_append_left left (Handle.mem_held.mpr ⟨h, hmem, hconnected, rfl⟩)
  | false => exact List.mem_append_right _ (ha.stray h hmem hconnected hnull)

theorem ctx_ne_null (ha : Accounts e handles left) (hmem : h ∈ handles)
    (hconnected : h.connected = true) : h.ctx ≠ .null := by
  have hheld : h.ctx ∈ held handles := Handle.mem_held.mpr ⟨h, hmem, hconnected, rfl⟩
  exact (ha.sound.of_mem_live (ha.balance.mem_iff.mpr (List.mem_append_left left hheld))).1

/-- Nobody else notes the context that the first handle notes. -/
theorem not_noted (ha : Accounts e (h :: rest) left) : h.ctx ∉ noted rest := by
  intro hnoted
  have hdistinct := ha.distinct
  rw [Handle.noted_cons, if_neg (Handle.mem_noted.mp hnoted).1] at hdistinct
  exact (List.nodup_cons.mp hdistinct).1 hnoted

theorem not_held (ha : Accounts e (h :: rest) left) : h.ctx ∉ held rest := by
  intro hheld
  obtain ⟨h', hmem, hconnected, hctx⟩ := Handle.mem_held.mp hheld
  have hnull := ha.ctx_ne_null (List.mem_cons_of_mem h hmem) hconnected
  exact ha.not_noted (Handle.mem_noted.mpr ⟨hctx ▸ hnull, h', hmem, hctx⟩)

/-- Without the first handle's context the contexts in use are those of the other handles, and those
left behind by others. -/
theorem balance_without (ha : Accounts e (h :: rest) left) :
    (e.live.filter (· ≠ h.ctx)).Perm (held rest ++ left.filter (· ≠ h.ctx)) := by
  have hrest : (held (h :: rest)).filter (· ≠ h.ctx) = held rest := by
    have hothers := filter_ne_eq_self ha.not_held
    rw [Handle.held_cons]
    split
    · simpa using hothers
    · exact hothers
  rw [← hrest, ← List.filter_append]
  exact ha.balance.filter _

theorem exchange_accepted (ha : Accounts e (h :: rest) left) (hsound : e'.Sound)
    (huntroubled : e'.Untroubled)
    (hlive : e'.live = ⟨e.nextContext⟩ :: e.live.filter (· ≠ h.ctx)) :
    Accounts e' (⟨⟨e.nextContext⟩, true⟩ :: rest) (left.filter (· ≠ h.ctx)) := by
  have hfresh : (⟨e.nextContext⟩ : Context) ∉ e.live := fun hmem =>
    Nat.lt_irrefl _ (ha.sound.of_mem_live hmem).2
  have hnull : (⟨e.nextContext⟩ : Context) ≠ .null := fun heq =>
    Nat.ne_of_gt ha.sound.next (congrArg Context.raw heq)
  have hothers (h' : Handle) (hmem : h' ∈ rest) (hnoted : h'.ctx ≠ .null) :
      h'.ctx ∈ noted rest := Handle.mem_noted.mpr ⟨hnoted, h', hmem, rfl⟩
  refine ⟨hsound, huntroubled, ?_, ?_, ?_, ?_⟩
  · rw [hlive]
    exact List.nodup_cons.mpr
      ⟨fun hmem => hfresh (List.mem_filter.mp hmem).1, ha.nodup.filter _⟩
  · rw [hlive, Handle.held_cons, if_pos rfl]
    exact ha.balance_without.cons _
  · rw [Handle.noted_cons, if_neg hnull]
    refine List.nodup_cons.mpr ⟨fun hmem => hfresh (ha.live_of_noted ?_), ?_⟩
    · rw [Handle.noted_cons]
      split
      · exact hmem
      · exact List.mem_cons_of_mem _ hmem
    · exact Handle.noted_nodup_of_cons ha.distinct
  · intro h' hmem hclosed hnoted
    obtain rfl | hmem := List.mem_cons.mp hmem
    · cases hclosed
    · refine List.mem_filter.mpr ⟨ha.stray h' (List.mem_cons_of_mem h hmem) hclosed hnoted, ?_⟩
      simpa using fun heq : h'.ctx = h.ctx => ha.not_noted (heq ▸ hothers h' hmem hnoted)

theorem exchange_refused (ha : Accounts e (h :: rest) left) (hsound : e'.Sound)
    (huntroubled : e'.Untroubled) (hlive : e'.live = e.live) :
    Accounts e' (⟨h.ctx, false⟩ :: rest) (if h.connected then h.ctx :: left else left) := by
  have hbalance := ha.balance
  rw [← hlive, Handle.held_cons] at hbalance
  refine ⟨hsound, huntroubled, hlive ▸ ha.nodup, ?_, ?_, ?_⟩
  · rw [Handle.held_cons, if_neg Bool.false_ne_true]
    cases hconnected : h.connected with
    | true =>
      rw [hconnected] at hbalance
      exact hbalance.trans List.perm_middle.symm
    | false => rwa [hconnected] at hbalance
  · have hdistinct := ha.distinct
    rwa [Handle.noted_cons] at hdistinct ⊢
  · intro h' hmem hclosed hnull
    have hleft (ctx : Context) (hctx : ctx ∈ left) :
        ctx ∈ if h.connected then h.ctx :: left else left := by
      split
      · exact List.mem_cons_of_mem _ hctx
      · exact hctx
    obtain rfl | hmem := List.mem_cons.mp hmem
    · cases hconnected : h.connected with
      | true => exact List.mem_cons_self
      | false => exact ha.stray h List.mem_cons_self hconnected hnull
    · exact hleft _ (ha.stray h' (List.mem_cons_of_mem h hmem) hclosed hnull)

/-- A connecting call leaves the books right, with the contexts left behind as `Handle.leaves` has
them. -/
theorem exchange (ha : Accounts e (h :: rest) left) (hsound : e'.Sound)
    (huntroubled : e'.Untroubled) {reply : Context × Except ResultCode Unit}
    (hexchanged : e.Exchanged h.ctx reply e') :
    Accounts e' ((Handle.afterConnect reply).1 :: rest) (h.leaves reply.2 left) := by
  cases hexchanged with
  | refused code hlive => exact ha.exchange_refused hsound huntroubled hlive
  | accepted hlive => exact ha.exchange_accepted hsound huntroubled hlive

theorem release (ha : Accounts e (h :: rest) left) (hconnected : h.connected = true) :
    Accounts (Emulator.link (.disconnect h.ctx) e).2 rest left := by
  have hlive := (ha.untroubled.release h.ctx).2
  have hnotLeft : h.ctx ∉ left := fun hleft =>
    have hheld : h.ctx ∈ held (h :: rest) :=
      Handle.mem_held.mpr ⟨h, List.mem_cons_self, hconnected, rfl⟩
    (List.nodup_append.mp (ha.balance.nodup_iff.mp ha.nodup)).2.2 _ hheld _ hleft rfl
  refine ⟨ha.sound.effect (Emulator.link_effect _ e), ha.untroubled.call _, ?_, ?_, ?_, ?_⟩
  · rw [hlive]
    exact ha.nodup.filter _
  · have hwithout := ha.balance_without
    rwa [filter_ne_eq_self hnotLeft, ← hlive] at hwithout
  · exact Handle.noted_nodup_of_cons ha.distinct
  · exact fun h' hmem => ha.stray h' (List.mem_cons_of_mem h hmem)

/-- What goes through a handle leaves the books right. -/
theorem through {α : Type} {d : Dialogue α} {kind : Request → Prop} {post : α → Prop}
    (ha : Accounts e handles left) (hd : d.Obeys (Utterance.Through h kind) post) :
    Accounts (d.run Emulator.link.reply e).2 handles left :=
  ha.keep (ha.sound.run d) (ha.untroubled.run d)
    (Emulator.live_of_contexts_eq (Emulator.contexts_through hd e))

theorem disconnectHandle (ha : Accounts e (h :: rest) left) :
    Accounts (h.disconnect.run Emulator.link.reply e).2
      ((h.disconnect.run Emulator.link.reply e).1.1 :: rest) left := by
  rw [Handle.run_disconnect]
  split
  · rename_i hconnected
    exact (ha.release hconnected).add
  · exact ha

theorem dropHandle (ha : Accounts e (h :: rest) left) :
    Accounts (h.drop.run Emulator.link.reply e).2 rest left := by
  rw [Handle.run_drop]
  split
  · rename_i hconnected
    exact ha.release hconnected
  · rename_i hclosed
    exact ha.remove (Bool.eq_false_iff.mpr hclosed)

/-- A handle that is connected for the first time leaves nothing behind. -/
theorem leaves_new (ha : Accounts e handles left) (verdict : Except ResultCode Unit) :
    Handle.new.leaves verdict left = left := by
  cases verdict with
  | error code => rfl
  | ok _ =>
    apply filter_ne_eq_self
    intro hleft
    exact (ha.sound.of_mem_live (ha.balance.mem_iff.mpr (List.mem_append_right _ hleft))).1 rfl

theorem connectHandle (ha : Accounts e (h :: rest) left) (serial : Option String) :
    Accounts ((h.connect serial).run Emulator.link.reply e).2
      (((h.connect serial).run Emulator.link.reply e).1.1 :: rest)
      (h.leaves (Emulator.link (.connectBySerial serial h.ctx) e).1.2 left) :=
  ha.exchange (ha.sound.effect (Emulator.link_effect _ e)) (ha.untroubled.call _)
    (Emulator.exchanged_connectBySerial e serial h.ctx)

theorem connectHandleByIndex (ha : Accounts e (h :: rest) left) (index : UInt32) :
    Accounts ((h.connectByIndex index).run Emulator.link.reply e).2
      (((h.connectByIndex index).run Emulator.link.reply e).1.1 :: rest)
      (h.leaves (Emulator.link (.connectByIndex index h.ctx) e).1.2 left) :=
  ha.exchange (ha.sound.effect (Emulator.link_effect _ e)) (ha.untroubled.call _)
    (Emulator.exchanged_connectByIndex e index h.ctx)

/-- A session connects as its handle does, and releases again what it cannot read. -/
theorem connectSession {s : Session} (ha : Accounts e (s.handle :: rest) left) :
    Accounts (s.connect.run Emulator.link.reply e).2
      ((s.connect.run Emulator.link.reply e).1.1.handle :: rest)
      (s.handle.leaves (Emulator.link (.connectBySerial s.serial s.handle.ctx) e).1.2 left) := by
  have hcall : Accounts (Emulator.link (.connectBySerial s.serial s.handle.ctx) e).2
      ((Handle.afterConnect
        (Emulator.link (.connectBySerial s.serial s.handle.ctx) e).1).1 :: rest) _ :=
    ha.connectHandle s.serial
  obtain ⟨ctx, code, e', hlink, heq⟩ | ⟨ctx, e₁, hlink, hrest⟩ :=
    Session.connect_cases Emulator.link s e
  · rw [hlink] at hcall
    rw [heq, hlink]
    exact hcall
  · rw [hlink] at hcall
    have hthrough : Attempt.Through ⟨ctx, true⟩ (fun _ => True) _ :=
      Session.through_loadSettings _ trivial trivial
    have hloaded := hcall.through hthrough
    obtain ⟨_, e₂, hload, heq⟩ | ⟨_, _, e₂, hload, heq⟩ := hrest
    · rw [hload] at hloaded
      rw [heq, hlink]
      exact (hloaded.release rfl).add
    · rw [hload] at hloaded
      rw [heq, hlink]
      exact hloaded

theorem disconnectSession {s : Session} (ha : Accounts e (s.handle :: rest) left) :
    Accounts (s.disconnect.run Emulator.link.reply e).2
      ((s.disconnect.run Emulator.link.reply e).1.1.handle :: rest) left := by
  have hrelease := ha.disconnectHandle
  unfold Session.disconnect
  rw [Interaction.run_bind]
  exact hrelease

theorem act {s : Session} (ha : Accounts e (s.handle :: rest) left) {a : Session.Action}
    (hkeeps : a.connects = false) :
    Accounts ((a.perform s).run Emulator.link.reply e).2
      (((a.perform s).run Emulator.link.reply e).1.1.handle :: rest) left := by
  have hobeys := Session.Action.keeps_handle hkeeps s
  rw [hobeys.run_post Emulator.link.reply e]
  exact ha.through hobeys

end Accounts

end Spectrometer

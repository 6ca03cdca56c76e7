import Spectrometer.Emulator.Basic
import Spectrometer.Proofs.Session.Action

/-!
A bench: an emulator and everybody who works with its devices. Sessions and bare handles come and
go in any order, each does one task at a time, and in between faults are planted, counts are forced
and devices are plugged in again. A run is a list of such moves.
-/

namespace Spectrometer

/-- A handle that is connected from the start. -/
def Handle.establish (serial : Option String) : Attempt Handle :=
  .opening (Handle.new.connect serial) Handle.drop

/-- Somebody who can own a connection. -/
inductive Holder
  | session (s : Session)
  | bare (h : Handle)

/-- What can be asked of a holder. Every holder lets requests through its handle; the actions are a
session's, and connecting and disconnecting by hand is for a bare handle. -/
inductive Task
  | act (a : Session.Action)
  | connect (serial : Option String)
  | connectByIndex (index : UInt32)
  | disconnect
  | request (r : Request)

namespace Holder

def handle : Holder → Handle
  | session s => s.handle
  | bare h => h

/-- The holder after a task and how the task ended, its value left aside. A task that is not the
holder's changes nothing. -/
def perform : Holder → Task → Dialogue (Holder × Except DeviceError Unit)
  | session s, .act a => do
    let (s, result) ← a.perform s
    return (session s, result)
  | bare h, .connect serial => do
    let (h, result) ← h.connect serial
    return (bare h, result)
  | bare h, .connectByIndex index => do
    let (h, result) ← h.connectByIndex index
    return (bare h, result)
  | bare h, .disconnect => do
    let (h, result) ← h.disconnect
    return (bare h, result)
  | holder, .request r => do
    let result ← (holder.handle.request r).run
    return (holder, result.map fun _ => ())
  | holder, _ => return (holder, .error .notConnected)

end Holder

structure Bench where
  emulator : Emulator
  holders : List Holder

/-- What can happen on a bench. Holders are named by their places. -/
inductive Move
  | newSession (serial : Option String)
  | newHandle
  /-- A session that is there only if it could be connected. -/
  | openSession (serial : Option String)
  /-- A handle that is there only if it could be connected. -/
  | openHandle (serial : Option String)
  | perform (n : Nat) (task : Task)
  | drop (n : Nat)
  | failNext (o : Operation) (code : ResultCode)
  | resetCalls
  | forceFrames (i : Nat) (frames : Option UInt16)
  | reattach (i : Nat)

/-- Whether the move plants a fault. -/
def Move.isFault : Move → Bool
  | failNext .. => true
  | _ => false

namespace Bench

/-- A bench where nobody has come yet. -/
def new (config : EmulatorConfig) : Bench := ⟨.new config, []⟩

def handles (b : Bench) : List Handle := b.holders.map Holder.handle

/-- The bench with one who came with a connection in front; one who got none stays away. -/
def welcome (b : Bench) : Except DeviceError Holder × Emulator → Bench
  | (.ok holder, e) => ⟨e, holder :: b.holders⟩
  | (.error _, e) => { b with emulator := e }

/-- How a task of the `n`-th holder goes: the holder and the task's end, and the emulator. -/
def performance? (b : Bench) (n : Nat) (task : Task) :
    Option ((Holder × Except DeviceError Unit) × Emulator) :=
  b.holders[n]?.map fun holder => (holder.perform task).run Emulator.link.reply b.emulator

def perform (b : Bench) (n : Nat) (task : Task) : Bench :=
  (b.performance? n task).elim b fun ((holder, _), e) => ⟨e, b.holders.set n holder⟩

def drop (b : Bench) (n : Nat) : Bench :=
  b.holders[n]?.elim b fun holder =>
    ⟨(holder.handle.drop.run Emulator.link.reply b.emulator).2, b.holders.eraseIdx n⟩

theorem perform_of_some {b : Bench} {n : Nat} {holder : Holder} (task : Task)
    (hholder : b.holders[n]? = some holder) :
    b.perform n task = ⟨((holder.perform task).run Emulator.link.reply b.emulator).2,
      b.holders.set n ((holder.perform task).run Emulator.link.reply b.emulator).1.1⟩ := by
  rw [perform, performance?, hholder]
  rfl

theorem perform_of_none {b : Bench} {n : Nat} (task : Task) (hholder : b.holders[n]? = none) :
    b.perform n task = b := by
  rw [perform, performance?, hholder]
  rfl

def step (b : Bench) : Move → Bench
  | .newSession serial => { b with holders := .session (.new serial) :: b.holders }
  | .newHandle => { b with holders := .bare .new :: b.holders }
  | .openSession serial => b.welcome <|
    (Holder.session <$> Session.establish serial).run.run Emulator.link.reply b.emulator
  | .openHandle serial => b.welcome <|
    (Holder.bare <$> Handle.establish serial).run.run Emulator.link.reply b.emulator
  | .perform n task => b.perform n task
  | .drop n => b.drop n
  | .failNext o code => { b with emulator := b.emulator.failNext o code }
  | .resetCalls => { b with emulator := b.emulator.resetCalls }
  | .forceFrames i frames => { b with emulator := b.emulator.forceFrames i frames }
  | .reattach i => { b with emulator := b.emulator.reattach i }

/-- The bench after some moves, one after the other. -/
def run (b : Bench) (moves : List Move) : Bench := moves.foldl step b

end Bench

end Spectrometer

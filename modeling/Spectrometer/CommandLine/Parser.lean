import Spectrometer.CommandLine.Help

/-!
Reading a command line. The words are read from left to right, first in the scope of the whole
program, then in that of each command named. A value that stands apart from its option is looked at
only when the next option follows or the scope ends, so that a stray word is reported before a bad
value in front of it.
-/

namespace Spectrometer.CommandLine

/-- Why a command line is not understood, or what else it asks for. -/
inductive UsageError
  | unknownArgument (arg : String)
  | unknownCommand
  | missingCommand
  /-- Not even an option was given where a command is needed. -/
  | nothingGiven
  | missingValue (arg : String)
  /-- A switch was given a value. -/
  | unexpectedValue (arg value : String)
  | givenTwice (arg : String)
  | badValue (arg value message : String)
  | helpWanted (topic : Topic)
  | versionWanted
  deriving DecidableEq, Repr

namespace UsageError

/-- The status with which the program ends: what was asked for is no failure. -/
def status : UsageError → Nat
  | helpWanted _ | versionWanted => 0
  | _ => 2

/-- The complaint about the line; there is none where the program does as it was asked. -/
def message? : UsageError → Option String
  | unknownArgument arg => some s!"unexpected argument '{arg}' found"
  | unknownCommand => some "unrecognized subcommand"
  | missingCommand | nothingGiven => some "a subcommand is required but one was not provided"
  | missingValue arg => some s!"a value is required for '{arg}' but none was supplied"
  | unexpectedValue arg value => some s!"unexpected value '{value}' for '{arg}' found"
  | givenTwice arg => some s!"the argument '{arg}' cannot be used multiple times"
  | badValue arg value message => some s!"invalid value '{value}' for '{arg}': {message}"
  | helpWanted _ | versionWanted => none

def versionLine : String := "aseq 0.1.0"

/-- What the program prints when that is what it was asked for. -/
def output : UsageError → List String
  | versionWanted => [versionLine]
  | helpWanted topic => topic.page
  | _ => []

end UsageError

/-- The options given in a scope, with their values. -/
abbrev Matches := (o : Opt) → Option o.Value

namespace Matches

def none : Matches := fun _ => Option.none

def set (m : Matches) (o : Opt) (value : o.Value) : Matches := fun o' =>
  if h : o = o' then some (h ▸ value) else m o'

/-- The options of an inner scope, and those of an outer one that it does not have. -/
def orElse (inner outer : Matches) : Matches := fun o => (inner o).or (outer o)

end Matches

structure Progress where
  scope : Scope
  matched : Matches
  used : Bool
  /-- The last option, if its value is still to be looked at, or to come. -/
  pending : Option (Opt × Option String)

namespace Progress

def new (scope : Scope) : Progress := ⟨scope, .none, false, none⟩

/-- Takes an option in. A switch that counts may be repeated; no other option may. -/
def accept (p : Progress) (o : Opt) (text : String) : Except UsageError Progress :=
  match o with
  | .help => .error (.helpWanted (.scope p.scope))
  | .version => .error .versionWanted
  | .verbose =>
    let count := (p.matched .verbose).getD 0 + 1
    .ok { p with matched := p.matched.set .verbose (min count 255), used := true }
  | o =>
    if (p.matched o).isSome then .error (.givenTwice o.render)
    else match o.read text with
      | .ok value => .ok { p with matched := p.matched.set o value, used := true }
      | .error e => match e.message? with
        | some message => .error (.badValue o.render text message)
        | none => .error (.missingValue o.render)

/-- Validates the value that was put off. -/
def settle (p : Progress) : Except UsageError Progress :=
  match p.pending with
  | none => .ok p
  | some (o, none) => .error (.missingValue o.render)
  | some (o, some text) => { p with pending := none }.accept o text

/-- Takes in a switch, or an option with its value attached. -/
def take (p : Progress) (o : Opt) (text : String) : Except UsageError Progress := do
  (← p.settle).accept o text

/-- Takes in an option whose value stands apart. -/
def await (p : Progress) (o : Opt) : Except UsageError Progress := do
  return { ← p.settle with pending := some (o, none) }

/-- The option that the next word may be the value of. -/
def awaited? (p : Progress) : Option Opt :=
  match p.pending with
  | some (o, none) => some o
  | _ => none

/-- Reads what follows two dashes. -/
def long (p : Progress) (body : List Char) : Except UsageError Progress :=
  let name := String.ofList (body.takeWhile (· ≠ '='))
  let value := (body.dropWhile (· ≠ '=')).tail?.map String.ofList
  match p.scope.findLong? name, value with
  | none, _ => .error (.unknownArgument ("--" ++ name))
  | some o, none => if o.takesValue then p.await o else p.take o ""
  | some o, some text =>
    if o.takesValue then p.take o text else .error (.unexpectedValue o.render text)

/-- Reads what follows one dash: switches, and at the end an option that may have its value
attached, with or without an equals sign. -/
def short (p : Progress) : List Char → Except UsageError Progress
  | [] => .ok p
  | c :: rest =>
    match p.scope.findShort? c with
    | none => .error (.unknownArgument (String.ofList ['-', c]))
    | some o =>
      if o.takesValue then
        match rest with
        | [] => p.await o
        | '=' :: text | text => p.take o (String.ofList text)
      else do short (← p.take o "") rest

/-- The error for a word that is neither an option nor a command. -/
def stray (p : Progress) (word : String) : UsageError :=
  if p.scope.hasCommands then .unknownCommand else .unknownArgument word

/-- The error for a word behind two lone dashes, where no command is expected any more. -/
def strayBehindDashes (p : Progress) (word : String) : UsageError :=
  if (p.scope.step? word).isSome then .unknownArgument word else p.stray word

/-- The end of the line. -/
def finish (p : Progress) : Except UsageError (Leaf × Matches) := do
  let p ← p.settle
  match p.scope with
  | .leaf l => return (l, p.matched)
  | .root | .flash => throw (if p.used then .missingCommand else .nothingGiven)

end Progress

/-- What the words after `help` ask for. -/
def explain : Scope → List String → UsageError
  | scope, [] => .helpWanted (.scope scope)
  | scope, word :: rest =>
    match scope.step? word with
    | some (.scope inner) => explain inner rest
    | some .help => if rest.isEmpty then .helpWanted (.help scope) else .unknownCommand
    | none => .unknownCommand

/-- Reads the words of a scope and of the scopes in it. -/
def parseScope (p : Progress) : List String → Except UsageError (Leaf × Matches)
  | [] => p.finish
  | word :: rest =>
    match if p.awaited?.isSome then none else p.scope.step? word with
    | some .help => .error (explain p.scope rest)
    | some (.scope inner) => do
      let (l, matched) ← parseScope (.new inner) rest
      return (l, matched.orElse (← p.settle).matched)
    | none =>
      match word.toList with
      | ['-', '-'] => match rest with
        | [] => p.finish
        | stray :: _ => .error (p.strayBehindDashes stray)
      | '-' :: '-' :: body => do parseScope (← p.long body) rest
      | '-' :: c :: body => do parseScope (← p.short (c :: body)) rest
      | _ =>
        match p.awaited? with
        | some o => parseScope { p with pending := some (o, some word) } rest
        | none => .error (p.stray word)

end Spectrometer.CommandLine

import AgentTrial.Decimal.Reading
import AgentTrial.Document.Decode

/-!
# Argument — options and operands of a command

A command knows its options by a long name and perhaps by a letter.  The value of an option follows it, after a blank
or an equals sign, and is checked where it stands; two dashes end the options.
-/

namespace AgentTrial.Cli

/-- What the value of an option has to be. -/
inductive ValueKind
  /-- A path, which is never empty. -/
  | path
  | text
  /-- A whole number in 64 bits. -/
  | natural
  | number
  deriving Repr, DecidableEq

/-- The whole number of a text. -/
def natural? (s : String) : Option Nat :=
  let digits := match s.toList with
    | '+' :: ds => ds
    | ds => ds
  if !digits.isEmpty && digits.all Char.isDigit then
    some (Decimal.ofDigitChars digits) |>.filter (· < Nat.pow 2 64)
  else none

/-- Is the text a value of this kind? -/
def ValueKind.admits : ValueKind → String → Bool
  | path, s => !s.isEmpty
  | text, _ => true
  | natural, s => (natural? s).isSome
  | number, s => (Decimal.ofText? s).isSome

/-- An option of a command.  Without a kind of value it is a flag. -/
structure OptionForm where
  long : String
  short : Option Char
  value : Option ValueKind
  deriving Repr, DecidableEq

/-- Why the arguments of a command are not read on. -/
inductive Stop
  | misuse
  | help
  | version
  deriving Repr, DecidableEq

/-- The arguments of a command: its options by their long names, and its operands. -/
structure Arguments where
  options : Table String
  operands : List String
  deriving Repr, DecidableEq, Inhabited

namespace Arguments

/-- No arguments. -/
def empty : Arguments := ⟨[], []⟩

/-- The value of an option. -/
def value? (a : Arguments) (name : String) : Option String := Table.get? name a.options

/-- Is a flag set? -/
def has (a : Arguments) (name : String) : Bool := (a.value? name).isSome

/-- Adds an option, which may stand there only once. -/
def addOption (a : Arguments) (o : OptionForm) (value : String) : Except Stop Arguments :=
  if a.has o.long then .error .misuse
  else
    match o.value with
    | some kind =>
      if kind.admits value then .ok { a with options := a.options ++ [(o.long, value)] } else .error .misuse
    | none => .ok { a with options := a.options ++ [(o.long, value)] }

/-- Adds operands, of which there may be only so many; every one is a path. -/
def addOperands (most : Nat) (a : Arguments) (paths : List String) : Except Stop Arguments :=
  if a.operands.length + paths.length ≤ most && paths.all ValueKind.path.admits then
    .ok { a with operands := a.operands ++ paths }
  else .error .misuse

end Arguments

/-- Does an argument start with a dash and go on? -/
def startsOption (arg : String) : Bool :=
  match arg.toList with
  | '-' :: _ :: _ => true
  | _ => false

/-- A name and the value after an equals sign. -/
def splitEquals (s : List Char) : String × Option String :=
  let name := s.takeWhile (· ≠ '=')
  match s.drop name.length with
  | _ :: value => (.ofList name, some (.ofList value))
  | [] => (.ofList name, none)

/-- An argument of a command, taken apart. -/
inductive Part
  | operand
  | ended
  | stop (s : Stop)
  /-- An option with the value that is attached to it. -/
  | option (o : OptionForm) (attached : Option String)
  deriving Repr, DecidableEq

/-- Takes an argument apart. -/
def partOf (forms : List OptionForm) (arg : String) : Part :=
  match arg.toList with
  | ['-', '-'] => .ended
  | '-' :: '-' :: s =>
    let (name, attached) := splitEquals s
    match forms.find? (·.long = name) with
    | some o => if o.value.isNone && attached.isSome then .stop .misuse else .option o attached
    | none =>
      if attached.isSome then .stop .misuse
      else if name = "help" then .stop .help
      else if name = "version" then .stop .version
      else .stop .misuse
  | '-' :: c :: s =>
    match forms.find? (·.short = some c) with
    | some o =>
      .option o (match s with
        | [] => none
        | '=' :: value => some (.ofList value)
        | value => some (.ofList value))
    | none => .stop (if c = 'h' then .help else if c = 'V' then .version else .misuse)
  | _ => .operand

/-- Reads the arguments of a command that takes so many operands. -/
def readArguments (forms : List OptionForm) (most : Nat) : List String → Arguments → Except Stop Arguments
  | [], a => .ok a
  | arg :: args, a =>
    match partOf forms arg with
    | .ended => a.addOperands most args
    | .stop s => .error s
    | .operand =>
      match a.addOperands most [arg] with
      | .error s => .error s
      | .ok a => readArguments forms most args a
    | .option o (some value) =>
      match a.addOption o value with
      | .error s => .error s
      | .ok a => readArguments forms most args a
    | .option o none =>
      match o.value, args with
      | none, args =>
        match a.addOption o "" with
        | .error s => .error s
        | .ok a => readArguments forms most args a
      | some _, value :: args =>
        if startsOption value then .error .misuse
        else
          match a.addOption o value with
          | .error s => .error s
          | .ok a => readArguments forms most args a
      | some _, [] => .error .misuse

end AgentTrial.Cli

import ParserKit.Command.Basic
import ParserKit.Command.Help

/-! The arguments of the command line. An argument is a list of bytes, since it need not be well-formed
text; only the input of a command must be. Arguments are read from left to right and the first fault
found decides, except that an ill-formed input is found when the next option is reached, or the end. -/

namespace ParserKit

/-- An argument of the command line, in UTF-8 if it is text at all. -/
structure Argument where
  bytes : List UInt8
deriving DecidableEq

namespace Argument

def ofString (s : String) : Argument := ⟨s.toUTF8.toList⟩

instance : Coe String Argument := ⟨ofString⟩

/-- The text of an argument, if it is well-formed. -/
def text? (a : Argument) : Option Text := (String.fromUTF8? ⟨a.bytes.toArray⟩).map Text.ofString

/-- What an argument looks like where options are allowed. -/
inductive Form
  /-- Two dashes: no option follows. -/
  | separator
  /-- Two dashes and a name, and whether a value follows after an equals sign. -/
  | long (name : Argument) (hasValue : Bool)
  /-- A dash and a letter, whatever follows. -/
  | short (letter : UInt8)
  /-- Anything else; so is a dash alone. -/
  | plain
deriving DecidableEq

/-- The byte of a dash. -/
def dash : UInt8 := 0x2D

/-- The byte of an equals sign. -/
def equals : UInt8 := 0x3D

def form (a : Argument) : Form :=
  match a.bytes with
  | [] => .plain
  | b :: rest =>
    if b ≠ dash then .plain
    else match rest with
      | [] => .plain
      | c :: name =>
        if c ≠ dash then .short c
        else if name.isEmpty then .separator
        else .long ⟨name.takeWhile (· != equals)⟩ (name.contains equals)

end Argument

/-- Why arguments ask for nothing that can be done. -/
inductive UsageError
  | noSubcommand
  | unknownSubcommand
  | unknownArgument
  | noInput
  | unwantedValue
  | repeatedOption
  | illFormedText
deriving DecidableEq, Repr

/-- What the arguments ask for. -/
inductive Request
  | run (command : Command)
  | help (topic : Topic)
  | version
deriving DecidableEq

namespace Request

/-- A subcommand that reads a number. -/
inductive Reader
  | eval
  | roman
deriving DecidableEq, Repr

/-- An option of a reading subcommand, apart from help. -/
inductive Switch
  | unchecked
  | allowPartial
deriving DecidableEq, Repr

namespace Reader

def topic : Reader → Topic
  | eval => .eval
  | roman => .roman

/-- The option of the given name that a subcommand has. -/
def switch? (r : Reader) (name : Argument) : Option Switch :=
  if name = "allow-partial" then some .allowPartial
  else if r = .roman ∧ name = "unchecked" then some .unchecked
  else none

/-- The command for an input and the options given. -/
def command (r : Reader) (input : Text) (given : List Switch) : Command :=
  match r with
  | eval => .eval input (given.contains .allowPartial)
  | roman => .roman input (given.contains .unchecked) (given.contains .allowPartial)

end Reader

/-- What was read of a subcommand's arguments so far. -/
structure Progress where
  input : Option Argument := none
  given : List Switch := []
  separated : Bool := false

namespace Progress

/-- An input is looked at only when what follows it is acted on. -/
def checkInput (p : Progress) : Except UsageError (Option Text) :=
  match p.input with
  | none => .ok none
  | some a => match a.text? with
    | some s => .ok (some s)
    | none => .error .illFormedText

/-- One more input. -/
def addInput (p : Progress) (a : Argument) : Except UsageError Progress :=
  if p.input.isSome then .error .unknownArgument else .ok { p with input := some a }

/-- One more option. -/
def addSwitch (p : Progress) (s : Switch) : Except UsageError Progress := do
  let _ ← p.checkInput
  if p.given.contains s then .error .repeatedOption else .ok { p with given := s :: p.given }

end Progress

/-- The byte of `h`, for help. -/
def helpLetter : UInt8 := 0x68

/-- The byte of `V`, for the version. -/
def versionLetter : UInt8 := 0x56

/-- What the arguments of a reading subcommand ask for. -/
def ofReader (r : Reader) (p : Progress) : List Argument → Except UsageError Request
  | [] => do
    match ← p.checkInput with
    | some input => .ok (.run (r.command input p.given))
    | none => .error .noInput
  | a :: rest =>
    if p.separated then do ofReader r (← p.addInput a) rest
    else match a.form with
      | .plain => do ofReader r (← p.addInput a) rest
      | .separator => ofReader r { p with separated := true } rest
      | .short letter =>
        if letter = helpLetter then do
          let _ ← p.checkInput
          .ok (.help r.topic)
        else .error .unknownArgument
      | .long name hasValue =>
        if name = "help" then
          if hasValue then .error .unwantedValue
          else do
            let _ ← p.checkInput
            .ok (.help r.topic)
        else match r.switch? name with
          | none => .error .unknownArgument
          | some s =>
            if hasValue then .error .unwantedValue
            else do ofReader r (← p.addSwitch s) rest

/-- The topic of a subcommand's name. -/
def topic? (a : Argument) : Option Topic :=
  if a = "eval" then some .eval
  else if a = "roman" then some .roman
  else if a = "help" then some .help
  else none

/-- What the arguments of the help subcommand ask for: at most one topic. -/
def ofHelp : List Argument → Except UsageError Request
  | [] => .ok (.help .program)
  | [a] => match topic? a with
    | some topic => .ok (.help topic)
    | none => .error .unknownSubcommand
  | _ :: _ :: _ => .error .unknownSubcommand

/-- What the arguments of the program ask for. -/
def ofArguments : List Argument → Except UsageError Request
  | [] => .error .noSubcommand
  | a :: rest => match topic? a with
    | some .eval => ofReader .eval {} rest
    | some .roman => ofReader .roman {} rest
    | some .help => ofHelp rest
    | some .program | none => match a.form with
      | .plain => .error .unknownSubcommand
      | .separator => match rest with
        | [] => .error .noSubcommand
        | b :: _ => .error (if (topic? b).isSome then .unknownArgument else .unknownSubcommand)
      | .short letter =>
        if letter = helpLetter then .ok (.help .program)
        else if letter = versionLetter then .ok .version
        else .error .unknownArgument
      | .long name hasValue =>
        if name = "help" then if hasValue then .error .unwantedValue else .ok (.help .program)
        else if name = "version" then if hasValue then .error .unwantedValue else .ok .version
        else .error .unknownArgument

end Request

end ParserKit

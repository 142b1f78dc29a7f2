import ParserKit.Command.Arguments

/-! What a run of the program leaves behind. -/

namespace ParserKit

/-- A wording of each misuse. -/
def UsageError.message : UsageError → String
  | noSubcommand => "a subcommand is required"
  | unknownSubcommand => "unrecognized subcommand"
  | unknownArgument => "unexpected argument"
  | noInput => "the input is missing"
  | unwantedValue => "unexpected value for an option"
  | repeatedOption => "an option was given twice"
  | illFormedText => "the input is not valid UTF-8"

/-- The exit code and the two outputs of a run. -/
structure Outcome where
  code : UInt8
  output : String
  errors : String
deriving DecidableEq

/-- Success is `0`; an input that cannot be read is `1` and arguments that ask for nothing are `2`. -/
def Outcome.ofArguments (args : List Argument) : Outcome :=
  match Request.ofArguments args with
  | .error e => ⟨2, "", "error: " ++ e.message ++ "\n"⟩
  | .ok (.help topic) => ⟨0, topic.text, ""⟩
  | .ok .version => ⟨0, versionText, ""⟩
  | .ok (.run command) => match command.run with
    | .ok answer => ⟨0, answer.text ++ "\n", ""⟩
    | .error e => ⟨1, "", "Error: " ++ e.message ++ "\n"⟩

end ParserKit

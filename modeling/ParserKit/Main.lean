import ParserKit.Command.Outcome

/-! The command line. -/

def main (args : List String) : IO UInt32 := do
  let outcome := ParserKit.Outcome.ofArguments (args.map ParserKit.Argument.ofString)
  IO.print outcome.output
  IO.eprint outcome.errors
  return outcome.code.toUInt32

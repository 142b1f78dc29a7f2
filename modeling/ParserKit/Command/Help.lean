/-! The texts of help and version. -/

namespace ParserKit

/-- What help can be asked about. -/
inductive Topic
  | program
  | eval
  | roman
  | help
deriving DecidableEq, Repr

/-- The name and version of the program. -/
def versionText : String := "funcomb 0.1.0\n"

/-- Help on a topic, in whole lines. -/
def Topic.text : Topic → String
  | program =>
    "Evaluate arithmetic expressions and Roman numerals with parser combinators.\n\n" ++
    "Usage: funcomb <COMMAND>\n\n" ++
    "Commands:\n" ++
    "  eval   Evaluate an expression over naturals with `+`, `*` and parentheses\n" ++
    "  roman  Decode a Roman numeral\n" ++
    "  help   Print this message or the help of the given subcommand(s)\n\n" ++
    "Options:\n" ++
    "  -h, --help     Print help\n" ++
    "  -V, --version  Print version\n"
  | eval =>
    "Evaluate an expression over naturals with `+`, `*` and parentheses\n\n" ++
    "Usage: funcomb eval [OPTIONS] <EXPRESSION>\n\n" ++
    "Arguments:\n" ++
    "  <EXPRESSION>  \n\n" ++
    "Options:\n" ++
    "      --allow-partial  Print the value even if part of the input was not consumed\n" ++
    "  -h, --help           Print help\n"
  | roman =>
    "Decode a Roman numeral\n\n" ++
    "Usage: funcomb roman [OPTIONS] <NUMERAL>\n\n" ++
    "Arguments:\n" ++
    "  <NUMERAL>  \n\n" ++
    "Options:\n" ++
    "      --unchecked      Sum the symbols without checking that the numeral is well formed\n" ++
    "      --allow-partial  Print the value even if part of the input was not consumed\n" ++
    "  -h, --help           Print help\n"
  | help =>
    "Print this message or the help of the given subcommand(s)\n\n" ++
    "Usage: funcomb help [COMMAND]...\n\n" ++
    "Arguments:\n" ++
    "  [COMMAND]...  Print help for the subcommand(s)\n"

end ParserKit

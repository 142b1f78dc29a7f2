import ParserKit.Arithmetic.Tree
import ParserKit.Main
import ParserKit.Parser.Composition
import ParserKit.Roman.Proper
import ParserKit.Session
import ParserKit.Proofs.Parser.Remainders
import ParserKit.Proofs.Parser.Algebra
import ParserKit.Proofs.Parser.Canonical
import ParserKit.Proofs.Parser.Repetition
import ParserKit.Proofs.Parser.RepetitionLaws
import ParserKit.Proofs.Parser.Lockstep
import ParserKit.Proofs.Lexical.Tokens
import ParserKit.Proofs.Lexical.Numbers
import ParserKit.Proofs.Lexical.Spacing
import ParserKit.Proofs.Lexical.Names
import ParserKit.Proofs.Lexical.Literals
import ParserKit.Proofs.Lexical.NumberLists
import ParserKit.Proofs.Arithmetic.Written
import ParserKit.Proofs.Arithmetic.Soundness
import ParserKit.Proofs.Arithmetic.Equations
import ParserKit.Proofs.Arithmetic.Chains
import ParserKit.Proofs.Arithmetic.Completeness
import ParserKit.Proofs.Arithmetic.Beginnings
import ParserKit.Proofs.Arithmetic.Levels
import ParserKit.Proofs.Arithmetic.Stopping
import ParserKit.Proofs.Arithmetic.Overflow
import ParserKit.Proofs.Arithmetic.Interchange
import ParserKit.Proofs.Arithmetic.Replacement
import ParserKit.Proofs.Roman.Words
import ParserKit.Proofs.Roman.Groups
import ParserKit.Proofs.Roman.Falling
import ParserKit.Proofs.Roman.ProperForm
import ParserKit.Proofs.Roman.Unchecked
import ParserKit.Proofs.Roman.Encoding
import ParserKit.Proofs.Roman.Symbols
import ParserKit.Proofs.Roman.Sums
import ParserKit.Proofs.Text.Quoting
import ParserKit.Proofs.Command.Acceptance
import ParserKit.Proofs.Command.PartialAnswers
import ParserKit.Proofs.Vocabulary

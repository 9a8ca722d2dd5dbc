import Recognizer.Check
import Recognizer.CommandLine.Arguments
import Recognizer.CommandLine.Host
import Recognizer.CommandLine.Run
import Recognizer.CommandLine.Usage
import Recognizer.Diagnostic
import Recognizer.Files.FileSystem
import Recognizer.Files.Loading
import Recognizer.Grammar.Declaration
import Recognizer.Grammar.Expression
import Recognizer.Grammar.Procedure
import Recognizer.Grammar.Program
import Recognizer.Grammar.Statement
import Recognizer.Grammar.Terminal
import Recognizer.Grammar.TokenSource
import Recognizer.Lexical.Fault
import Recognizer.Lexical.Lexeme
import Recognizer.Lexical.Lexer
import Recognizer.Lexical.Munch
import Recognizer.Lexical.Reading
import Recognizer.Lexical.Trivia
import Recognizer.Limits
import Recognizer.Output.DiagnosticLog
import Recognizer.Output.Dump
import Recognizer.Output.Spool
import Recognizer.Output.Writer
import Recognizer.SyntaxError
import Recognizer.Text.Alphabetic
import Recognizer.Text.CodePointRanges
import Recognizer.Text.Escape
import Recognizer.Text.Extending
import Recognizer.Text.Invisible
import Recognizer.Text.Numeric
import Recognizer.Text.Position
import Recognizer.Text.Source
import Recognizer.Text.Utf8
import Recognizer.Text.WordCharacter
import Recognizer.Token
import Recognizer.Vocabulary.Keyword
import Recognizer.Vocabulary.Operator
import Recognizer.Vocabulary.Punctuation
import Recognizer.Main
import Recognizer.Proofs.Lexical.Gap
import Recognizer.Proofs.Lexical.Standing
import Recognizer.Proofs.Lexical.Backtracking
import Recognizer.Proofs.Check.Refinement
import Recognizer.Proofs.Grammar.Leading
import Recognizer.Proofs.Grammar.Combinators
import Recognizer.Proofs.Grammar.Expressions
import Recognizer.Proofs.Grammar.Declarations
import Recognizer.Proofs.Grammar.Statements
import Recognizer.Proofs.Grammar.Programs
import Recognizer.Proofs.Check.Language
import Recognizer.Proofs.Lexical.Spelling
import Recognizer.Proofs.Lexical.Classification
import Recognizer.Proofs.Lexical.Determinacy
import Recognizer.Proofs.Text.Lines
import Recognizer.Proofs.Lexical.Tiling
import Recognizer.Proofs.Lexical.RoundTrip
import Recognizer.Proofs.Lexical.Concatenation
import Recognizer.Proofs.Check.Continuation
import Recognizer.Proofs.Check.Shadow
import Recognizer.Proofs.Check.Concatenation
import Recognizer.Proofs.Check.Coordinates
import Recognizer.Proofs.Grammar.Coupling
import Recognizer.Proofs.Grammar.Invariant
import Recognizer.Proofs.Check.Moments
import Recognizer.Proofs.Check.Pending
import Recognizer.Proofs.Check.Repetition
import Recognizer.Proofs.Check.Threshold
import Recognizer.Proofs.Check.Progress
import Recognizer.Proofs.Lexical.Stability
import Recognizer.Proofs.Lexical.Faults
import Recognizer.Proofs.Lexical.Reports
import Recognizer.Proofs.Text.Preparation
import Recognizer.Proofs.Lexical.Lookahead
import Recognizer.Proofs.Lexical.Trace
import Recognizer.Proofs.Output.Writing
import Recognizer.Proofs.Output.Delivery
import Recognizer.Proofs.Lexical.Roaming
import Recognizer.Proofs.Grammar.Chain
import Recognizer.Proofs.Check.Alternatives
import Recognizer.Proofs.Lexical.Capacity
import Recognizer.Proofs.Check.Capacity
import Recognizer.Proofs.Text.Slicing
import Recognizer.Proofs.Text.Spans
import Recognizer.Proofs.Text.Acceptance
import Recognizer.Proofs.Check.Sinks
import Recognizer.Proofs.Output.Verdicts
import Recognizer.Proofs.Text.Unbroken
import Recognizer.Proofs.Output.Wording
import Recognizer.Proofs.Output.Taking
import Recognizer.Proofs.Output.Decoding
import Recognizer.Proofs.Output.Watching
import Recognizer.Proofs.Files.Places
import Recognizer.Proofs.Files.Loading
import Recognizer.Proofs.Output.Spooling
import Recognizer.Proofs.CommandLine.Effects

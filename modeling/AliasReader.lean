import AliasReader.Alias.Exposure
import AliasReader.Alias.Failure
import AliasReader.Alias.Reference
import AliasReader.Alias.Registry
import AliasReader.Alias.Table
import AliasReader.Alias.Token
import AliasReader.Command.Options
import AliasReader.Command.Run
import AliasReader.Datum
import AliasReader.Dictionary
import AliasReader.Main
import AliasReader.Namespace.Designator
import AliasReader.Namespace.Failure
import AliasReader.Namespace.Handle
import AliasReader.Namespace.Interner
import AliasReader.Namespace.SymbolTable
import AliasReader.Proofs.Alias.CanonicalTable
import AliasReader.Proofs.Alias.ExposedBody
import AliasReader.Proofs.Alias.ExposedNames
import AliasReader.Proofs.Alias.LastRegistration
import AliasReader.Proofs.Alias.Persistence
import AliasReader.Proofs.Alias.ReferenceGrammar
import AliasReader.Proofs.Alias.Registration
import AliasReader.Proofs.Alias.Resolution
import AliasReader.Proofs.Alias.Visibility
import AliasReader.Proofs.Alias.Withdrawal
import AliasReader.Proofs.Command.Arguments
import AliasReader.Proofs.Namespace.AllOrNothing
import AliasReader.Proofs.Namespace.Arena
import AliasReader.Proofs.Namespace.ArenaHistory
import AliasReader.Proofs.Namespace.Declaration
import AliasReader.Proofs.Namespace.Exports
import AliasReader.Proofs.Namespace.Handles
import AliasReader.Proofs.Namespace.History
import AliasReader.Proofs.Namespace.InternedTexts
import AliasReader.Proofs.Namespace.Interning
import AliasReader.Proofs.Namespace.NameIndex
import AliasReader.Proofs.Namespace.NameTables
import AliasReader.Proofs.Namespace.Renaming
import AliasReader.Proofs.Namespace.Representation
import AliasReader.Proofs.Namespace.SymbolHistory
import AliasReader.Proofs.Namespace.WellFormed
import AliasReader.Proofs.Reader.Again
import AliasReader.Proofs.Reader.AliasedReference
import AliasReader.Proofs.Reader.Allowance
import AliasReader.Proofs.Reader.Confinement
import AliasReader.Proofs.Reader.Delegation
import AliasReader.Proofs.Reader.FailurePlace
import AliasReader.Proofs.Reader.Grammar
import AliasReader.Proofs.Reader.Grounded
import AliasReader.Proofs.Reader.HandlerTally
import AliasReader.Proofs.Reader.InvertedTokens
import AliasReader.Proofs.Reader.Isolation
import AliasReader.Proofs.Reader.Lexeme
import AliasReader.Proofs.Reader.Locality
import AliasReader.Proofs.Reader.MadeSymbols
import AliasReader.Proofs.Reader.Ordinary
import AliasReader.Proofs.Reader.Progress
import AliasReader.Proofs.Reader.ReadBack
import AliasReader.Proofs.Reader.ReferenceToken
import AliasReader.Proofs.Reader.SeveralSentinels
import AliasReader.Proofs.Reader.Simulation
import AliasReader.Proofs.Reader.Standard
import AliasReader.Proofs.Reader.Termination
import AliasReader.Proofs.Reader.Trail
import AliasReader.Proofs.Reader.Walk
import AliasReader.Proofs.Report.Carets
import AliasReader.Proofs.Report.Colors
import AliasReader.Proofs.Report.Rendering
import AliasReader.Proofs.Script.Definition
import AliasReader.Proofs.Script.Failing
import AliasReader.Proofs.Script.Joined
import AliasReader.Proofs.Script.Safety
import AliasReader.Proofs.Script.Stepwise
import AliasReader.Proofs.Script.Trail
import AliasReader.Proofs.Script.Unaliased
import AliasReader.Proofs.Script.WellFormed
import AliasReader.Proofs.Source.Boundary
import AliasReader.Proofs.Source.ByteCursor
import AliasReader.Proofs.Source.CharacterList
import AliasReader.Proofs.Source.Course
import AliasReader.Proofs.Source.Excerpt
import AliasReader.Proofs.Source.Location
import AliasReader.Proofs.Source.Walk
import AliasReader.Proofs.Text.ByteOrder
import AliasReader.Proofs.Text.ByteSearch
import AliasReader.Proofs.Text.Folding
import AliasReader.Proofs.Text.InvertedCase
import AliasReader.Proofs.Unicode.CaseMapping
import AliasReader.Reader.Failure
import AliasReader.Reader.Form
import AliasReader.Reader.ReadTable
import AliasReader.Reader.Sentinel
import AliasReader.Reader.State
import AliasReader.Report.Code
import AliasReader.Report.Diagnostic
import AliasReader.Report.Terminal
import AliasReader.Script.Directive
import AliasReader.Script.Failure
import AliasReader.Script.Session
import AliasReader.Source.Cursor
import AliasReader.Source.Line
import AliasReader.Source.Span
import AliasReader.Text.ByteLength
import AliasReader.Text.CasePolicy
import AliasReader.Text.Quoted
import AliasReader.Unicode.CaseTables
import AliasReader.Unicode.HiddenTable
import AliasReader.Unicode.LetterCase
import AliasReader.Unicode.Run
import AliasReader.Unicode.Whitespace

import CallScope.Address
import CallScope.CallGraph.Adjacency
import CallScope.CallGraph.Basic
import CallScope.CallGraph.Reachability
import CallScope.Console.Answer
import CallScope.Console.Invocation
import CallScope.Console.Run
import CallScope.Console.Usage
import CallScope.Console.Words
import CallScope.Disassembly
import CallScope.Feed
import CallScope.Host.Basic
import CallScope.Host.Launch
import CallScope.Host.Sandbox
import CallScope.Json.Basic
import CallScope.Json.Spelling
import CallScope.Json.Writer
import CallScope.Load
import CallScope.Main
import CallScope.Numeral.Binary64
import CallScope.Numeral.Literal
import CallScope.Numeral.Positional
import CallScope.Path
import CallScope.Service.Answer
import CallScope.Service.Catalog
import CallScope.Service.Dispatch
import CallScope.Survey.Basic
import CallScope.Survey.Query
import CallScope.Survey.Record
import CallScope.Survey.Report
import CallScope.SymbolListing
import CallScope.SymbolTable
import CallScope.SymbolTable.Floor
import CallScope.Text.Blank
import CallScope.Text.CodeRange
import CallScope.Text.DecimalDigit
import CallScope.Text.Lines
import CallScope.Text.Printable
import CallScope.Text.Quoted
import CallScope.Text.Utf8
import CallScope.Text.WordCharacter
import CallScope.Toolchain
import CallScope.SymbolTable.Index
import CallScope.Proofs.SymbolTable
import CallScope.Proofs.SymbolIndex
import CallScope.Proofs.SymbolRequests
import CallScope.Proofs.CallGraph
import CallScope.Proofs.Reachability
import CallScope.Proofs.Survey
import CallScope.Proofs.Listings
import CallScope.Proofs.SurveyHistory
import CallScope.Proofs.ReachAnswer
import CallScope.Proofs.Load
import CallScope.Proofs.SurveyOrder
import CallScope.Proofs.SurveyChunks
import CallScope.Proofs.SurveyTally
import CallScope.Proofs.RecordOrder
import CallScope.Proofs.Characters
import CallScope.Proofs.SymbolRow
import CallScope.Proofs.SymbolReport
import CallScope.Proofs.FrontEnds
import CallScope.Proofs.JsonText
import CallScope.Proofs.Sandbox
import CallScope.Proofs.Dispatch
import CallScope.Proofs.ReachableSet
import CallScope.Proofs.RepeatedSymbols
import CallScope.Proofs.TransferPattern
import CallScope.Proofs.SurveySize
import CallScope.Proofs.CommandWords
import CallScope.Proofs.CommandRun
import CallScope.Proofs.RowPattern
import CallScope.Proofs.Sections
import CallScope.Proofs.TransferLayout
import CallScope.Proofs.SymbolMentions
import CallScope.Host.Reader
import CallScope.Proofs.Lines
import CallScope.Proofs.Reader
import CallScope.Proofs.OutputLines
import CallScope.Proofs.Numerals
import CallScope.Proofs.AddressLookup
import CallScope.Proofs.EdgeCounts
import CallScope.Proofs.SearchSteps
import CallScope.Proofs.Literals
import CallScope.Proofs.AddressArgument
import CallScope.Proofs.JsonGrammar
import CallScope.Proofs.JsonReading
import CallScope.Proofs.Payloads
import CallScope.Proofs.IndexedSurvey

import TypingBundle.Bundle
import TypingBundle.CommandLine.Arguments
import TypingBundle.CommandLine.Help
import TypingBundle.CommandLine.Merge
import TypingBundle.CommandLine.Run
import TypingBundle.Error
import TypingBundle.Exclude
import TypingBundle.Exports
import TypingBundle.Graph.Traversal
import TypingBundle.Inclusion
import TypingBundle.Indent
import TypingBundle.Json.Commented
import TypingBundle.Json.Numeral
import TypingBundle.Json.Token
import TypingBundle.Json.Value
import TypingBundle.Line.Class
import TypingBundle.Line.Comment
import TypingBundle.Line.Import
import TypingBundle.Line.Modifier
import TypingBundle.Line.Scan
import TypingBundle.Line.Specifier
import TypingBundle.Log.Bundle
import TypingBundle.Log.Event
import TypingBundle.Log.Filter
import TypingBundle.Log.Written
import TypingBundle.Main
import TypingBundle.OptionFile
import TypingBundle.Options.Basic
import TypingBundle.Options.Resolve
import TypingBundle.Options.Shown
import TypingBundle.Output
import TypingBundle.Path.Basic
import TypingBundle.Path.Location
import TypingBundle.Pattern.ClassName
import TypingBundle.Pattern.Expr
import TypingBundle.Pattern.Glob
import TypingBundle.Pattern.Regex
import TypingBundle.Pattern.Regex.Bracket
import TypingBundle.Pattern.Regex.Escape
import TypingBundle.Pattern.Regex.Flags
import TypingBundle.Pattern.Regex.Size
import TypingBundle.Pattern.Regex.Tree
import TypingBundle.Pattern.Room
import TypingBundle.Pattern.Utf8
import TypingBundle.Proofs.Graph.BreadthFirst
import TypingBundle.Proofs.Registry
import TypingBundle.Record.Basic
import TypingBundle.Record.Comment
import TypingBundle.Record.Parse
import TypingBundle.Registry
import TypingBundle.Rename
import TypingBundle.Store.Basic
import TypingBundle.Store.Cause
import TypingBundle.Store.Disk
import TypingBundle.Store.Folder
import TypingBundle.Store.Memory
import TypingBundle.Text.Age
import TypingBundle.Text.AgeRuns
import TypingBundle.Text.Basic
import TypingBundle.Text.Boundary
import TypingBundle.Text.Case
import TypingBundle.Text.Category
import TypingBundle.Text.CategoryRuns
import TypingBundle.Text.CharSet
import TypingBundle.Text.Property
import TypingBundle.Text.PropertyRuns
import TypingBundle.Text.Quoted
import TypingBundle.Text.Recent
import TypingBundle.Text.Script
import TypingBundle.Text.ScriptRuns
import TypingBundle.Text.Shown
import TypingBundle.Proofs.Exports
import TypingBundle.Proofs.Inclusion
import TypingBundle.Proofs.Bundle.Effect
import TypingBundle.Proofs.Rename
import TypingBundle.Proofs.Bundle.Agreement
import TypingBundle.Proofs.Bundle.Turns
import TypingBundle.Proofs.Options.Naming
import TypingBundle.Proofs.Bundle.Blocks
import TypingBundle.Proofs.Bundle.Encoding
import TypingBundle.Proofs.Bundle.Identity
import TypingBundle.Proofs.Bundle.Failure
import TypingBundle.Proofs.Path.OneLine
import TypingBundle.Proofs.Bundle.Lines
import TypingBundle.Proofs.Inclusion.Omissions
import TypingBundle.Proofs.Record.Classified
import TypingBundle.Proofs.Record.Documentation
import TypingBundle.Proofs.Record.Spans
import TypingBundle.Proofs.Json.Commented
import TypingBundle.Proofs.Exports.Conflicts
import TypingBundle.Proofs.Registry.ImportSites
import TypingBundle.Proofs.Rename.Frame
import TypingBundle.Proofs.Options.LibraryName
import TypingBundle.Proofs.Path.Way
import TypingBundle.Proofs.Options.Address
import TypingBundle.Proofs.Bundle.Directives
import TypingBundle.Proofs.Bundle.Missing
import TypingBundle.Proofs.CommandLine.Header
import TypingBundle.Proofs.Line.Grammar
import TypingBundle.Proofs.Line.Replacement
import TypingBundle.Proofs.Store.Listing
import TypingBundle.Proofs.Json.Members
import TypingBundle.Proofs.OptionFile
import TypingBundle.Proofs.Indent.Detection
import TypingBundle.Proofs.Indent.Exchange
import TypingBundle.Proofs.Record.Places
import TypingBundle.Proofs.Store.History
import TypingBundle.Proofs.Path.Laws
import TypingBundle.Proofs.Json.Kept

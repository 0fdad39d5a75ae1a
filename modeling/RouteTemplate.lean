import RouteTemplate.CommandLine.FileTree
import RouteTemplate.CommandLine.Run
import RouteTemplate.Main
import RouteTemplate.Proofs.FirstFailure
import RouteTemplate.Proofs.Template.Nesting
import RouteTemplate.Proofs.Pattern.Nodes
import RouteTemplate.Proofs.Template.Piece
import RouteTemplate.Proofs.Template.Reading
import RouteTemplate.Proofs.Template.Expansion
import RouteTemplate.Proofs.Template.Chain
import RouteTemplate.Proofs.Template.Enclosed
import RouteTemplate.Proofs.Template.Scan
import RouteTemplate.Proofs.Template.Folds
import RouteTemplate.Proofs.Template.Tour
import RouteTemplate.Proofs.Template.Visits
import RouteTemplate.Proofs.Template.Watch
import RouteTemplate.Proofs.Template.Ignoring
import RouteTemplate.Proofs.Text.Quoted
import RouteTemplate.Proofs.Pattern.Outline
import RouteTemplate.Proofs.Json.Tables
import RouteTemplate.Proofs.Json.Grammar
import RouteTemplate.Proofs.Json.Lexemes
import RouteTemplate.Proofs.Json.Numerals
import RouteTemplate.Proofs.Json.Scanning
import RouteTemplate.Proofs.Json.Parsing
import RouteTemplate.Proofs.Json.Reading
import RouteTemplate.Proofs.Json.Decoding
import RouteTemplate.Proofs.Pattern.Decoding
import RouteTemplate.Proofs.Json.Writing
import RouteTemplate.Proofs.Action
import RouteTemplate.Proofs.Json.Records
import RouteTemplate.Proofs.Json.Rewriting
import RouteTemplate.Proofs.OrderedMap
import RouteTemplate.Proofs.Registry.Entries
import RouteTemplate.Proofs.Registry.Decoding
import RouteTemplate.Proofs.Registry.Runs
import RouteTemplate.Proofs.Registry.Merging
import RouteTemplate.Proofs.Manifest.Decoding
import RouteTemplate.Proofs.Manifest.Presentation
import RouteTemplate.Proofs.Registry.RoundTrip
import RouteTemplate.Proofs.Manifest.RoundTrip
import RouteTemplate.Proofs.Route.Compiling
import RouteTemplate.Proofs.Route.Suffix
import RouteTemplate.Proofs.Manifest.Query
import RouteTemplate.Proofs.Manifest.Templates
import RouteTemplate.Proofs.Manifest.Events
import RouteTemplate.Proofs.CommandLine.Views
import RouteTemplate.Proofs.CommandLine.Input
import RouteTemplate.Proofs.CommandLine.Stages
import RouteTemplate.Proofs.Options.Decoding
import RouteTemplate.Proofs.Options.Runs
import RouteTemplate.Proofs.CommandLine.Spelling
import RouteTemplate.Proofs.CommandLine.Settings
import RouteTemplate.Proofs.CommandLine.Flags

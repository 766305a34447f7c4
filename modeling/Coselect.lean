import Coselect.Alias.Mapping
import Coselect.Analysis.Analyze
import Coselect.Analysis.Caches
import Coselect.Analysis.Exclusion
import Coselect.Analysis.Expand
import Coselect.Analysis.Inquiry
import Coselect.Analysis.Locate
import Coselect.Analysis.Resolve
import Coselect.Analysis.TestFile
import Coselect.Analysis.Workspace
import Coselect.Api.Request
import Coselect.Api.Routes
import Coselect.Api.Target
import Coselect.Disk.Change
import Coselect.Disk.Query
import Coselect.Disk.Tree
import Coselect.Fault
import Coselect.Fault.Named
import Coselect.Glob.Matcher
import Coselect.Glob.Piece
import Coselect.Glob.Safety
import Coselect.Glob.Set
import Coselect.Graph.Basic
import Coselect.Graph.Clock
import Coselect.Graph.Cycles
import Coselect.Graph.Walk
import Coselect.Ignore.Rule
import Coselect.Imports.Cache
import Coselect.Imports.Clause
import Coselect.Imports.Comment
import Coselect.Imports.Extract
import Coselect.Imports.Registry
import Coselect.Imports.Scan
import Coselect.Imports.Statement
import Coselect.Json.Basic
import Coselect.Json.Reader
import Coselect.Json.Relaxed
import Coselect.Json.Writer
import Coselect.Log.Format
import Coselect.Log.Logger
import Coselect.Log.Value
import Coselect.Number.Digits
import Coselect.Number.Shortest
import Coselect.Path
import Coselect.Proofs.Alias.Document
import Coselect.Proofs.Alias.Expression
import Coselect.Proofs.Alias.Matching
import Coselect.Proofs.Analysis.Analyze
import Coselect.Proofs.Analysis.Confined
import Coselect.Proofs.Analysis.ConventionalTests
import Coselect.Proofs.Analysis.Drawn
import Coselect.Proofs.Analysis.Ends
import Coselect.Proofs.Analysis.Exclusion
import Coselect.Proofs.Analysis.Expand
import Coselect.Proofs.Analysis.Extraction
import Coselect.Proofs.Analysis.Failing
import Coselect.Proofs.Analysis.Findings
import Coselect.Proofs.Analysis.Following
import Coselect.Proofs.Analysis.Globbing
import Coselect.Proofs.Analysis.IgnoreFiles
import Coselect.Proofs.Analysis.Leads
import Coselect.Proofs.Analysis.Loading
import Coselect.Proofs.Analysis.Locating
import Coselect.Proofs.Analysis.MappingFile
import Coselect.Proofs.Analysis.NamedTests
import Coselect.Proofs.Analysis.Narrowing
import Coselect.Proofs.Analysis.OnDisk
import Coselect.Proofs.Analysis.Parts
import Coselect.Proofs.Analysis.Probing
import Coselect.Proofs.Analysis.Resetting
import Coselect.Proofs.Analysis.Reuse
import Coselect.Proofs.Analysis.Sharing
import Coselect.Proofs.Analysis.Storing
import Coselect.Proofs.Analysis.Survey
import Coselect.Proofs.Analysis.Templates
import Coselect.Proofs.Analysis.TestOptions
import Coselect.Proofs.Analysis.Uncancelled
import Coselect.Proofs.Disk.Places
import Coselect.Proofs.Disk.Timeline
import Coselect.Proofs.Disk.Writing
import Coselect.Proofs.Glob.Items
import Coselect.Proofs.Glob.Safety
import Coselect.Proofs.Glob.Segments
import Coselect.Proofs.Graph.Absorb
import Coselect.Proofs.Graph.Cycles
import Coselect.Proofs.Graph.Distance
import Coselect.Proofs.Graph.Exhausted
import Coselect.Proofs.Graph.Journey
import Coselect.Proofs.Graph.Lockstep
import Coselect.Proofs.Graph.Neighbour
import Coselect.Proofs.Graph.Prefix
import Coselect.Proofs.Graph.Progress
import Coselect.Proofs.Graph.SimpleCycles
import Coselect.Proofs.Graph.SimplePaths
import Coselect.Proofs.Graph.Sorted
import Coselect.Proofs.Graph.Sound
import Coselect.Proofs.Graph.WellFormed
import Coselect.Proofs.Ignore.LastMatch
import Coselect.Proofs.Ignore.Rules
import Coselect.Proofs.Imports.Bindings
import Coselect.Proofs.Imports.Cache
import Coselect.Proofs.Imports.Clause
import Coselect.Proofs.Imports.Comments
import Coselect.Proofs.Imports.Extract
import Coselect.Proofs.Imports.Form
import Coselect.Proofs.Imports.Leading
import Coselect.Proofs.Imports.Malformed
import Coselect.Proofs.Imports.Order
import Coselect.Proofs.Imports.Page
import Coselect.Proofs.Imports.Reading
import Coselect.Proofs.Imports.Recognizers
import Coselect.Proofs.Imports.Retention
import Coselect.Proofs.Imports.Scan
import Coselect.Proofs.Imports.Source
import Coselect.Proofs.Imports.Tokens
import Coselect.Proofs.Imports.Written
import Coselect.Proofs.Json.Accepted
import Coselect.Proofs.Json.Phrase
import Coselect.Proofs.Json.Reading
import Coselect.Proofs.Json.Relaxed
import Coselect.Proofs.Path
import Coselect.Proofs.Path.Descent
import Coselect.Proofs.Path.Parts
import Coselect.Proofs.Selection.Alone
import Coselect.Proofs.Selection.Applied
import Coselect.Proofs.Selection.Calls
import Coselect.Proofs.Selection.Client
import Coselect.Proofs.Selection.Coherent
import Coselect.Proofs.Selection.Contribution
import Coselect.Proofs.Selection.Failing
import Coselect.Proofs.Selection.Fate
import Coselect.Proofs.Selection.History
import Coselect.Proofs.Selection.KeyedLock
import Coselect.Proofs.Selection.Lock
import Coselect.Proofs.Selection.LockRuns
import Coselect.Proofs.Selection.LockSteps
import Coselect.Proofs.Selection.LockTable
import Coselect.Proofs.Selection.Queues
import Coselect.Proofs.Selection.Register
import Coselect.Proofs.Selection.Requests
import Coselect.Proofs.Selection.Selecting
import Coselect.Proofs.Selection.State
import Coselect.Proofs.Selection.Traffic
import Coselect.Proofs.Table
import Coselect.Proofs.Text.Parts
import Coselect.Proofs.Text.Replace
import Coselect.Proofs.Text.Words
import Coselect.Selection.KeyedLock
import Coselect.Selection.LockTable
import Coselect.Selection.Orchestrator
import Coselect.Selection.Record
import Coselect.Selection.Service
import Coselect.Selection.Site
import Coselect.Selection.State
import Coselect.Settings.Application
import Coselect.Settings.Config
import Coselect.Settings.Environment
import Coselect.Settings.ExcludesPath
import Coselect.Settings.Input
import Coselect.Table
import Coselect.Text.Basic
import Coselect.Text.CaseRanges
import Coselect.Text.CharClass
import Coselect.Text.CharName
import Coselect.Text.CharRanges
import Coselect.Text.Chinese
import Coselect.Text.CodePages
import Coselect.Text.Codes.Big5
import Coselect.Text.Codes.Big5Hkscs
import Coselect.Text.Codes.Cp932
import Coselect.Text.Codes.Gb18030
import Coselect.Text.Codes.Gbk
import Coselect.Text.Codes.JisX0208
import Coselect.Text.Codes.JisX0212
import Coselect.Text.Codes.JisX0213
import Coselect.Text.Codes.KsX1001
import Coselect.Text.Codes.Run
import Coselect.Text.Decoding
import Coselect.Text.Encoding
import Coselect.Text.Escaped
import Coselect.Text.Front
import Coselect.Text.HiddenRanges
import Coselect.Text.Japanese
import Coselect.Text.Korean
import Coselect.Text.Lines
import Coselect.Text.Lowercase
import Coselect.Text.Names.Aliases
import Coselect.Text.Names.IdeographicToSpecials
import Coselect.Text.Names.LatinToVedic
import Coselect.Text.Names.LinearToDuployan
import Coselect.Text.Names.PhoneticToRadicals
import Coselect.Text.Names.Run
import Coselect.Text.Names.ZnamennyToSelectors
import Coselect.Text.Punycode
import Coselect.Text.Quoted
import Coselect.Text.Switching
import Coselect.Text.Utf7
import Coselect.Text.Wide
import Coselect.Text.WordRanges

import SqlColumns.CommandLine.Printer
import SqlColumns.Identifier.Ranges
import SqlColumns.Json.Parser
import SqlColumns.Main
import SqlColumns.Shell.Programs
import SqlColumns.Proofs.Identifier.Greedy
import SqlColumns.Proofs.Identifier.Search
import SqlColumns.Proofs.FileSystem.Contents
import SqlColumns.Proofs.Text.Utf8
import SqlColumns.Proofs.TextFile
import SqlColumns.Proofs.Rename.Sequence
import SqlColumns.Proofs.Rename.DryRun
import SqlColumns.Proofs.Text.Case
import SqlColumns.Proofs.Identifier.Lowered
import SqlColumns.Proofs.Identifier.Transport
import SqlColumns.Proofs.Scan.Counting
import SqlColumns.Proofs.Scan.Agreement
import SqlColumns.Proofs.Identifier.Pieces
import SqlColumns.Proofs.Identifier.Words
import SqlColumns.Proofs.Identifier.Renaming
import SqlColumns.Proofs.Corpus.Discovery
import SqlColumns.Proofs.Scan.Table
import SqlColumns.Proofs.Sheet
import SqlColumns.Proofs.Workbook
import SqlColumns.Proofs.Task.Scan
import SqlColumns.Proofs.Git.Flow
import SqlColumns.Proofs.Task.Rename
import SqlColumns.Proofs.Task.Order
import SqlColumns.Proofs.Task.Validation
import SqlColumns.Proofs.FirstAppearances
import SqlColumns.Proofs.Scan.Join
import SqlColumns.Proofs.Csv.RoundTrip
import SqlColumns.Proofs.Text.Order
import SqlColumns.Proofs.FileSystem.Change
import SqlColumns.Proofs.FileSystem.Listing
import SqlColumns.Proofs.Workbook.Directory
import SqlColumns.Proofs.Workbook.Refinement
import SqlColumns.Proofs.FileSystem.Write
import SqlColumns.Proofs.Json.RoundTrip
import SqlColumns.Proofs.Workbook.Writing
import SqlColumns.Proofs.Task.Stored
import SqlColumns.Proofs.FileSystem.Tree
import SqlColumns.Proofs.Corpus.Change
import SqlColumns.Proofs.Workbook.Others
import SqlColumns.Proofs.Task.Repeat
import SqlColumns.Proofs.Workbook.Reached
import SqlColumns.Proofs.Task.EachSheet
import SqlColumns.Proofs.Task.Footprint
import SqlColumns.Proofs.Program.Footprint
import SqlColumns.Proofs.Program.Output
import SqlColumns.Proofs.Text.Blocks
import SqlColumns.Proofs.Json.Lines
import SqlColumns.Proofs.Report.ReadBack
import SqlColumns.Proofs.Identifier.Separators
import SqlColumns.Proofs.Rename.Splicing
import SqlColumns.Proofs.CommandLine.Words
import SqlColumns.Proofs.CommandLine.Settings
import SqlColumns.Proofs.CommandLine.Inversion
import SqlColumns.Proofs.Git.Branch
import SqlColumns.Proofs.Identifier.Packing
import SqlColumns.Proofs.Scan.Files
import SqlColumns.Proofs.Identifier.Places
import SqlColumns.Proofs.Git.History
import SqlColumns.Proofs.Task.Implicit
import SqlColumns.Proofs.Workbook.Marked
import SqlColumns.Proofs.Task.Collected
import SqlColumns.Proofs.Task.Reported
import SqlColumns.Proofs.Workbook.Tables
import SqlColumns.Proofs.Path.Relative
import SqlColumns.Proofs.Workbook.Accepted
import SqlColumns.Proofs.Corpus.Filters
import SqlColumns.Proofs.Identifier.OneLine
import SqlColumns.Proofs.Text.WellFormed
import SqlColumns.Proofs.TextFile.Strict

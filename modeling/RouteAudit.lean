import RouteAudit.Main
import RouteAudit.Named
import RouteAudit.Proofs.FileTree.Listing
import RouteAudit.Proofs.FileTree.Alike
import RouteAudit.Proofs.FileTree.RouteFiles
import RouteAudit.Proofs.Rule.Findings
import RouteAudit.Proofs.Scan.Account
import RouteAudit.Proofs.Scan.Modes
import RouteAudit.Proofs.FileTree.PathText
import RouteAudit.Proofs.Scan.DirtyFiles
import RouteAudit.Proofs.FileTree.SoundChange
import RouteAudit.Proofs.Pattern.Language
import RouteAudit.Proofs.Pattern.Places
import RouteAudit.Proofs.Pattern.Search
import RouteAudit.Proofs.Rule.Agreement
import RouteAudit.Proofs.Json.Characters
import RouteAudit.Proofs.Json.RoundTrip
import RouteAudit.Proofs.Report.PlainData
import RouteAudit.Proofs.Report.Script
import RouteAudit.Proofs.Report.SameData
import RouteAudit.Proofs.Report.Markup
import RouteAudit.Proofs.Terminal.Escape
import RouteAudit.Proofs.Terminal.Shown
import RouteAudit.Proofs.Report.Console
import RouteAudit.Proofs.FileTree.Resolve
import RouteAudit.Proofs.FileTree.Written
import RouteAudit.Proofs.CommandLine.Status
import RouteAudit.Proofs.CommandLine.Failure
import RouteAudit.Proofs.Report.Lossless
import RouteAudit.Proofs.Scan.Calls
import RouteAudit.Proofs.Text.Ascii
import RouteAudit.Proofs.Scan.Words
import RouteAudit.Proofs.Scan.LineEnds
import RouteAudit.Proofs.FileTree.LinkFree
import RouteAudit.Proofs.FileTree.Below
import RouteAudit.Proofs.Scan.Unseen
import RouteAudit.Proofs.Scan.Growth
import RouteAudit.Proofs.Rule.Counts
import RouteAudit.Proofs.Rule.FirstPlaces
import RouteAudit.Proofs.Rule.Shape
import RouteAudit.Proofs.Rule.Appending
import RouteAudit.Proofs.Pattern.Imports
import RouteAudit.Proofs.Report.Tallies
import RouteAudit.Proofs.Terminal.Verbatim
import RouteAudit.Proofs.Report.Records
import RouteAudit.Proofs.Scan.FileOrder
import RouteAudit.Proofs.Dependency.Reading
import RouteAudit.Proofs.Dependency.Misuse
import RouteAudit.Proofs.Dependency.Libraries
import RouteAudit.Proofs.Report.Writing
import RouteAudit.Proofs.FileTree.RouteNames

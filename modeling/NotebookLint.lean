import NotebookLint.Binary64.Shortest
import NotebookLint.Declaration
import NotebookLint.Literal.Reader
import NotebookLint.Main
import NotebookLint.Proofs.CommandLine.Writing
import NotebookLint.Proofs.Declaration.Layout
import NotebookLint.Proofs.Declaration.LineEnd
import NotebookLint.Proofs.Engine.ExceptionLine
import NotebookLint.Proofs.Engine.Failure
import NotebookLint.Proofs.Engine.Process
import NotebookLint.Proofs.Literal.Safety
import NotebookLint.Proofs.Literal.NumberSyntax
import NotebookLint.Proofs.Literal.RoundTrip
import NotebookLint.Proofs.Literal.WrittenString
import NotebookLint.Proofs.Notebook.Shape
import NotebookLint.Proofs.Parameter
import NotebookLint.Proofs.Report.Banner
import NotebookLint.Proofs.Report.Color
import NotebookLint.Proofs.Report.Document
import NotebookLint.Proofs.Report.Listing
import NotebookLint.Proofs.Run
import NotebookLint.Proofs.Settings
import NotebookLint.Proofs.Settings.Search
import NotebookLint.Proofs.Settings.Selection
import NotebookLint.Proofs.Verdict
import NotebookLint.Proofs.Declaration.Standing
import NotebookLint.Proofs.Declaration.Statement
import NotebookLint.Proofs.Notebook.Kernel
import NotebookLint.Proofs.Json.Alike
import NotebookLint.Proofs.Json.Field
import NotebookLint.Proofs.Json.Reflexive
import NotebookLint.Proofs.Notebook.Alike
import NotebookLint.Proofs.Notebook.Source
import NotebookLint.Proofs.Check
import NotebookLint.Proofs.Discovery.Agreement
import NotebookLint.Proofs.Exclusion
import NotebookLint.Proofs.Glob

import PlotBoard.Graph
import PlotBoard.Histogram.Statistics
import PlotBoard.Layout.Division
import PlotBoard.Layout.Text
import PlotBoard.Query.Shelf
import PlotBoard.Render.Recording
import PlotBoard.Render.Terminal
import PlotBoard.Settings.Read
import PlotBoard.Proofs.Histogram.Composition
import PlotBoard.Proofs.Histogram.Filling
import PlotBoard.Proofs.Histogram.Runs
import PlotBoard.Proofs.Layout.Frames
import PlotBoard.Proofs.Layout.Numbering
import PlotBoard.Proofs.Layout.RoundTrip
import PlotBoard.Proofs.Layout.Selecting
import PlotBoard.Proofs.Layout.Tiling
import PlotBoard.Proofs.Layout.Turning
import PlotBoard.Proofs.Query.Agreement
import PlotBoard.Proofs.Query.Grammar
import PlotBoard.Proofs.Query.Inversion
import PlotBoard.Proofs.Query.Restriction
import PlotBoard.Proofs.Render.Bars
import PlotBoard.Proofs.Render.Densities
import PlotBoard.Proofs.Query.ProjectionNames
import PlotBoard.Proofs.Layout.Tokens
import PlotBoard.Proofs.Number.NotANumber
import PlotBoard.Proofs.Number.SignedLiterals
import PlotBoard.Proofs.Query.Clauses
import PlotBoard.Proofs.Rect.Nesting
import PlotBoard.Proofs.Render.ReportedRanges
import PlotBoard.Proofs.Graph.Spanning
import PlotBoard.Proofs.Layout.Counting
import PlotBoard.Proofs.Graph.Groups
import PlotBoard.Proofs.Histogram.Visits
import PlotBoard.Proofs.Histogram.Exchanges
import PlotBoard.Proofs.Render.Spacing
import PlotBoard.Proofs.Settings.Loading

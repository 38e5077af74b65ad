import ReachMixture.BitPattern
import ReachMixture.Capacity
import ReachMixture.CommandLine.Location
import ReachMixture.CommandLine.Option
import ReachMixture.CommandLine.Reading
import ReachMixture.CommandLine.Settings
import ReachMixture.Decimal.Binary
import ReachMixture.Decimal.Layout
import ReachMixture.Decimal.Reader
import ReachMixture.Decimal.Rounding
import ReachMixture.Decimal.Shortest
import ReachMixture.Fault
import ReachMixture.Fit.Adaptive
import ReachMixture.Fit.Candidates
import ReachMixture.Fit.Config
import ReachMixture.Fit.Observations
import ReachMixture.Json
import ReachMixture.LeastSquares.ActiveSet
import ReachMixture.LeastSquares.Bidiagonal
import ReachMixture.LeastSquares.Design
import ReachMixture.LeastSquares.MinimumNorm
import ReachMixture.LeastSquares.Pivots
import ReachMixture.LeastSquares.Solver
import ReachMixture.LeastSquares.Spectrum
import ReachMixture.LeastSquares.Tables
import ReachMixture.Linear.Table
import ReachMixture.Linear.Vec
import ReachMixture.Main
import ReachMixture.Mixture.Basic
import ReachMixture.Mixture.Reach
import ReachMixture.Mixture.Text
import ReachMixture.NumberText
import ReachMixture.Proofs.Arithmetic
import ReachMixture.Proofs.Binary64
import ReachMixture.Proofs.CommandLine.Location
import ReachMixture.Proofs.Decimal.Characters
import ReachMixture.Proofs.Decimal.Digits
import ReachMixture.Proofs.Decimal.Interval
import ReachMixture.Proofs.Decimal.Nearest
import ReachMixture.Proofs.Decimal.Reading
import ReachMixture.Proofs.Decimal.RoundTrip
import ReachMixture.Proofs.Decimal.Scientific
import ReachMixture.Proofs.Fit.Budget
import ReachMixture.Proofs.Fit.Draws
import ReachMixture.Proofs.Fit.Extinction
import ReachMixture.Proofs.Fit.Improvement
import ReachMixture.Proofs.Fit.Outcome
import ReachMixture.Proofs.Fit.Prediction
import ReachMixture.Proofs.Fit.Region
import ReachMixture.Proofs.Fit.Residuals
import ReachMixture.Proofs.Fit.Room
import ReachMixture.Proofs.Fit.Sampling
import ReachMixture.Proofs.Fit.Sparsity
import ReachMixture.Proofs.Fit.Steps
import ReachMixture.Proofs.Fit.Unused
import ReachMixture.Proofs.Fit.Vanishing
import ReachMixture.Proofs.Json
import ReachMixture.Proofs.LeastSquares.Boundary
import ReachMixture.Proofs.LeastSquares.Caps
import ReachMixture.Proofs.LeastSquares.Convergence
import ReachMixture.Proofs.LeastSquares.Cost
import ReachMixture.Proofs.LeastSquares.Descent
import ReachMixture.Proofs.LeastSquares.Elimination
import ReachMixture.Proofs.LeastSquares.Feasible
import ReachMixture.Proofs.LeastSquares.Independence
import ReachMixture.Proofs.LeastSquares.Landing
import ReachMixture.Proofs.LeastSquares.Progress
import ReachMixture.Proofs.LeastSquares.Refusal
import ReachMixture.Proofs.LeastSquares.Runs
import ReachMixture.Proofs.LeastSquares.Selection
import ReachMixture.Proofs.Linear.Sums
import ReachMixture.Proofs.Order
import ReachMixture.Proofs.Random.Below
import ReachMixture.Proofs.Random.UnitInterval
import ReachMixture.Proofs.Report.Components
import ReachMixture.Proofs.Results
import ReachMixture.Proofs.Run.Problem
import ReachMixture.Proofs.Run.Records
import ReachMixture.Proofs.Run.Recovery
import ReachMixture.Proofs.Run.Success
import ReachMixture.Proofs.Run.Summary
import ReachMixture.Proofs.Run.SummaryText
import ReachMixture.Proofs.Run.Trajectory
import ReachMixture.Proofs.Session.Export
import ReachMixture.Proofs.Text.Lines
import ReachMixture.Proofs.Text.Pieces
import ReachMixture.Proofs.Trajectory.Table
import ReachMixture.Random.Generator
import ReachMixture.Random.Keystream
import ReachMixture.Random.Source
import ReachMixture.Random.Ziggurat
import ReachMixture.Report.Fit
import ReachMixture.Report.Weights
import ReachMixture.Run.Config
import ReachMixture.Run.Event
import ReachMixture.Run.Failure
import ReachMixture.Run.Pipeline
import ReachMixture.Run.Problem
import ReachMixture.Run.Summary
import ReachMixture.Scalar
import ReachMixture.Session.Basic
import ReachMixture.Session.EnvFile
import ReachMixture.Session.Export
import ReachMixture.Session.LogFilter
import ReachMixture.Session.Volume
import ReachMixture.Text.Alphanumeric
import ReachMixture.Text.Blank
import ReachMixture.Text.CharRanges
import ReachMixture.Text.Hidden
import ReachMixture.Text.Lines
import ReachMixture.Text.Pad
import ReachMixture.Text.Pieces
import ReachMixture.Text.Quoted
import ReachMixture.Trajectory.Record
import ReachMixture.Trajectory.Table

import ParamRules.Main
import ParamRules.Schema.Declaration
import ParamRules.Report.Payload
import ParamRules.Proofs.Nesting
import ParamRules.Proofs.Report.Visited
import ParamRules.Proofs.Report.FailingChecks
import ParamRules.Proofs.Report.Exactness
import ParamRules.Proofs.Report.Order
import ParamRules.Proofs.Schema.Limits
import ParamRules.Proofs.Schema.GroupReading
import ParamRules.Proofs.Schema.InertRules
import ParamRules.Proofs.Schema.Reload
import ParamRules.Proofs.Schema.Insertion
import ParamRules.Proofs.Json.QuotedText
import ParamRules.Proofs.Json.PrintedNumber
import ParamRules.Proofs.Json.TokenTree
import ParamRules.Proofs.Json.PrintedValue
import ParamRules.Proofs.Json.ReadBack
import ParamRules.Proofs.Schema.ReadRules
import ParamRules.Proofs.Schema.KeptEntries
import ParamRules.Proofs.Schema.DescribedDeclarations
import ParamRules.Proofs.Report.DeclaredTypes
import ParamRules.Proofs.Json.Equality
import ParamRules.Proofs.Report.Equivalence
import ParamRules.Proofs.Report.DeclaredFields
import ParamRules.Proofs.Schema.PrintedForm
import ParamRules.Proofs.Schema.Canonical
import ParamRules.Proofs.Command.Inspection
import ParamRules.Proofs.Report.DeadConstraints
import ParamRules.Proofs.Number.Rounding
import ParamRules.Proofs.Number.WholeNumbers
import ParamRules.Proofs.Report.Strengthening
import ParamRules.Proofs.Schema.NormalForm
import ParamRules.Proofs.Report.EqualSchemas
import ParamRules.Proofs.Report.Reordering
import ParamRules.Proofs.Schema.InsertionRuns
import ParamRules.Proofs.Schema.DeclaredScopes
import ParamRules.Proofs.Response.Routes
import ParamRules.Proofs.Report.Relocation
import ParamRules.Proofs.Report.WrongTypes
import ParamRules.Proofs.Command.CheckResults
import ParamRules.Proofs.Number.ExactValues
import ParamRules.Proofs.Report.ExactLimits
import ParamRules.Proofs.Report.ConsistentRanges
import ParamRules.Proofs.Report.LocationText
import ParamRules.Proofs.Report.Places
import ParamRules.Proofs.Report.ElementReports
import ParamRules.Proofs.Schema.NotedEntries
import ParamRules.Proofs.Calendar.DateNotation

import KustoSearch.Batch
import KustoSearch.Calendar.Reader
import KustoSearch.Config
import KustoSearch.Engine.Cluster
import KustoSearch.Flags
import KustoSearch.Http.Exchange
import KustoSearch.Main
import KustoSearch.Request.Reader
import KustoSearch.Response.Mapper
import KustoSearch.Service.Concurrent
import KustoSearch.Proofs.Decimal.Layout
import KustoSearch.Proofs.Kql.Expression
import KustoSearch.Proofs.Kql.Reading
import KustoSearch.Proofs.Kql.Condition
import KustoSearch.Proofs.Text.Blank
import KustoSearch.Proofs.Plan.Meaning
import KustoSearch.Proofs.Decimal.Shortest
import KustoSearch.Proofs.Json.Printer
import KustoSearch.Proofs.Response.Levels
import KustoSearch.Proofs.Response.Gaps
import KustoSearch.Proofs.Response.Trace
import KustoSearch.Proofs.Response.Account
import KustoSearch.Proofs.Response.Cell
import KustoSearch.Proofs.Response.Conforming
import KustoSearch.Proofs.Response.Total
import KustoSearch.Proofs.Response.Coverage
import KustoSearch.Proofs.Response.Agreement
import KustoSearch.Proofs.Plan.Relational
import KustoSearch.Proofs.Plan.Ranking
import KustoSearch.Proofs.Plan.Groups
import KustoSearch.Proofs.Plan.Buckets
import KustoSearch.Proofs.Response.Stops
import KustoSearch.Proofs.Response.Faults
import KustoSearch.Proofs.Response.Mirror
import KustoSearch.Proofs.Response.Names
import KustoSearch.Proofs.Plan.Outline
import KustoSearch.Proofs.Plan.Columns
import KustoSearch.Proofs.Plan.Scope
import KustoSearch.Proofs.Engine.Payload
import KustoSearch.Proofs.Plan.Refusal
import KustoSearch.Proofs.Request.WellFormed
import KustoSearch.Proofs.Service.Attempt
import KustoSearch.Proofs.Http.MultiSearch
import KustoSearch.Proofs.Http.Confidential
import KustoSearch.Proofs.Plan.Lines
import KustoSearch.Proofs.Plan.Spans
import KustoSearch.Proofs.Plan.Required
import KustoSearch.Proofs.Interval
import KustoSearch.Proofs.Response.Completion
import KustoSearch.Proofs.Response.DateGaps
import KustoSearch.Proofs.Response.Counts
import KustoSearch.Proofs.Plan.DateKey
import KustoSearch.Proofs.DateMath
import KustoSearch.Proofs.Service.Retry
import KustoSearch.Proofs.Kql.Wildcard
import KustoSearch.Proofs.Kql.ReadBack
import KustoSearch.Proofs.Response.Dates
import KustoSearch.Proofs.Plan.HitColumns
import KustoSearch.Proofs.Plan.Words
import KustoSearch.Proofs.Response.Paths
import KustoSearch.Proofs.Interval.Spelling
import KustoSearch.Proofs.DateMath.Grammar
import KustoSearch.Proofs.Plan.Bounds

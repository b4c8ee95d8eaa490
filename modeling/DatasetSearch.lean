import DatasetSearch.Executor.ConnectionString
import DatasetSearch.Executor.Database
import DatasetSearch.Http.Service
import DatasetSearch.Json.Reader
import DatasetSearch.Proofs.Http.Accounting
import DatasetSearch.Proofs.Http.Gate
import DatasetSearch.Proofs.Pipeline.Distinction
import DatasetSearch.Proofs.Pipeline.Pages
import DatasetSearch.Proofs.Pipeline.UserText
import DatasetSearch.Proofs.Plan.DateFilters
import DatasetSearch.Proofs.Plan.Distinction
import DatasetSearch.Proofs.Request.QueryRoundTrip
import DatasetSearch.Settings.Load
import DatasetSearch.Proofs.Executor.Draining
import DatasetSearch.Proofs.Pipeline.Executable
import DatasetSearch.Proofs.Fields.Removal
import DatasetSearch.Proofs.Record.RoundTrip
import DatasetSearch.Proofs.Fields.Exchange
import DatasetSearch.Proofs.Record.Splitting
import DatasetSearch.Proofs.Record.Annotated
import DatasetSearch.Proofs.Metrics.Totals
import DatasetSearch.Proofs.Http.Isolation
import DatasetSearch.Proofs.Plan.Content
import DatasetSearch.Proofs.Binary64.Value
import DatasetSearch.Proofs.Executor.Timeout
import DatasetSearch.Proofs.Settings.FirstFile
import DatasetSearch.Proofs.Settings.Overriding
import DatasetSearch.Proofs.Request.PageSize
import DatasetSearch.Proofs.Http.DefaultPage
import DatasetSearch.Proofs.Request.FieldPath
import DatasetSearch.Proofs.Request.FirstFault
import DatasetSearch.Proofs.Pipeline.SortPath
import DatasetSearch.Proofs.Text.NumeralReading
import DatasetSearch.Proofs.Request.ParameterValue
import DatasetSearch.Proofs.Request.Reading
import DatasetSearch.Proofs.Http.NumericParameters
import DatasetSearch.Proofs.Request.QueryEdits
import DatasetSearch.Proofs.Http.QueryForms
import DatasetSearch.Proofs.Http.ErrorBodies
import DatasetSearch.Proofs.Plan.YearBounds
import DatasetSearch.Proofs.Settings.Overlay

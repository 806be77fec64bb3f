import FilmIndex.Main
import FilmIndex.Query.Workbench
import FilmIndex.Proofs.Query.Acceptance
import FilmIndex.Proofs.Query.TextLiteral
import FilmIndex.Proofs.Query.Expression
import FilmIndex.Proofs.Number.Numeral
import FilmIndex.Proofs.Query.Writing
import FilmIndex.Proofs.Query.Meaning
import FilmIndex.Proofs.Query.Injection
import FilmIndex.Proofs.Number.Bits
import FilmIndex.Proofs.Number.Rounding
import FilmIndex.Proofs.Number.ReadBack
import FilmIndex.Proofs.Text.Lines
import FilmIndex.Proofs.Film.EmbeddingText
import FilmIndex.Proofs.Film.Line
import FilmIndex.Proofs.Film.File
import FilmIndex.Proofs.Session.Action
import FilmIndex.Proofs.Hit.Found
import FilmIndex.Proofs.Session.Steps
import FilmIndex.Proofs.Session.Interruption
import FilmIndex.Proofs.Session.Serving
import FilmIndex.Proofs.Session.Connection
import FilmIndex.Proofs.Program.Course
import FilmIndex.Proofs.Program.CleanUp
import FilmIndex.Proofs.Program.Calls
import FilmIndex.Proofs.Program.Overflow
import FilmIndex.Proofs.Program.Undisturbed
import FilmIndex.Proofs.Program.Ending
import FilmIndex.Proofs.Program.Sufficiency
import FilmIndex.Proofs.Value.Written
import FilmIndex.Proofs.Program.Returned
import FilmIndex.Proofs.Program.Titles
import FilmIndex.Proofs.Program.Independence
import FilmIndex.Proofs.Program.Frame
import FilmIndex.Proofs.Value.Same
import FilmIndex.Proofs.Server.Indexes
import FilmIndex.Proofs.Session.IndexMap
import FilmIndex.Proofs.Text.Utf8
import FilmIndex.Proofs.Film.Columns
import FilmIndex.Proofs.Film.Report
import FilmIndex.Proofs.Film.Reading
import FilmIndex.Proofs.Program.Untouched
import FilmIndex.Proofs.Query.Objects
import FilmIndex.Proofs.Query.Resolution
import FilmIndex.Proofs.Query.Acyclic
import FilmIndex.Proofs.Query.Sharing
import FilmIndex.Proofs.Settings.Masking
import FilmIndex.Proofs.Program.Flags
import FilmIndex.Proofs.Program.Options
import FilmIndex.Proofs.Film.ListForm
import FilmIndex.Proofs.Film.LineByLine
import FilmIndex.Proofs.Film.PlainTitle
import FilmIndex.Proofs.Query.Rewriting
import FilmIndex.Proofs.Session.Collections
import FilmIndex.Proofs.Session.StoredRows
import FilmIndex.Proofs.Session.Renewal
import FilmIndex.Proofs.Session.Blind
import FilmIndex.Proofs.Session.Handle
import FilmIndex.Proofs.Query.Chains
import FilmIndex.Proofs.Text.UpperCase
import FilmIndex.Proofs.Settings.Origins
import FilmIndex.Proofs.Settings.FixedPoint
import FilmIndex.Proofs.Settings.Faults
import FilmIndex.Proofs.Program.Agreement
import FilmIndex.Proofs.Number.Equality
import FilmIndex.Proofs.Value.Key
import FilmIndex.Proofs.Hit.Joining
import FilmIndex.Proofs.Number.Exact
import FilmIndex.Proofs.Sampling

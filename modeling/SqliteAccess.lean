import SqliteAccess.Column.Entry
import SqliteAccess.Column.List
import SqliteAccess.Engine.Session
import SqliteAccess.Engine.Target
import SqliteAccess.FieldType
import SqliteAccess.Json.Reader
import SqliteAccess.Number.Binary64
import SqliteAccess.Settings.EnvironmentFile
import SqliteAccess.Settings.Location
import SqliteAccess.Statement.Split
import SqliteAccess.Table.Session
import SqliteAccess.Text.Utf8
import SqliteAccess.Token.Driving
import SqliteAccess.Token.Lexing
import SqliteAccess.Proofs.Token.Reading
import SqliteAccess.Proofs.Token.Lexing
import SqliteAccess.Proofs.Token.Splicing
import SqliteAccess.Proofs.Token.Joining
import SqliteAccess.Proofs.Token.Marks
import SqliteAccess.Proofs.Statement.Cuts
import SqliteAccess.Proofs.Statement.Splicing
import SqliteAccess.Proofs.Statement.Octets
import SqliteAccess.Proofs.Column.Blanking
import SqliteAccess.Proofs.Column.Grouping
import SqliteAccess.Proofs.Column.Rebuilding
import SqliteAccess.Proofs.Column.Declaring
import SqliteAccess.Proofs.Table.Buffer
import SqliteAccess.Proofs.Engine.Requests
import SqliteAccess.Proofs.Engine.Running
import SqliteAccess.Proofs.Engine.Discipline
import SqliteAccess.Proofs.Engine.Failures
import SqliteAccess.Proofs.Engine.Gathering
import SqliteAccess.Proofs.Table.Lifecycle
import SqliteAccess.Proofs.Token.Unquoting
import SqliteAccess.Proofs.Statement.Contents
import SqliteAccess.Proofs.Statement.Blanks
import SqliteAccess.Proofs.Statement.Stability
import SqliteAccess.Proofs.Engine.Batching
import SqliteAccess.Proofs.Engine.FirstStatement
import SqliteAccess.Proofs.Engine.Agreement
import SqliteAccess.Proofs.Table.Iterating
import SqliteAccess.Proofs.Log.Redaction
import SqliteAccess.Proofs.Json.Escaping
import SqliteAccess.Proofs.Json.Reading
import SqliteAccess.Proofs.Log.Lines
import SqliteAccess.Proofs.Engine.Diagnostics
import SqliteAccess.Proofs.Token.Regions
import SqliteAccess.Proofs.Column.Dividing
import SqliteAccess.Proofs.Column.Relayout
import SqliteAccess.Proofs.Table.Reading
import SqliteAccess.Proofs.Settings.Disclosing
import SqliteAccess.Proofs.Token.RoundTrip
import SqliteAccess.Proofs.Token.Parting
import SqliteAccess.Proofs.Column.Sources
import SqliteAccess.Proofs.Column.Blobs
import SqliteAccess.Proofs.Number.Prefix
import SqliteAccess.Proofs.Table.Numerals
import SqliteAccess.Proofs.Number.Saturation
import SqliteAccess.Proofs.Token.Qualifying
import SqliteAccess.Proofs.Engine.Refusing
import SqliteAccess.Proofs.Number.Pattern
import SqliteAccess.Proofs.Number.Truncation
import SqliteAccess.Proofs.Number.Rounding
import SqliteAccess.Proofs.Number.Decimal
import SqliteAccess.Proofs.Number.Writing
import SqliteAccess.Proofs.Engine.Caching
import SqliteAccess.Proofs.Log.Nesting
import SqliteAccess.Proofs.Log.Sensitivity
import SqliteAccess.Proofs.Settings.Accepting
import SqliteAccess.Proofs.Log.Starting
import SqliteAccess.Proofs.Column.Keywords
import SqliteAccess.Proofs.Column.Typing
import SqliteAccess.Proofs.Statement.Remarks
import SqliteAccess.Proofs.Text.Sequences
import SqliteAccess.Proofs.Text.Decoding
import SqliteAccess.Proofs.Token.Driving

import RemoteNotes.Attachment
import RemoteNotes.Batch
import RemoteNotes.Client.Call
import RemoteNotes.Client.Diagnostic
import RemoteNotes.Client.Download
import RemoteNotes.Client.Operation
import RemoteNotes.Client.Request
import RemoteNotes.Client.Service
import RemoteNotes.Client.Session
import RemoteNotes.Client.Stage
import RemoteNotes.Client.State
import RemoteNotes.Config.BaseUrl
import RemoteNotes.Config.Diagnostic
import RemoteNotes.Config.Document
import RemoteNotes.Config.Environment
import RemoteNotes.Config.Settings
import RemoteNotes.Credential
import RemoteNotes.Error
import RemoteNotes.Http.Failure
import RemoteNotes.Http.Header
import RemoteNotes.Http.MediaType
import RemoteNotes.Http.Message
import RemoteNotes.Http.Multipart
import RemoteNotes.Http.Url
import RemoteNotes.Json.Fault
import RemoteNotes.Json.Form
import RemoteNotes.Json.Reader
import RemoteNotes.Json.Skip
import RemoteNotes.Json.Value
import RemoteNotes.Memo
import RemoteNotes.Memo.New
import RemoteNotes.Memo.Tagging
import RemoteNotes.Memo.Update
import RemoteNotes.Name
import RemoteNotes.Number.Decimal
import RemoteNotes.Number.Double
import RemoteNotes.Number.Power
import RemoteNotes.Number.Shortest
import RemoteNotes.Proofs.AcceptedSettings
import RemoteNotes.Proofs.Action
import RemoteNotes.Proofs.Addresses
import RemoteNotes.Proofs.Attempts
import RemoteNotes.Proofs.Authorization
import RemoteNotes.Proofs.BaseAddresses
import RemoteNotes.Proofs.Batch
import RemoteNotes.Proofs.BatchReports
import RemoteNotes.Proofs.Calendar
import RemoteNotes.Proofs.CallTurns
import RemoteNotes.Proofs.Calls
import RemoteNotes.Proofs.CanonicalNames
import RemoteNotes.Proofs.Chunks
import RemoteNotes.Proofs.Closing
import RemoteNotes.Proofs.Complaints
import RemoteNotes.Proofs.Counterparts
import RemoteNotes.Proofs.Creation
import RemoteNotes.Proofs.CreationErrors
import RemoteNotes.Proofs.CreationWindows
import RemoteNotes.Proofs.Digits
import RemoteNotes.Proofs.Doubles
import RemoteNotes.Proofs.Downloads
import RemoteNotes.Proofs.Expiry
import RemoteNotes.Proofs.FieldReports
import RemoteNotes.Proofs.FileAddresses
import RemoteNotes.Proofs.FilterPairs
import RemoteNotes.Proofs.Frame
import RemoteNotes.Proofs.GrantedSessions
import RemoteNotes.Proofs.Headers
import RemoteNotes.Proofs.Instants
import RemoteNotes.Proofs.JsonGrammar
import RemoteNotes.Proofs.ListReplies
import RemoteNotes.Proofs.LocationReports
import RemoteNotes.Proofs.Lockstep
import RemoteNotes.Proofs.LoginAttempts
import RemoteNotes.Proofs.Logins
import RemoteNotes.Proofs.Loops
import RemoteNotes.Proofs.MemoUpdates
import RemoteNotes.Proofs.Names
import RemoteNotes.Proofs.NewMemos
import RemoteNotes.Proofs.Nulls
import RemoteNotes.Proofs.NumberReaders
import RemoteNotes.Proofs.Occurrences
import RemoteNotes.Proofs.OneByOne
import RemoteNotes.Proofs.Oversize
import RemoteNotes.Proofs.PercentCoding
import RemoteNotes.Proofs.ReaderRules
import RemoteNotes.Proofs.Readings
import RemoteNotes.Proofs.RecordReaders
import RemoteNotes.Proofs.Redaction
import RemoteNotes.Proofs.Refusals
import RemoteNotes.Proofs.Renewal
import RemoteNotes.Proofs.Requests
import RemoteNotes.Proofs.Resubmission
import RemoteNotes.Proofs.Results
import RemoteNotes.Proofs.RoundTrip
import RemoteNotes.Proofs.SearchExpressions
import RemoteNotes.Proofs.SearchFilters
import RemoteNotes.Proofs.Session
import RemoteNotes.Proofs.SessionCookies
import RemoteNotes.Proofs.Sextets
import RemoteNotes.Proofs.SharedTokens
import RemoteNotes.Proofs.SignedTokens
import RemoteNotes.Proofs.Skipping
import RemoteNotes.Proofs.Spellings
import RemoteNotes.Proofs.Splitting
import RemoteNotes.Proofs.Store
import RemoteNotes.Proofs.Tagging
import RemoteNotes.Proofs.Tags
import RemoteNotes.Proofs.Targets
import RemoteNotes.Proofs.TextReaders
import RemoteNotes.Proofs.Timestamps
import RemoteNotes.Proofs.Trimming
import RemoteNotes.Proofs.Utf8Coding
import RemoteNotes.Proofs.ValidTags
import RemoteNotes.Proofs.WireFields
import RemoteNotes.Proofs.WrittenJson
import RemoteNotes.Retry
import RemoteNotes.Search.Clause
import RemoteNotes.Search.Filter
import RemoteNotes.Search.Reading
import RemoteNotes.Session.Grant
import RemoteNotes.Session.Token
import RemoteNotes.Tag
import RemoteNotes.Text.Base64
import RemoteNotes.Text.Blank
import RemoteNotes.Text.Diagnostic
import RemoteNotes.Text.Extending
import RemoteNotes.Text.LowerCase
import RemoteNotes.Text.Percent
import RemoteNotes.Text.Quoted
import RemoteNotes.Text.Unprintable
import RemoteNotes.Text.Utf8
import RemoteNotes.Time.Calendar
import RemoteNotes.Time.Duration
import RemoteNotes.Time.Instant
import RemoteNotes.Time.Rfc3339
import RemoteNotes.Upload
import RemoteNotes.Upload.Chunk
import RemoteNotes.Upload.File
import RemoteNotes.User
import RemoteNotes.Validation
import RemoteNotes.Wire.Field
import RemoteNotes.Wire.Model

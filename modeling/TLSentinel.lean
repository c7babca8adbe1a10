import TLSentinel.Base
import TLSentinel.Foundation.AES
import TLSentinel.Foundation.NetAddr
import TLSentinel.Foundation.Splits
import TLSentinel.Foundation.NetBlocks
import TLSentinel.Foundation.Pieces
import TLSentinel.Foundation.AddressText
import TLSentinel.Foundation.Base32
import TLSentinel.Foundation.Base64
import TLSentinel.Foundation.CSV
import TLSentinel.Foundation.Calendar
import TLSentinel.Foundation.Chains
import TLSentinel.Foundation.ChangeLog
import TLSentinel.Foundation.CronExpr
import TLSentinel.Foundation.DistinguishedNames
import TLSentinel.Foundation.Doubles
import TLSentinel.Foundation.Forest
import TLSentinel.Foundation.GCM
import TLSentinel.Foundation.Utf8
import TLSentinel.Foundation.URI
import TLSentinel.Foundation.GoURL
import TLSentinel.Foundation.Tables
import TLSentinel.Foundation.Grouping
import TLSentinel.Foundation.HeaderLines
import TLSentinel.Foundation.Hex
import TLSentinel.Foundation.InsertionSort
import TLSentinel.Foundation.JSON
import TLSentinel.Foundation.JoinTables
import TLSentinel.Foundation.Runs
import TLSentinel.Foundation.Latches
import TLSentinel.Foundation.Loops
import TLSentinel.Foundation.MailAddr
import TLSentinel.Foundation.Outbox
import TLSentinel.Foundation.Paging
import TLSentinel.Foundation.Ratings
import TLSentinel.Foundation.References
import TLSentinel.Foundation.Registers
import TLSentinel.Foundation.Routing
import TLSentinel.Foundation.Transactions
import TLSentinel.Foundation.UniqueColumn
import TLSentinel.Audit.ClientIP
import TLSentinel.Audit.TrustedProxies
import TLSentinel.Scans.Store
import TLSentinel.Notifications.Store
import TLSentinel.Certs.Store
import TLSentinel.Trust.Evaluator
import TLSentinel.Trust.Store
import TLSentinel.Trust.Ingest
import TLSentinel.Trust.TrustMatrix
import TLSentinel.Trust.RootStore
import TLSentinel.Trust.AnchorSets
import TLSentinel.Certs.Purge
import TLSentinel.Certs.Deletion
import TLSentinel.Certs.Retention
import TLSentinel.Certs.IssuerGraph
import TLSentinel.Cron.Scheduler
import TLSentinel.Cron.Consistency
import TLSentinel.Cron.LastRun
import TLSentinel.Endpoints.CSVImport
import TLSentinel.Cron.SchedulePicker
import TLSentinel.Endpoints.Store
import TLSentinel.Scanners.Assignment
import TLSentinel.Endpoints.Patch
import TLSentinel.Endpoints.PatchRuns
import TLSentinel.Endpoints.Writes
import TLSentinel.Endpoints.HostPorts
import TLSentinel.Endpoints.BulkContract
import TLSentinel.Endpoints.SAMLHistory
import TLSentinel.Discovery.Store
import TLSentinel.Discovery.Report
import TLSentinel.Discovery.Promotion
import TLSentinel.Endpoints.SAMLURLs
import TLSentinel.Endpoints.TypeChange
import TLSentinel.Discovery.Coverage
import TLSentinel.Discovery.Networks
import TLSentinel.Discovery.PortRange
import TLSentinel.Discovery.Ranges
import TLSentinel.Scans.EndpointCerts
import TLSentinel.Scans.Ledger
import TLSentinel.Scans.ErrorSince
import TLSentinel.Lists.Queries
import TLSentinel.Lists.ExpiryBuckets
import TLSentinel.Lists.Patterns
import TLSentinel.Lists.Search
import TLSentinel.Monitor.MonthGrid
import TLSentinel.Monitor.CalendarView
import TLSentinel.Notifications.Sender
import TLSentinel.Notifications.Alerts
import TLSentinel.Notifications.Subscriptions
import TLSentinel.Notifications.CalendarFeed
import TLSentinel.Notifications.Delivery
import TLSentinel.Notifications.MailMessage
import TLSentinel.Users.Store
import TLSentinel.Users.Handlers
import TLSentinel.Notifications.Envelope
import TLSentinel.Config.Encryptor
import TLSentinel.Notifications.MailHandler
import TLSentinel.Notifications.Thresholds
import TLSentinel.Notifications.Rendering
import TLSentinel.Notifications.Templates
import TLSentinel.Settings.Store
import TLSentinel.Settings.Maintenance
import TLSentinel.Probe.Results
import TLSentinel.Trust.FingerprintKeys
import TLSentinel.Trust.Freshness
import TLSentinel.Trust.PathAgreement
import TLSentinel.Trust.PoolRace
import TLSentinel.Trust.Pools
import TLSentinel.Trust.StoreList
import TLSentinel.TLSProfile.Ciphers
import TLSentinel.TLSProfile.Classify
import TLSentinel.TLSProfile.Score
import TLSentinel.TLSProfile.Grades
import TLSentinel.TLSProfile.Handler
import TLSentinel.TLSProfile.Normalize
import TLSentinel.Reports.Attention
import TLSentinel.Reports.Posture
import TLSentinel.Reports.DrillDown
import TLSentinel.Tags.Store
import TLSentinel.Tags.BulkDialog
import TLSentinel.Tags.Replacement
import TLSentinel.Tags.Subscriptions
import TLSentinel.Groups.Store
import TLSentinel.Groups.Edits
import TLSentinel.Users.Me
import TLSentinel.Users.Bootstrap
import TLSentinel.Users.RecoveryCodes
import TLSentinel.Users.TOTPHandler
import TLSentinel.Users.Enrolment
import TLSentinel.Users.EnrolmentURI
import TLSentinel.Users.LastAdmin
import TLSentinel.Users.LocalCredentials
import TLSentinel.Users.ProfileEdit
import TLSentinel.Users.RecoveryCodeFormat
import TLSentinel.Auth.Handlers
import TLSentinel.Auth.SecondFactor
import TLSentinel.Auth.OIDCFlow
import TLSentinel.Auth.TokenIdentity
import TLSentinel.Toolbox.CSRSubject
import TLSentinel.Toolbox.CertChain
import TLSentinel.Toolbox.HexInput
import TLSentinel.Toolbox.SubjectAltNames
import TLSentinel.Config.DatabaseURL
import TLSentinel.Access.Identity
import TLSentinel.Access.Routes
import TLSentinel.Access.System
import TLSentinel.Access.Isolation
import TLSentinel.Access.Tokens

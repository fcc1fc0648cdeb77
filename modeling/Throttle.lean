import Throttle.Admission.Card
import Throttle.Admission.Control
import Throttle.Admission.Guard
import Throttle.Admission.Message
import Throttle.Admission.Request
import Throttle.Admission.Session
import Throttle.Binary64.Basic
import Throttle.Binary64.Read
import Throttle.Binary64.Shortest
import Throttle.Binary64.Text
import Throttle.Cli.Options
import Throttle.Cli.Parse
import Throttle.Cli.Run
import Throttle.Config.Basic
import Throttle.Config.Document
import Throttle.Config.Layered
import Throttle.Decision
import Throttle.Error
import Throttle.Folder
import Throttle.Ini.Document
import Throttle.Json.Decode
import Throttle.Json.Printer
import Throttle.Json.Reader
import Throttle.Json.Value
import Throttle.Json5.Grammar
import Throttle.Limiter.Basic
import Throttle.Limiter.Bucket
import Throttle.Limiter.FixedWindow
import Throttle.Limiter.SlidingLog
import Throttle.Limiter.Text
import Throttle.Main
import Throttle.Policy
import Throttle.Policy.Override
import Throttle.Policy.Table
import Throttle.Proofs.Binary64
import Throttle.Proofs.Composite
import Throttle.Proofs.Counting
import Throttle.Proofs.Eviction
import Throttle.Proofs.FixedWindow
import Throttle.Proofs.Ranges
import Throttle.Proofs.Retry
import Throttle.Proofs.Service
import Throttle.Proofs.Session
import Throttle.Proofs.SlidingLog
import Throttle.Proofs.Store
import Throttle.Proofs.Time
import Throttle.Proofs.TokenBucket
import Throttle.Ron.Reader
import Throttle.Session
import Throttle.Settings.Basic
import Throttle.Settings.Ini
import Throttle.Settings.Json
import Throttle.Settings.Json5
import Throttle.Settings.Path
import Throttle.Settings.Read
import Throttle.Settings.Ron
import Throttle.Settings.Toml
import Throttle.Settings.Yaml
import Throttle.Store
import Throttle.Text.Case
import Throttle.Text.Category
import Throttle.Text.Printable
import Throttle.Text.Quote
import Throttle.Text.Similarity
import Throttle.Text.Space
import Throttle.Time.Clock
import Throttle.Time.Duration
import Throttle.Time.Seconds
import Throttle.Time.Text
import Throttle.Toml.Datetime
import Throttle.Toml.Document
import Throttle.Toml.Fault
import Throttle.Toml.Grammar
import Throttle.Toml.Value
import Throttle.Yaml.Event
import Throttle.Yaml.Node
import Throttle.Yaml.Scalar
import Throttle.Yaml.Token
import Throttle.Yaml.Token.Scan
import Throttle.Proofs.BucketState
import Throttle.Proofs.Refusals
import Throttle.Proofs.Readmission
import Throttle.Proofs.Guard
import Throttle.Proofs.LogState
import Throttle.Proofs.Requests
import Throttle.Proofs.Lifetime
import Throttle.Proofs.JsonText
import Throttle.Proofs.Signal

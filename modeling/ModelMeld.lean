import ModelMeld.Lib.Checked
import ModelMeld.Lib.DictHistory
import ModelMeld.Lib.Fragments
import ModelMeld.Lib.Grouping
import ModelMeld.Lib.Handles
import ModelMeld.Lib.JsonTokens
import ModelMeld.Lib.Lines
import ModelMeld.Lib.Median
import ModelMeld.Lib.Neighbours
import ModelMeld.Lib.OrderedDict
import ModelMeld.Lib.Ranking
import ModelMeld.Lib.Recency
import ModelMeld.Lib.Regex
import ModelMeld.Lib.RegexLocal
import ModelMeld.Lib.RegexPlain
import ModelMeld.Lib.RegexSub
import ModelMeld.Lib.RegexTable
import ModelMeld.Lib.Runs
import ModelMeld.Lib.Shell
import ModelMeld.Lib.ShellText
import ModelMeld.Lib.Slots
import ModelMeld.Lib.Streaks
import ModelMeld.Lib.Transducer
import ModelMeld.Lib.Versioned
import ModelMeld.Proof.Admission
import ModelMeld.Proof.AdmissionLaw
import ModelMeld.Proof.AnswerOrigins
import ModelMeld.Proof.BlindHandlers
import ModelMeld.Proof.BodySizeLimit
import ModelMeld.Proof.Budgets
import ModelMeld.Proof.CacheLaw
import ModelMeld.Proof.Caches
import ModelMeld.Proof.Choose
import ModelMeld.Proof.Closings
import ModelMeld.Proof.CodexInput
import ModelMeld.Proof.CodexRotation
import ModelMeld.Proof.Collections
import ModelMeld.Proof.CompletionEvents
import ModelMeld.Proof.ContextReads
import ModelMeld.Proof.ContextRoom
import ModelMeld.Proof.Coverage
import ModelMeld.Proof.Decoders
import ModelMeld.Proof.Dictionaries
import ModelMeld.Proof.DumpedMessages
import ModelMeld.Proof.EnvScripts
import ModelMeld.Proof.ErrorDetails
import ModelMeld.Proof.ExactKeys
import ModelMeld.Proof.FactOrder
import ModelMeld.Proof.Failover
import ModelMeld.Proof.FalseSuccess
import ModelMeld.Proof.Feed
import ModelMeld.Proof.FeedFaults
import ModelMeld.Proof.FeedLoading
import ModelMeld.Proof.FirstUsable
import ModelMeld.Proof.Freshness
import ModelMeld.Proof.Gateway
import ModelMeld.Proof.Grammar
import ModelMeld.Proof.HeaderSecrets
import ModelMeld.Proof.HoistedSystem
import ModelMeld.Proof.Inbound
import ModelMeld.Proof.Isolation
import ModelMeld.Proof.JsonText
import ModelMeld.Proof.KeyBlindness
import ModelMeld.Proof.KeyCustody
import ModelMeld.Proof.Latency
import ModelMeld.Proof.MessageParity
import ModelMeld.Proof.MessageReplay
import ModelMeld.Proof.NativeParity
import ModelMeld.Proof.NoLoss
import ModelMeld.Proof.OffMode
import ModelMeld.Proof.Overlay
import ModelMeld.Proof.Passthrough
import ModelMeld.Proof.PayloadFaults
import ModelMeld.Proof.PromptStructure
import ModelMeld.Proof.Recording
import ModelMeld.Proof.RedactionCounts
import ModelMeld.Proof.Registry
import ModelMeld.Proof.RequestRoundTrip
import ModelMeld.Proof.ResponseItems
import ModelMeld.Proof.ResponseLifecycle
import ModelMeld.Proof.ResponseParity
import ModelMeld.Proof.ResponseReplay
import ModelMeld.Proof.ResponseSteps
import ModelMeld.Proof.RoundTrip
import ModelMeld.Proof.RoutedModel
import ModelMeld.Proof.Router
import ModelMeld.Proof.SameTurn
import ModelMeld.Proof.ScrubComplete
import ModelMeld.Proof.ScrubFrame
import ModelMeld.Proof.Scrubbing
import ModelMeld.Proof.Selection
import ModelMeld.Proof.SemanticKeys
import ModelMeld.Proof.ServedAnswers
import ModelMeld.Proof.SessionKeys
import ModelMeld.Proof.SessionRows
import ModelMeld.Proof.SessionStore
import ModelMeld.Proof.SortedJson
import ModelMeld.Proof.Spend
import ModelMeld.Proof.Splices
import ModelMeld.Proof.SqlDocuments
import ModelMeld.Proof.SseFrames
import ModelMeld.Proof.Stall
import ModelMeld.Proof.StallShadow
import ModelMeld.Proof.StoreEquivalence
import ModelMeld.Proof.StoreSteps
import ModelMeld.Proof.Stream
import ModelMeld.Proof.StreamEnds
import ModelMeld.Proof.StreamSteps
import ModelMeld.Proof.StreamUsage
import ModelMeld.Proof.SummaryVersions
import ModelMeld.Proof.SystemPosition
import ModelMeld.Proof.TenantViews
import ModelMeld.Proof.Tenants
import ModelMeld.Proof.TenantsApart
import ModelMeld.Proof.Tiered
import ModelMeld.Proof.ToolAdjacency
import ModelMeld.Proof.ToolChoice
import ModelMeld.Proof.ToolInputs
import ModelMeld.Proof.Transport
import ModelMeld.Proof.TurnLog
import ModelMeld.Proof.UpstreamChunks
import ModelMeld.Spec.AdapterStreams
import ModelMeld.Spec.Adapters
import ModelMeld.Spec.AnthropicParams
import ModelMeld.Spec.AnthropicSchemas
import ModelMeld.Spec.AnthropicStream
import ModelMeld.Spec.BodySizeLimit
import ModelMeld.Spec.Cache
import ModelMeld.Spec.Chunks
import ModelMeld.Spec.CodexAuth
import ModelMeld.Spec.CodexPassthrough
import ModelMeld.Spec.Collections
import ModelMeld.Spec.Context
import ModelMeld.Spec.Decoded
import ModelMeld.Spec.DefaultPatterns
import ModelMeld.Spec.EnvScripts
import ModelMeld.Spec.Feed
import ModelMeld.Spec.FeedLoading
import ModelMeld.Spec.FromAnthropic
import ModelMeld.Spec.FromResponses
import ModelMeld.Spec.FrontDoor
import ModelMeld.Spec.Gateway
import ModelMeld.Spec.Headers
import ModelMeld.Spec.Hooks
import ModelMeld.Spec.HostedMemory
import ModelMeld.Spec.InMemory
import ModelMeld.Spec.JsonText
import ModelMeld.Spec.Memory
import ModelMeld.Spec.MemoryStore
import ModelMeld.Spec.MessageStream
import ModelMeld.Spec.Metrics
import ModelMeld.Spec.NativeDict
import ModelMeld.Spec.NativeParams
import ModelMeld.Spec.Outcomes
import ModelMeld.Spec.OutputLimits
import ModelMeld.Spec.Overlay
import ModelMeld.Spec.Persistent
import ModelMeld.Spec.Policy
import ModelMeld.Spec.Postgres
import ModelMeld.Spec.Privacy
import ModelMeld.Spec.Providers
import ModelMeld.Spec.PyValue
import ModelMeld.Spec.Python
import ModelMeld.Spec.Recording
import ModelMeld.Spec.Registry
import ModelMeld.Spec.RegistryPayload
import ModelMeld.Spec.RequestHeaders
import ModelMeld.Spec.ResponsesStream
import ModelMeld.Spec.Retry
import ModelMeld.Spec.RouteStreams
import ModelMeld.Spec.Router
import ModelMeld.Spec.SafeErrorDetail
import ModelMeld.Spec.Schemas
import ModelMeld.Spec.Scout
import ModelMeld.Spec.SemanticText
import ModelMeld.Spec.SessionKey
import ModelMeld.Spec.SessionState
import ModelMeld.Spec.SqlStore
import ModelMeld.Spec.SseFrames
import ModelMeld.Spec.Stall
import ModelMeld.Spec.StallShadow
import ModelMeld.Spec.Summarizer
import ModelMeld.Spec.Tasks
import ModelMeld.Spec.Tiered
import ModelMeld.Spec.ToAnthropic
import ModelMeld.Spec.ToResponses
import ModelMeld.Spec.Upstream
import ModelMeld.Spec.WholeMessages

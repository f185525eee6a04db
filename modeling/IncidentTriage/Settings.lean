import IncidentTriage.Value.Basic
import IncidentTriage.Decimal.Reading
import IncidentTriage.Text.Cut
import IncidentTriage.Text.Lowercase
import IncidentTriage.Text.Quoted

/-!
# Settings

Every setting has a default and can be set by an environment variable: a text as it is, a number as
a text that spells one, a flag by one of four words, names between commas, and a directory as a path
in its shortest form. The first setting that cannot be read is the error of the whole.
-/

namespace IncidentTriage
open IncidentTriage.Text IncidentTriage.Decimal

structure Settings where
  jaegerApiUrl : String := "http://jaeger:16686"
  jaegerTimeout : Float := 5.0
  jaegerInternalServices : List String := ["jaeger-query", "jaeger-all-in-one"]
  jaegerCallAttempts : Int := 3
  jaegerCallDelay : Float := 1.0
  jaegerBatchAttempts : Int := 3
  jaegerBatchDelay : Float := 2.0
  jaegerBatchBackoff : Float := 2.0
  chHost : String := "clickhouse"
  chPort : Int := 8123
  chUser : String := "admin"
  chPassword : String := "clickhouse123"
  chDatabase : String := "rag"
  chTable : String := "knowledge_chunks"
  embeddingModel : String := "all-MiniLM-L6-v2"
  llmProvider : String := "openrouter"
  openrouterApiKey : String := ""
  openrouterBaseUrl : String := "https://openrouter.ai/api/v1"
  llmModel : String := "anthropic/claude-sonnet-4"
  anthropicApiKey : String := ""
  anthropicModel : String := "claude-sonnet-4-20250514"
  llmTimeout : Float := 60.0
  llmMaxTokens : Int := 1024
  breakerWindowSize : Int := 10
  breakerMinimumCalls : Int := 5
  breakerFailureRate : Float := 0.5
  breakerSlowCallSeconds : Float := 30.0
  breakerSlowCallRate : Float := 1.0
  breakerOpenSeconds : Float := 30.0
  breakerHalfOpenCalls : Int := 3
  askTimeout : Float := 90.0
  askWorkers : Int := 8
  knownServices : List String :=
    ["product-service", "order-service", "payment-service", "rag-service"]
  docsDir : String := "docs"
  docChunkTokens : Int := 1000
  docChunkOverlap : Int := 200
  traceChunkTokens : Int := 1500
  traceChunkOverlap : Int := 150
  startupIngestDocs : Bool := true
  startupIngestTraces : Bool := true
  startupTracesDelay : Float := 5.0
  startupTracesLookback : String := "1h"
  startupTracesLimit : Int := 50
  tracePollingEnabled : Bool := true
  tracePollingInterval : Float := 300.0
  tracePollingInitialDelay : Float := 60.0
  tracePollingLookback : String := "10m"
  tracePollingLimit : Int := 20
  ingestTracesLookback : String := "1h"
  ingestTracesLimit : Int := 20
  logLevel : String := "INFO"

namespace Settings

def default : Settings := {}

inductive Error
  | notWhole (text : String)
  | tooLong (digits : Nat)
  | notNumber (text : String)
  deriving DecidableEq, Repr

/-- The text of a message about a whole number shows at most two hundred characters of what was
given, quotes included. -/
def Error.message : Error → String
  | .notWhole text =>
    "invalid literal for int() with base 10: " ++
      String.ofList ((quote text.toList).take 200)
  | .tooLong digits => WholeError.tooLongMessage digits
  | .notNumber text => s!"could not convert string to float: {quoted text}"

def readWholeText (text : String) : Except Error Int :=
  match readWhole text.toList with
  | .ok n => .ok n
  | .error .malformed => .error (.notWhole text)
  | .error (.tooLong digits) => .error (.tooLong digits)

def readNumberText (text : String) : Except Error Float :=
  match readFloat? text.toList with
  | some x => .ok x
  | none => .error (.notNumber text)

def readFlag (text : String) : Bool :=
  ["1", "true", "yes", "on"].contains (lowercase (trimmed text))

def readNames (text : String) : List String :=
  ((cutAt ',' text.toList).map trim).filter (!·.isEmpty) |>.map String.ofList

/-- A path without empty steps and steps that stay where they are. It begins with as many slashes as
given if those are one or two, and with one if they are more. -/
def readPath (text : String) : String :=
  let cs := text.toList
  let slashes := (cs.takeWhile (· == '/')).length
  let start := if slashes = 2 then "//" else if slashes = 0 then "" else "/"
  let steps := (cutAt '/' cs).filter fun step => !(step.isEmpty || step == ['.'])
  let path := start ++ "/".intercalate (steps.map String.ofList)
  if path.isEmpty then "." else path

abbrev Environment := String → Option String

def whole (env : Environment) (name : String) (default : Int) : Except Error Int :=
  match env name with
  | some text => readWholeText text
  | none => .ok default

def number (env : Environment) (name : String) (default : Float) : Except Error Float :=
  match env name with
  | some text => readNumberText text
  | none => .ok default

def text (env : Environment) (name default : String) : String :=
  (env name).getD default

def flag (env : Environment) (name : String) (default : Bool) : Bool :=
  ((env name).map readFlag).getD default

def names (env : Environment) (name : String) (default : List String) : List String :=
  ((env name).map readNames).getD default

def load (env : Environment) : Except Error Settings := do
  let d := default
  let jaegerTimeout ← number env "JAEGER_TIMEOUT" d.jaegerTimeout
  let jaegerCallAttempts ← whole env "JAEGER_CALL_ATTEMPTS" d.jaegerCallAttempts
  let jaegerCallDelay ← number env "JAEGER_CALL_DELAY" d.jaegerCallDelay
  let jaegerBatchAttempts ← whole env "JAEGER_BATCH_ATTEMPTS" d.jaegerBatchAttempts
  let jaegerBatchDelay ← number env "JAEGER_BATCH_DELAY" d.jaegerBatchDelay
  let jaegerBatchBackoff ← number env "JAEGER_BATCH_BACKOFF" d.jaegerBatchBackoff
  let chPort ← whole env "CH_PORT" d.chPort
  let llmTimeout ← number env "LLM_TIMEOUT" d.llmTimeout
  let llmMaxTokens ← whole env "LLM_MAX_TOKENS" d.llmMaxTokens
  let breakerWindowSize ← whole env "BREAKER_WINDOW_SIZE" d.breakerWindowSize
  let breakerMinimumCalls ← whole env "BREAKER_MINIMUM_CALLS" d.breakerMinimumCalls
  let breakerFailureRate ← number env "BREAKER_FAILURE_RATE" d.breakerFailureRate
  let breakerSlowCallSeconds ← number env "BREAKER_SLOW_CALL_SECONDS" d.breakerSlowCallSeconds
  let breakerSlowCallRate ← number env "BREAKER_SLOW_CALL_RATE" d.breakerSlowCallRate
  let breakerOpenSeconds ← number env "BREAKER_OPEN_SECONDS" d.breakerOpenSeconds
  let breakerHalfOpenCalls ← whole env "BREAKER_HALF_OPEN_CALLS" d.breakerHalfOpenCalls
  let askTimeout ← number env "ASK_TIMEOUT" d.askTimeout
  let askWorkers ← whole env "ASK_WORKERS" d.askWorkers
  let docChunkTokens ← whole env "DOC_CHUNK_TOKENS" d.docChunkTokens
  let docChunkOverlap ← whole env "DOC_CHUNK_OVERLAP" d.docChunkOverlap
  let traceChunkTokens ← whole env "TRACE_CHUNK_TOKENS" d.traceChunkTokens
  let traceChunkOverlap ← whole env "TRACE_CHUNK_OVERLAP" d.traceChunkOverlap
  let startupTracesDelay ← number env "STARTUP_TRACES_DELAY" d.startupTracesDelay
  let startupTracesLimit ← whole env "STARTUP_TRACES_LIMIT" d.startupTracesLimit
  let tracePollingInterval ← number env "TRACE_POLLING_INTERVAL" d.tracePollingInterval
  let tracePollingInitialDelay ←
    number env "TRACE_POLLING_INITIAL_DELAY" d.tracePollingInitialDelay
  let tracePollingLimit ← whole env "TRACE_POLLING_LIMIT" d.tracePollingLimit
  let ingestTracesLimit ← whole env "INGEST_TRACES_LIMIT" d.ingestTracesLimit
  return {
    jaegerTimeout, jaegerCallAttempts, jaegerCallDelay, jaegerBatchAttempts, jaegerBatchDelay
    jaegerBatchBackoff, chPort, llmTimeout, llmMaxTokens, breakerWindowSize, breakerMinimumCalls
    breakerFailureRate, breakerSlowCallSeconds, breakerSlowCallRate, breakerOpenSeconds
    breakerHalfOpenCalls, askTimeout, askWorkers, docChunkTokens, docChunkOverlap
    traceChunkTokens, traceChunkOverlap, startupTracesDelay, startupTracesLimit
    tracePollingInterval, tracePollingInitialDelay, tracePollingLimit, ingestTracesLimit
    jaegerApiUrl := text env "JAEGER_API_URL" d.jaegerApiUrl
    jaegerInternalServices := names env "JAEGER_INTERNAL_SERVICES" d.jaegerInternalServices
    chHost := text env "CH_HOST" d.chHost
    chUser := text env "CH_USER" d.chUser
    chPassword := text env "CH_PASSWORD" d.chPassword
    chDatabase := text env "CH_DATABASE" d.chDatabase
    chTable := text env "CH_TABLE" d.chTable
    embeddingModel := text env "EMBEDDING_MODEL" d.embeddingModel
    llmProvider := text env "LLM_PROVIDER" d.llmProvider
    openrouterApiKey := text env "OPENROUTER_API_KEY" d.openrouterApiKey
    openrouterBaseUrl := text env "OPENROUTER_BASE_URL" d.openrouterBaseUrl
    llmModel := text env "LLM_MODEL" d.llmModel
    anthropicApiKey := text env "ANTHROPIC_API_KEY" d.anthropicApiKey
    anthropicModel := text env "ANTHROPIC_MODEL" d.anthropicModel
    knownServices := names env "KNOWN_SERVICES" d.knownServices
    docsDir := readPath (text env "DOCS_DIR" d.docsDir)
    startupIngestDocs := flag env "STARTUP_INGEST_DOCS" d.startupIngestDocs
    startupIngestTraces := flag env "STARTUP_INGEST_TRACES" d.startupIngestTraces
    startupTracesLookback := text env "STARTUP_TRACES_LOOKBACK" d.startupTracesLookback
    tracePollingEnabled := flag env "TRACE_POLLING_ENABLED" d.tracePollingEnabled
    tracePollingLookback := text env "TRACE_POLLING_LOOKBACK" d.tracePollingLookback
    ingestTracesLookback := text env "INGEST_TRACES_LOOKBACK" d.ingestTracesLookback
    logLevel := text env "LOG_LEVEL" d.logLevel }

def nameList (names : List String) : Value :=
  .list (names.map .text)

/-- All settings under the names of their variables. -/
def entries (s : Settings) : Fields :=
  [("JAEGER_API_URL", .text s.jaegerApiUrl),
    ("JAEGER_TIMEOUT", .float s.jaegerTimeout),
    ("JAEGER_INTERNAL_SERVICES", nameList s.jaegerInternalServices),
    ("JAEGER_CALL_ATTEMPTS", .int s.jaegerCallAttempts),
    ("JAEGER_CALL_DELAY", .float s.jaegerCallDelay),
    ("JAEGER_BATCH_ATTEMPTS", .int s.jaegerBatchAttempts),
    ("JAEGER_BATCH_DELAY", .float s.jaegerBatchDelay),
    ("JAEGER_BATCH_BACKOFF", .float s.jaegerBatchBackoff),
    ("CH_HOST", .text s.chHost),
    ("CH_PORT", .int s.chPort),
    ("CH_USER", .text s.chUser),
    ("CH_PASSWORD", .text s.chPassword),
    ("CH_DATABASE", .text s.chDatabase),
    ("CH_TABLE", .text s.chTable),
    ("EMBEDDING_MODEL", .text s.embeddingModel),
    ("LLM_PROVIDER", .text s.llmProvider),
    ("OPENROUTER_API_KEY", .text s.openrouterApiKey),
    ("OPENROUTER_BASE_URL", .text s.openrouterBaseUrl),
    ("LLM_MODEL", .text s.llmModel),
    ("ANTHROPIC_API_KEY", .text s.anthropicApiKey),
    ("ANTHROPIC_MODEL", .text s.anthropicModel),
    ("LLM_TIMEOUT", .float s.llmTimeout),
    ("LLM_MAX_TOKENS", .int s.llmMaxTokens),
    ("BREAKER_WINDOW_SIZE", .int s.breakerWindowSize),
    ("BREAKER_MINIMUM_CALLS", .int s.breakerMinimumCalls),
    ("BREAKER_FAILURE_RATE", .float s.breakerFailureRate),
    ("BREAKER_SLOW_CALL_SECONDS", .float s.breakerSlowCallSeconds),
    ("BREAKER_SLOW_CALL_RATE", .float s.breakerSlowCallRate),
    ("BREAKER_OPEN_SECONDS", .float s.breakerOpenSeconds),
    ("BREAKER_HALF_OPEN_CALLS", .int s.breakerHalfOpenCalls),
    ("ASK_TIMEOUT", .float s.askTimeout),
    ("ASK_WORKERS", .int s.askWorkers),
    ("KNOWN_SERVICES", nameList s.knownServices),
    ("DOCS_DIR", .text s.docsDir),
    ("DOC_CHUNK_TOKENS", .int s.docChunkTokens),
    ("DOC_CHUNK_OVERLAP", .int s.docChunkOverlap),
    ("TRACE_CHUNK_TOKENS", .int s.traceChunkTokens),
    ("TRACE_CHUNK_OVERLAP", .int s.traceChunkOverlap),
    ("STARTUP_INGEST_DOCS", .bool s.startupIngestDocs),
    ("STARTUP_INGEST_TRACES", .bool s.startupIngestTraces),
    ("STARTUP_TRACES_DELAY", .float s.startupTracesDelay),
    ("STARTUP_TRACES_LOOKBACK", .text s.startupTracesLookback),
    ("STARTUP_TRACES_LIMIT", .int s.startupTracesLimit),
    ("TRACE_POLLING_ENABLED", .bool s.tracePollingEnabled),
    ("TRACE_POLLING_INTERVAL", .float s.tracePollingInterval),
    ("TRACE_POLLING_INITIAL_DELAY", .float s.tracePollingInitialDelay),
    ("TRACE_POLLING_LOOKBACK", .text s.tracePollingLookback),
    ("TRACE_POLLING_LIMIT", .int s.tracePollingLimit),
    ("INGEST_TRACES_LOOKBACK", .text s.ingestTracesLookback),
    ("INGEST_TRACES_LIMIT", .int s.ingestTracesLimit),
    ("LOG_LEVEL", .text s.logLevel)]

end Settings

end IncidentTriage

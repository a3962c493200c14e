import KustoSearch.Toml.Printer
import KustoSearch.Toml.Reader

/-! # Configuration

What a server has to know, in four sections. Every setting may be left out of the document and then
has its default; settings that are not known are ignored.
-/

namespace KustoSearch

/-- Where and how the server listens. -/
structure ServerSection where
  bindAddress : String
  /-- The greatest size of a request document, in bytes. -/
  maxBodySize : Nat
  /-- Whether pages of other origins may ask. -/
  corsEnabled : Bool
deriving DecidableEq, Repr

/-- The cluster that is searched. -/
structure ClusterSection where
  url : String
  /-- The database of an index that names none. -/
  database : String
  token : Option String
  /-- How long a statement may take, in milliseconds. -/
  timeout : Nat
deriving DecidableEq, Repr

/-- How searches are tried again. -/
structure RetrySection where
  maxRetries : Nat
  /-- The first pause, in milliseconds. -/
  backoff : Nat
deriving DecidableEq, Repr

/-- What the server tells of itself. -/
structure ObservabilitySection where
  logFormat : String
  logLevel : String
  metricsEnabled : Bool
deriving DecidableEq, Repr

/-- The settings of a server. -/
structure Config where
  server : ServerSection
  cluster : ClusterSection
  retry : RetrySection
  observability : ObservabilitySection
deriving DecidableEq, Repr

/-- Why a configuration cannot serve searches. -/
inductive ConfigProblem where
  | noCluster
  | noDatabase
  | noTime
deriving DecidableEq, Repr

/-- The wording of a problem. -/
def ConfigProblem.message : ConfigProblem → String
  | .noCluster =>
    "kusto.cluster_url is not set (config file, --cluster-url or KUSTO_CLUSTER_URL)"
  | .noDatabase => "kusto.database is not set (config file, --database or KUSTO_DATABASE)"
  | .noTime => "kusto.timeout_ms must be positive"

namespace Config

/-- The settings of an empty document. -/
def default : Config where
  server := ⟨"127.0.0.1:9200", 10 * 1024 * 1024, false⟩
  cluster := ⟨"", "", none, 30000⟩
  retry := ⟨0, 200⟩
  observability := ⟨"pretty", "info,kqlbridge=debug", true⟩

/-! ## Reading -/

/-- A setting with its default. -/
def setting? {α : Type} (read : Toml.Value → Option α) (default : α) :
    Option Toml.Value → Option α
  | none => some default
  | some value => read value

/-- The server section. -/
def server? (value : Toml.Value) : Option ServerSection := do
  match ← value.slots? ["bind_addr", "max_body_size", "cors_enabled"] with
  | [bindAddress, maxBodySize, corsEnabled] =>
    some {
      bindAddress := ← setting? Toml.Value.string? default.server.bindAddress bindAddress
      maxBodySize :=
        ← setting? (Toml.Value.natBelow? (Nat.pow 2 64)) default.server.maxBodySize maxBodySize
      corsEnabled := ← setting? Toml.Value.bool? default.server.corsEnabled corsEnabled }
  | _ => none

/-- The section of the cluster. -/
def cluster? (value : Toml.Value) : Option ClusterSection := do
  match ← value.slots? ["cluster_url", "database", "token", "timeout_ms"] with
  | [url, database, token, timeout] =>
    some {
      url := ← setting? Toml.Value.string? default.cluster.url url
      database := ← setting? Toml.Value.string? default.cluster.database database
      token := ← setting? (fun v => v.string?.map some) default.cluster.token token
      timeout := ← setting? (Toml.Value.natBelow? (Nat.pow 2 64)) default.cluster.timeout timeout }
  | _ => none

/-- The section on retries. -/
def retry? (value : Toml.Value) : Option RetrySection := do
  match ← value.slots? ["max_retries", "retry_backoff_ms"] with
  | [maxRetries, backoff] =>
    some {
      maxRetries := ← setting? (Toml.Value.natBelow? (Nat.pow 2 32)) default.retry.maxRetries maxRetries
      backoff := ← setting? (Toml.Value.natBelow? (Nat.pow 2 64)) default.retry.backoff backoff }
  | _ => none

/-- The section on logs and metrics. -/
def observability? (value : Toml.Value) : Option ObservabilitySection := do
  match ← value.slots? ["log_format", "log_level", "metrics_enabled"] with
  | [logFormat, logLevel, metricsEnabled] =>
    some {
      logFormat := ← setting? Toml.Value.string? default.observability.logFormat logFormat
      logLevel := ← setting? Toml.Value.string? default.observability.logLevel logLevel
      metricsEnabled :=
        ← setting? Toml.Value.bool? default.observability.metricsEnabled metricsEnabled }
  | _ => none

/-- The settings of a document. -/
def ofToml? (value : Toml.Value) : Option Config := do
  match ← value.slots? ["server", "kusto", "search", "observability"] with
  | [server, cluster, retry, observability] =>
    some {
      server := ← setting? server? default.server server
      cluster := ← setting? cluster? default.cluster cluster
      retry := ← setting? retry? default.retry retry
      observability := ← setting? observability? default.observability observability }
  | _ => none

/-- The settings of a text. -/
def read? (text : String) : Option Config := (Toml.read? text.toList).bind ofToml?

/-! ## Writing -/

/-- A truth value in a document. -/
def boolText (b : Bool) : String := if b then "true" else "false"

/-- The document of the settings. -/
def text (config : Config) : String :=
  let lines := [
    Toml.headerLine "server",
    Toml.entryLine "bind_addr" (Toml.quoted config.server.bindAddress),
    Toml.entryLine "max_body_size" (Text.naturalText config.server.maxBodySize),
    Toml.entryLine "cors_enabled" (boolText config.server.corsEnabled),
    "\n", Toml.headerLine "kusto",
    Toml.entryLine "cluster_url" (Toml.quoted config.cluster.url),
    Toml.entryLine "database" (Toml.quoted config.cluster.database)] ++
    (config.cluster.token.map fun token => Toml.entryLine "token" (Toml.quoted token)).toList ++
    [Toml.entryLine "timeout_ms" (Text.naturalText config.cluster.timeout),
    "\n", Toml.headerLine "search",
    Toml.entryLine "max_retries" (Text.naturalText config.retry.maxRetries),
    Toml.entryLine "retry_backoff_ms" (Text.naturalText config.retry.backoff),
    "\n", Toml.headerLine "observability",
    Toml.entryLine "log_format" (Toml.quoted config.observability.logFormat),
    Toml.entryLine "log_level" (Toml.quoted config.observability.logLevel),
    Toml.entryLine "metrics_enabled" (boolText config.observability.metricsEnabled)]
  String.join lines

/-! ## Use -/

/-- What keeps a configuration from serving searches. -/
def problem? (config : Config) : Option ConfigProblem :=
  if config.cluster.url = "" then some .noCluster
  else if config.cluster.database = "" then some .noDatabase
  else if config.cluster.timeout = 0 then some .noTime
  else none

end Config

end KustoSearch

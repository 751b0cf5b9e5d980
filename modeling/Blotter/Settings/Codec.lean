import Blotter.Json.Document
import Blotter.Settings.Basic

/-!
# Reading and writing settings

Each group of settings is read member by member from any document format; a setting that is missing has its default.
A group is written as a JSON object with all its settings.
-/

namespace Blotter

open Document

variable {δ : Type} [Document δ]

namespace FileSettings

/-- The members of the group. -/
def memberNames : List String := ["file_path", "fsync", "max_queue_depth"]

/-- Reads the group. -/
def ofDocument? (v : δ) : Option FileSettings := do
  let m ← record? memberNames v
  let d : FileSettings := {}
  return {
    path := ← m.orElse "file_path" d.path text?
    sync := ← m.orElse "fsync" d.sync (named? SyncPolicy.ofName?)
    maxQueueDepth := ← m.orElse "max_queue_depth" d.maxQueueDepth word64? }

/-- Writes the group. -/
def toJson (s : FileSettings) : Json := .object [
  ("file_path", .string s.path),
  ("fsync", .string s.sync.name),
  ("max_queue_depth", .ofNat s.maxQueueDepth)]

end FileSettings

namespace PoolSettings

/-- The members of the group. -/
def memberNames : List String := ["initial_capacity", "allow_growth"]

/-- Reads the group. -/
def ofDocument? (v : δ) : Option PoolSettings := do
  let m ← record? memberNames v
  let d : PoolSettings := {}
  return {
    initialCapacity := ← m.orElse "initial_capacity" d.initialCapacity word64?
    allowGrowth := ← m.orElse "allow_growth" d.allowGrowth bool? }

/-- Writes the group. -/
def toJson (s : PoolSettings) : Json := .object [
  ("initial_capacity", .ofNat s.initialCapacity),
  ("allow_growth", .bool s.allowGrowth)]

end PoolSettings

namespace DatabaseSettings

/-- The members of the group. -/
def memberNames : List String :=
  ["enabled", "connection_string", "max_queue_depth", "batch_size", "max_batch_before_flush", "idle_flush_ms"]

/-- Reads the group. -/
def ofDocument? (v : δ) : Option DatabaseSettings := do
  let m ← record? memberNames v
  let d : DatabaseSettings := {}
  return {
    enabled := ← m.orElse "enabled" d.enabled bool?
    connection := ← m.orElse "connection_string" d.connection text?
    maxQueueDepth := ← m.orElse "max_queue_depth" d.maxQueueDepth word64?
    batchSize := ← m.orElse "batch_size" d.batchSize word64?
    maxRounds := ← m.orElse "max_batch_before_flush" d.maxRounds word32?
    idleFlushMs := ← m.orElse "idle_flush_ms" d.idleFlushMs word64? }

/-- Writes the group. -/
def toJson (s : DatabaseSettings) : Json := .object [
  ("enabled", .bool s.enabled),
  ("connection_string", .string s.connection),
  ("max_queue_depth", .ofNat s.maxQueueDepth),
  ("batch_size", .ofNat s.batchSize),
  ("max_batch_before_flush", .ofNat s.maxRounds),
  ("idle_flush_ms", .ofNat s.idleFlushMs)]

end DatabaseSettings

namespace RetrySettings

/-- The members of the group. -/
def memberNames : List String :=
  ["initial_backoff_ms", "max_backoff_ms", "alert_after_failures", "final_flush_attempts"]

/-- Reads the group. -/
def ofDocument? (v : δ) : Option RetrySettings := do
  let m ← record? memberNames v
  let d : RetrySettings := {}
  return {
    initialBackoffMs := ← m.orElse "initial_backoff_ms" d.initialBackoffMs word64?
    maxBackoffMs := ← m.orElse "max_backoff_ms" d.maxBackoffMs word64?
    alertAfter := ← m.orElse "alert_after_failures" d.alertAfter word32?
    finalAttempts := ← m.orElse "final_flush_attempts" d.finalAttempts word32? }

/-- Writes the group. -/
def toJson (s : RetrySettings) : Json := .object [
  ("initial_backoff_ms", .ofNat s.initialBackoffMs),
  ("max_backoff_ms", .ofNat s.maxBackoffMs),
  ("alert_after_failures", .ofNat s.alertAfter),
  ("final_flush_attempts", .ofNat s.finalAttempts)]

end RetrySettings

namespace RecoverySettings

/-- The members of the group. -/
def memberNames : List String := ["account", "source"]

/-- Reads the group. -/
def ofDocument? (v : δ) : Option RecoverySettings := do
  let m ← record? memberNames v
  let d : RecoverySettings := {}
  return {
    account := ← m.orElse "account" d.account text?
    source := ← m.orElse "source" d.source (named? RecoverySource.ofName?) }

/-- Writes the group. -/
def toJson (s : RecoverySettings) : Json := .object [
  ("account", .string s.account),
  ("source", .string s.source.name)]

end RecoverySettings

namespace DeskSettings

/-- The members of the group. -/
def memberNames : List String :=
  ["order_flow_enabled", "drain_iterations", "drain_sleep_ms", "persist_ordering", "max_order_quantity",
    "max_orders_per_second"]

/-- Reads the group. -/
def ofDocument? (v : δ) : Option DeskSettings := do
  let m ← record? memberNames v
  let d : DeskSettings := {}
  return {
    orderFlowEnabled := ← m.orElse "order_flow_enabled" d.orderFlowEnabled bool?
    drainIterations := ← m.orElse "drain_iterations" d.drainIterations word32?
    drainSleepMs := ← m.orElse "drain_sleep_ms" d.drainSleepMs word64?
    persistOrdering := ← m.orElse "persist_ordering" d.persistOrdering (named? PersistOrdering.ofName?)
    maxOrderQuantity := ← m.orElse "max_order_quantity" d.maxOrderQuantity decimal?
    maxOrdersPerSecond := ← m.orElse "max_orders_per_second" d.maxOrdersPerSecond word32? }

/-- Writes the group. -/
def toJson (s : DeskSettings) : Json := .object [
  ("order_flow_enabled", .bool s.orderFlowEnabled),
  ("drain_iterations", .ofNat s.drainIterations),
  ("drain_sleep_ms", .ofNat s.drainSleepMs),
  ("persist_ordering", .string s.persistOrdering.name),
  ("max_order_quantity", .ofDecimal s.maxOrderQuantity),
  ("max_orders_per_second", .ofNat s.maxOrdersPerSecond)]

end DeskSettings

namespace ObservabilitySettings

/-- The members of the group. -/
def memberNames : List String := ["log_filter", "otel_enabled", "otlp_endpoint", "service_name", "metrics_addr"]

/-- Reads the group. -/
def ofDocument? (v : δ) : Option ObservabilitySettings := do
  let m ← record? memberNames v
  let d : ObservabilitySettings := {}
  return {
    logFilter := ← m.orElse "log_filter" d.logFilter text?
    otelEnabled := ← m.orElse "otel_enabled" d.otelEnabled bool?
    otlpEndpoint := ← m.orElse "otlp_endpoint" d.otlpEndpoint text?
    serviceName := ← m.orElse "service_name" d.serviceName text?
    metricsAddr := ← m.optional "metrics_addr" text? }

/-- Writes the group. -/
def toJson (s : ObservabilitySettings) : Json := .object [
  ("log_filter", .string s.logFilter),
  ("otel_enabled", .bool s.otelEnabled),
  ("otlp_endpoint", .string s.otlpEndpoint),
  ("service_name", .string s.serviceName),
  ("metrics_addr", .ofOption .string s.metricsAddr)]

end ObservabilitySettings

namespace Config

/-- The groups of settings. -/
def memberNames : List String :=
  ["journal", "pool", "database", "retry", "recovery", "container", "observability"]

/-- Reads all settings. -/
def ofDocument? (v : δ) : Option Config := do
  let m ← record? memberNames v
  return {
    journal := ← m.orElse "journal" {} FileSettings.ofDocument?
    pool := ← m.orElse "pool" {} PoolSettings.ofDocument?
    database := ← m.orElse "database" {} DatabaseSettings.ofDocument?
    retry := ← m.orElse "retry" {} RetrySettings.ofDocument?
    recovery := ← m.orElse "recovery" {} RecoverySettings.ofDocument?
    desk := ← m.orElse "container" {} DeskSettings.ofDocument?
    observability := ← m.orElse "observability" {} ObservabilitySettings.ofDocument? }

/-- Writes all settings. -/
def toJson (c : Config) : Json := .object [
  ("journal", c.journal.toJson),
  ("pool", c.pool.toJson),
  ("database", c.database.toJson),
  ("retry", c.retry.toJson),
  ("recovery", c.recovery.toJson),
  ("container", c.desk.toJson),
  ("observability", c.observability.toJson)]

end Config

end Blotter

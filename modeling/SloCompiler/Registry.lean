import SloCompiler.Indicator.Basic

namespace SloCompiler

-- Indicators by the tag under which specs ask for them. A tag keeps its first indicator.
abbrev Registry := List (String × Indicator)

namespace Registry

def register (registry : Registry) (tag : String) (candidate : Option Indicator) :
    Except Refusal Registry :=
  if (Ordered.get? registry tag).isSome then .error (.registered tag)
  else
    match candidate with
    | none => .error (.noIndicator tag)
    | some indicator => .ok (registry ++ [(tag, indicator)])

def ofCandidates (candidates : List (String × Option Indicator)) : Except Refusal Registry :=
  candidates.foldlM (fun registry (tag, candidate) => registry.register tag candidate) []

def tags (registry : Registry) : List String :=
  (Ordered.keys registry).mergeSort fun a b => !(b < a)

def get (registry : Registry) (tag : String) : Except Fault Indicator :=
  match Ordered.get? registry tag with
  | some indicator => .ok indicator
  | none => .error (.ofCause (.metricType tag registry.tags))

def contains (registry : Registry) (tag : String) : Bool := (Ordered.get? registry tag).isSome

def standard : Registry := [
  ("up", .up),
  ("http_requests_total", .errorRatio "http_requests_total" "code" "5.."),
  ("prometheus_http_requests_total", .errorRatio "prometheus_http_requests_total" "code" "5.."),
  ("grafana_http_requests",
    .errorRatio "grafana_http_request_duration_seconds_count" "status_code" "5.."),
  ("http_request_duration_seconds", .latency "http_request_duration_seconds"),
  ("prometheus_http_request_duration_seconds", .latency "prometheus_http_request_duration_seconds"),
  ("grafana_http_request_duration_seconds", .latency "grafana_http_request_duration_seconds"),
  ("aws_sqs_message_age", .queueAge)]

end Registry

end SloCompiler

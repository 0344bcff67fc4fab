import NodeGateway.Json.Access
import NodeGateway.Settings.Basic

/-!
# The JSON Form of Settings

Durations in nanoseconds and numbers as decimal texts, URLs as texts.
-/

namespace NodeGateway

/-- The JSON form of a URL. -/
def Url.toJson (url : Url) : Json := .str url.text

/-- The JSON form of a duration. -/
def Duration.toJson (d : Duration) : Json := .quotedNat d.nanos

/-- The JSON form of the settings of a layer. -/
def LayerSettings.toJson (layer : LayerSettings) : Json :=
  .obj [("primary_url", layer.primary.toJson), ("fallback_url", Json.opt Url.toJson layer.fallback),
    ("fast_ns", layer.tiers.fast.toJson), ("slow_ns", layer.tiers.slow.toJson)]

/-- The members that settings are written with. -/
def Settings.members (s : Settings) : List (String × Json) :=
  [("execution", s.execution.toJson), ("beacon", s.beacon.toJson),
    ("reconnect_ns", s.reconnectDelay.toJson), ("port", .nat s.port),
    ("host", .str (Ipv4.text s.host)), ("multicall", .fixed s.multicall),
    ("concurrent_call_limit", Json.opt Json.quotedNat s.callLimit),
    ("gas_buffer", .quotedNat s.gas.buffer),
    ("gas_multiplier", .str (Decimal.render s.gas.multiplier)),
    ("sync_ns", s.syncInterval.toJson), ("request_ns", s.requestTimeout.toJson),
    ("gas_oracle_url", Json.opt Url.toJson s.oracle)]

end NodeGateway

import Turnstile.Base64
import Turnstile.Environment
import Turnstile.Http.Media
import Turnstile.Telemetry.Endpoint
import Turnstile.Text.Blank

/-!
The settings of the span exporter, checked before it is built. Nothing is looked at unless an endpoint
is set; the exporter reads the endpoint once more by itself, and one for traces alone comes first.
-/

namespace Turnstile.Telemetry

/-- The pairs of a header list; a piece without an equals sign is passed over. -/
def headerPairs (s : String) : List (String × String) :=
  (s.splitOn ",").filterMap fun piece =>
    match piece.splitOn "=" with
    | name :: first :: rest => some (Text.trim name, Text.trim ("=".intercalate (first :: rest)))
    | _ => none

/-- Of several pairs with one name the last. -/
def lastOfEach : List (String × String) → List (String × String)
  | [] => []
  | h :: rest => if rest.any (·.1 = h.1) then lastOfEach rest else h :: lastOfEach rest

/-- Padding has to be there and has to be exact. -/
def decodePadded? (s : List Char) : Option Bytes :=
  if s.length % 4 ≠ 0 then none
  else
    let padding := s.reverse.takeWhile (· = '=')
    if 2 < padding.length then none
    else Base64.decode? .standard (s.take (s.length - padding.length))

def isBinaryName (name : List Char) : Bool := "-bin".toList.isSuffixOf name

def isName (name : List Char) : Bool :=
  name ≠ [] && decide (name.length ≤ 65535) && name.all Http.isTokenChar

def isValueChar (c : Char) : Bool := c = '\t' || (decide (32 ≤ c.toNat) && c.toNat ≠ 127)

/-- Checks one header. The names that end in `-bin` carry bytes in base 64. -/
def checkHeader (h : String × String) : Except String Unit := do
  let name := h.1.toList.map Char.toLower
  let shown := String.ofList name
  if isBinaryName name then
    if (decodePadded? h.2.toList).isNone then
      throw s!"failed to base64-decode value for key {shown}: invalid Base64 encoding"
    if !isName name then throw s!"invalid binary metadata key {shown}: invalid gRPC metadata key name"
  else
    if !isName name then throw s!"invalid ASCII metadata key {shown}: invalid gRPC metadata key name"
    if !h.2.toList.all isValueChar then
      throw s!"invalid ASCII metadata value for key {shown}: failed to parse metadata value"

def exporterFault (message : String) : String :=
  "Exporter otlp encountered the following error(s): " ++ message

/-- Compression is named but never built in. -/
def checkCompression (env : Environment) : Except String Unit :=
  match (env.get? "OTEL_EXPORTER_OTLP_TRACES_COMPRESSION").or
      (env.get? "OTEL_EXPORTER_OTLP_COMPRESSION") with
  | none => .ok ()
  | some name =>
    if name = "gzip" ∨ name = "zstd" then
      .error (exporterFault
        s!"feature '{name}-tonic' is required to use the compression algorithm '{name}'")
    else .error (exporterFault s!"unsupported compression algorithm '{name}'")

def checkEndpoint (env : Environment) (endpoint : String) : Except String Unit :=
  match checkUri ((env.get? "OTEL_EXPORTER_OTLP_TRACES_ENDPOINT").getD endpoint) with
  | .ok () => .ok ()
  | .error fault => .error (exporterFault ("invalid URI " ++ fault.message))

def check (env : Environment) : Except String Unit :=
  match env.get? "OTEL_EXPORTER_OTLP_ENDPOINT" with
  | none => .ok ()
  | some endpoint => do
    (lastOfEach (headerPairs ((env.get? "OTEL_EXPORTER_OTLP_HEADERS").getD ""))).forM checkHeader
    checkCompression env
    checkEndpoint env endpoint

end Turnstile.Telemetry

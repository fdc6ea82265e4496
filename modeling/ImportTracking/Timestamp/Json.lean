import ImportTracking.Timestamp.Reader
import ImportTracking.Json.Decoder

/-!
# Timestamp — as JSON

A timestamp is a string in the form of RFC 3339.
-/

namespace ImportTracking.Timestamp

/-- Reads a timestamp. -/
def decoder : Json.Decoder Timestamp
  | .str s =>
    match parse s with
    | .ok t => .ok t
    | .error e => .error (.malformed e.message)
  | j => Json.Decoder.refuse "an RFC 3339 formatted date and time string" j

/-- A timestamp as JSON. -/
def toJson (t : Timestamp) : Json := .str t.rfc3339

end ImportTracking.Timestamp

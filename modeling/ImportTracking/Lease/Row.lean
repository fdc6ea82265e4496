import ImportTracking.Timestamp.Json

/-!
# Lease — rows

A lease that workers of one database share is a row: its key, the token of its holder, and the
instant at which it expires.
-/

namespace ImportTracking.Lease

/-- The row of a lease. -/
structure Row where
  id : Int
  key : String
  token : String
  expiresAt : Timestamp
  createdAt : Timestamp
deriving DecidableEq, Repr, Inhabited

namespace Row

/-- The fields of a lease's row. -/
def fields : Json.Fields Row :=
  Row.mk <$> .required "id" .int32 <*> .required "lease_key" .string
    <*> .required "token" .string <*> .required "expires_at" Timestamp.decoder
    <*> .required "created_at" Timestamp.decoder

/-- Reads a lease's row. -/
def decoder : Json.Decoder Row := .record "Model" fields

/-- A lease's row as JSON. -/
def toJson (r : Row) : Json :=
  .ofMembers
    [("id", .int r.id), ("lease_key", .str r.key), ("token", .str r.token),
      ("expires_at", r.expiresAt.toJson), ("created_at", r.createdAt.toJson)]

end Row

end ImportTracking.Lease

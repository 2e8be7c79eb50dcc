import Uplift.Condition.Basic
import Uplift.Value.Decode
/-! # Queries and conditions as documents

A query is a record; a condition is a mapping with one entry, which names how its queries are
joined.
-/

namespace Uplift

namespace Query

/-- A query as a document value. -/
def encode (q : Query) : Value :=
  .record [("resourceKind", .str q.kind), ("symbol", .str q.symbol),
    ("parameters", .seq (q.params.map fun (k, v) => .strings [k, v]))]

/-- Reads a query. Its parameters are kept as they are written. -/
def decode : Decoder Query := fun v => do
  let r ← Record.of? .json ["resourceKind", "symbol", "parameters"] v
  some ⟨← r.required "resourceKind" Decoder.text, ← r.required "symbol" Decoder.text,
    ← r.withDefault "parameters" []
      (Decoder.list .json (Decoder.pair Decoder.text Decoder.text))⟩

end Query

namespace Condition

/-- A condition as a document value. -/
def encode : Condition → Value
  | one q => .record [("leaf", q.encode)]
  | all qs => .record [("all", .seq (qs.map Query.encode))]
  | any qs => .record [("any", .seq (qs.map Query.encode))]

/-- Reads a condition. -/
def decode : Decoder Condition
  | .map [(.str "leaf", v)] => (Query.decode v).map .one
  | .map [(.str "all", v)] => (Decoder.list .json Query.decode v).map .all
  | .map [(.str "any", v)] => (Decoder.list .json Query.decode v).map .any
  | _ => none

end Condition

end Uplift

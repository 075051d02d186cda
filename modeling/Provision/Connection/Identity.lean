import Provision.Connection.Fields

/-!
# Equal configurations

Two configurations are equal if the six fields are that make up their identity. A hasher is
given these fields and no others, whatever it makes of them. A set of configurations is built by
putting in one after the other; of equal ones it keeps the first.
-/

namespace Provision

/-- A hasher takes in values one after the other and gives a number in the end. Of a value that
may be missing it takes in first whether it is there. -/
structure Hasher (σ : Type) where
  start : σ
  presence : σ → Bool → σ
  text : σ → String → σ
  number : σ → UInt32 → σ
  finish : σ → UInt64

/-- The state of a hasher after a value that may be missing. -/
def Hasher.optional {σ α : Type} (h : Hasher σ) (take : σ → α → σ) (state : σ) : Option α → σ
  | none => h.presence state false
  | some a => take (h.presence state true) a

namespace Fields

/-- The configurations are equal. -/
def isSame (fields other : Fields) : Bool :=
  fields.normalUrl == other.normalUrl
    && fields.table == other.table
    && fields.username == other.username
    && fields.password == other.password
    && fields.maxConnections == other.maxConnections
    && fields.dataSource == other.dataSource

/-- The number that a hasher gives for a configuration. -/
def hash {σ : Type} (h : Hasher σ) (fields : Fields) : UInt64 :=
  let state := h.optional h.text h.start fields.normalUrl
  let state := h.optional h.text state fields.table
  let state := h.optional h.text state fields.username
  let state := h.text state fields.password
  let state := h.optional h.number state fields.maxConnections
  let state := h.optional h.text state fields.dataSource
  h.finish state

/-- The user and the place, as shown to people. -/
def text (fields : Fields) : String :=
  fields.username.getD "" ++ "@" ++ fields.normalUrl.getD ""

/-- The set with a configuration put in, unless it has an equal one. An equal one is looked for
among those that have the same hash only. -/
def insert {σ : Type} (h : Hasher σ) (kept : List Fields) (fields : Fields) : List Fields :=
  if kept.any fun other => other.hash h == fields.hash h && other.isSame fields then kept
  else kept ++ [fields]

/-- The set that is built of configurations. -/
def gather {σ : Type} (h : Hasher σ) (configs : List Fields) : List Fields :=
  configs.foldl (insert h) []

end Fields

end Provision

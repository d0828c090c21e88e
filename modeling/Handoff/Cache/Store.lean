import Handoff.Cache.Tier
import Handoff.Log

/-!
# The two-tier cache

A store is a document with a volatile and a durable tier. A lookup asks the volatile tier first; what
only the durable tier has is promoted. A durable text that cannot be read counts as a miss. Storing
writes both tiers, the volatile one first. The store counts what happens.
-/

namespace Handoff

/-- How often things have happened to a cache. -/
structure CacheStats where
  memoryHits : Nat := 0
  durableHits : Nat := 0
  misses : Nat := 0
  decodeFailures : Nat := 0
  writes : Nat := 0
  deriving DecidableEq, Repr, Inhabited

/-- Write the counts. -/
def CacheStats.toJson (s : CacheStats) : Json :=
  .object [("memoryHits", .ofNat s.memoryHits), ("durableHits", .ofNat s.durableHits),
    ("misses", .ofNat s.misses), ("decodeFailures", .ofNat s.decodeFailures),
    ("writes", .ofNat s.writes)]

/-- A document with its cache. -/
structure Store where
  document : Document
  volatile : Tier := .memory .empty
  durable : Tier
  stats : CacheStats := {}

/-- What a lookup leads to. -/
structure Lookup where
  store : Store
  found : Option Bundle
  log : List LogRecord

namespace Store

/-- Let a volatile tier know a bundle that the durable tier has. -/
def promote (s : Store) (id : NodeId) (b : Bundle) : Store × List LogRecord :=
  match s.volatile.write s.document id b with
  | .ok (volatile, document) => ({ s with volatile, document }, [])
  | .error e =>
    (s, [⟨.warning, "Could not promote " ++ id ++ " into " ++ s.volatile.label ++ " tier: "
      ++ e.message⟩])

/-- Look up in the durable tier. -/
def lookupDurable (s : Store) (id : NodeId) : Lookup :=
  match s.durable.read s.document id with
  | .ok (some b) =>
    let hit := { s with stats := { s.stats with durableHits := s.stats.durableHits + 1 } }
    let (promoted, log) := hit.promote id b
    ⟨promoted, some b, log⟩
  | .ok none => ⟨{ s with stats := { s.stats with misses := s.stats.misses + 1 } }, none, []⟩
  | .error e =>
    ⟨{ s with
        stats :=
          { s.stats with
            misses := s.stats.misses + 1, decodeFailures := s.stats.decodeFailures + 1 } },
      none, [⟨.warning, "Treating " ++ id ++ " as a cache miss: " ++ e.message⟩]⟩

/-- Look up a bundle, in the volatile tier first. -/
def lookup (s : Store) (id : NodeId) : Lookup :=
  match s.volatile.read s.document id with
  | .ok (some b) =>
    ⟨{ s with stats := { s.stats with memoryHits := s.stats.memoryHits + 1 } }, some b, []⟩
  | .ok none => s.lookupDurable id
  | .error e =>
    let below := s.lookupDurable id
    { below with
      log := ⟨.warning, s.volatile.label ++ " tier read failed for " ++ id ++ ": " ++ e.message⟩
        :: below.log }

/-- Keep a bundle in both tiers. A failed write leaves what was written before it. -/
def keep (s : Store) (id : NodeId) (b : Bundle) : Store × Except CompileError Unit :=
  match s.volatile.write s.document id b with
  | .error e => (s, .error e)
  | .ok (volatile, document) =>
    let s₁ :=
      { s with volatile, document, stats := { s.stats with writes := s.stats.writes + 1 } }
    match s₁.durable.write document id b with
    | .error e => (s₁, .error e)
    | .ok (durable, document) => ({ s₁ with durable, document }, .ok ())

/-- The bundle in the volatile tier, if it can be read. -/
def volatile? (s : Store) (id : NodeId) : Option Bundle :=
  match s.volatile.read s.document id with
  | .ok found => found
  | .error _ => none

/-- The bundle in the durable tier. -/
def readDurable (s : Store) (id : NodeId) : Except CompileError (Option Bundle) :=
  s.durable.read s.document id

/-- Whether the volatile tier keeps something for an id. -/
def hasVolatile (s : Store) (id : NodeId) : Bool := s.volatile.contains s.document id

/-- Whether the durable tier keeps something for an id. -/
def hasDurable (s : Store) (id : NodeId) : Bool := s.durable.contains s.document id

/-- Forget what is kept for other ids than the given ones. -/
def prune (s : Store) (ids : List NodeId) : Store :=
  { s with volatile := s.volatile.retain (ids.contains ·), durable := s.durable.retain (ids.contains ·) }

end Store
end Handoff

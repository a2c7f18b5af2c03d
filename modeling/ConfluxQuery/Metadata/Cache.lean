import ConfluxQuery.Core.Driver
import ConfluxQuery.Lib.Pool

/-!
# The metadata cache

Metadata lookups shared by the frontends. A lookup first asks the cache, which drops what has grown
too old; on a miss it calls the adapter and puts the answer into the cache. The cache is locked for
the look and for the insertion only, and the adapter's answer is awaited in between, so the calls of
several clients, and those that invalidate a target, run side by side between these steps. The
properties of a request enter the cache's key through a hash alone.
-/

namespace ConfluxQuery

/-- A catalog of an engine. -/
structure CatalogMetadata where
  name : String
  deriving DecidableEq, Repr

/-- A schema of an engine. -/
structure SchemaMetadata where
  catalog : Option String
  name : String
  deriving DecidableEq, Repr

/-- Kinds of objects. -/
inductive ObjectKind
  | table | view | other
  deriving DecidableEq, Repr

/-- A table or view of an engine. -/
structure ObjectMetadata where
  catalog : Option String
  schema : Option String
  name : String
  kind : ObjectKind
  deriving DecidableEq, Repr

/-- A column of a table or view. -/
structure ColumnMetadata where
  name : String
  /-- Type, as the engine writes it. -/
  dataType : String
  /-- Whether the column may be empty, where known. -/
  nullable : Option Bool
  comment : Option String
  deriving DecidableEq, Repr

/-- The lookups there are. -/
inductive MetadataOperation
  | catalogs
  | schemas
  | objects
  | describe (object : String)
  deriving DecidableEq, Repr

/-- What an entry of the cache is found by. -/
structure CacheKey where
  identity : String
  target : String
  engine : String
  catalog : Option String
  schema : Option String
  pattern : Option String
  /-- Hash of the properties. -/
  properties : UInt64
  operation : MetadataOperation
  deriving DecidableEq, Repr

/-- Answers the cache holds. -/
inductive CachedValue
  | catalogs (value : List CatalogMetadata)
  | schemas (value : List SchemaMetadata)
  | objects (value : List ObjectMetadata)
  | columns (value : List ColumnMetadata)
  deriving DecidableEq, Repr

/-- An answer and the time it was put into the cache. -/
structure CacheEntry where
  inserted : Nat
  value : CachedValue

/-- What an adapter answers to a lookup. -/
abbrev MetadataOperation.Answer : MetadataOperation → Type
  | .catalogs => List CatalogMetadata
  | .schemas => List SchemaMetadata
  | .objects => List ObjectMetadata
  | .describe _ => List ColumnMetadata

/-- An answer as the cache holds it. -/
def MetadataOperation.cachedValue : (operation : MetadataOperation) → operation.Answer → CachedValue
  | .catalogs, value => .catalogs value
  | .schemas, value => .schemas value
  | .objects, value => .objects value
  | .describe _, value => .columns value

/-- The answer to a lookup in what the cache holds, if it is of the lookup's kind. -/
def MetadataOperation.answer :
    (operation : MetadataOperation) → CachedValue → Option operation.Answer
  | .catalogs, .catalogs value => some value
  | .schemas, .schemas value => some value
  | .objects, .objects value => some value
  | .describe _, .columns value => some value
  | _, _ => none

/-- The hash of property maps: a function of the map, not of the order it is written in. -/
structure PropertyHash where
  finish : Registry String String → UInt64
  /-- Maps with the same entries have the same hash. -/
  alike : ∀ one other : Registry String String, one.entries.Perm other.entries →
    finish one = finish other

/-- The key of a lookup. -/
def cacheKey (hasher : PropertyHash) (request : MetadataRequest) (operation : MetadataOperation) :
    CacheKey where
  identity := request.identity
  target := request.target
  engine := request.engine
  catalog := request.catalog
  schema := request.schema
  pattern := request.pattern
  properties := hasher.finish request.properties
  operation := operation

/-- What a metadata service is built with: the engines it has adapters for, the time entries are
kept for, and the hash. -/
structure MetadataService where
  adapters : List String
  ttl : Nat
  hasher : PropertyHash

/-- The steps of the service's calls. An adapter's lookup is two of them: it is called, and its
answer arrives. -/
inductive MetadataOp
  | cached (key : CacheKey)
  | calls (operation : MetadataOperation) (request : MetadataRequest)
  | awaits (operation : MetadataOperation) (request : MetadataRequest)
  | insert (key : CacheKey) (value : CachedValue)
  | invalidateTarget (target : String)

/-- The replies of the steps. -/
abbrev metadataOps : Signature where
  Op := MetadataOp
  Reply
    | .cached _ => Option CachedValue
    | .calls _ _ => Unit
    | .awaits operation _ => Except DriverError operation.Answer
    | .insert _ _ => Unit
    | .invalidateTarget _ => Unit

namespace MetadataService

variable (service : MetadataService)

/-- An engine without an adapter is refused. -/
def adapter (engine : String) : Except DriverError Unit :=
  if engine ∈ service.adapters then .ok ()
  else .error ⟨"adapter_not_found", s!"no adapter registered for engine '{engine}'"⟩

/-- A lookup: the cache, then the adapter, whose answer is put into the cache. -/
def lookup (operation : MetadataOperation) (request : MetadataRequest) :
    Prog metadataOps DriverError operation.Answer := do
  let key := cacheKey service.hasher request operation
  let held ← Prog.perform (S := metadataOps) (MetadataOp.cached key)
  match held.bind operation.answer with
  | some value => return value
  | none =>
    Prog.lift (service.adapter request.engine)
    Prog.perform (S := metadataOps) (MetadataOp.calls operation request)
    let answered ← Prog.perform (S := metadataOps) (MetadataOp.awaits operation request)
    let value ← Prog.lift answered
    Prog.perform (S := metadataOps) (MetadataOp.insert key (operation.cachedValue value))
    return value

/-- List catalogs. -/
def catalogs (request : MetadataRequest) : Prog metadataOps DriverError (List CatalogMetadata) :=
  service.lookup .catalogs request

/-- List schemas. -/
def schemas (request : MetadataRequest) : Prog metadataOps DriverError (List SchemaMetadata) :=
  service.lookup .schemas request

/-- List tables and views. -/
def objects (request : MetadataRequest) : Prog metadataOps DriverError (List ObjectMetadata) :=
  service.lookup .objects request

/-- Describe one table or view. -/
def describe (request : MetadataRequest) (object : String) :
    Prog metadataOps DriverError (List ColumnMetadata) :=
  service.lookup (.describe object) request

end MetadataService

/-- Drop the entries of a target. -/
def invalidateTarget (target : String) : Prog metadataOps DriverError Unit :=
  Prog.perform (S := metadataOps) (MetadataOp.invalidateTarget target)

/-- The calls of the service. -/
inductive MetadataCall
  | catalogs (request : MetadataRequest)
  | schemas (request : MetadataRequest)
  | objects (request : MetadataRequest)
  | describe (request : MetadataRequest) (object : String)
  | invalidateTarget (target : String)

/-- The lookup a call makes, if it makes one. -/
def MetadataCall.query : MetadataCall → Option (MetadataOperation × MetadataRequest)
  | .catalogs request => some (.catalogs, request)
  | .schemas request => some (.schemas, request)
  | .objects request => some (.objects, request)
  | .describe request object => some (.describe object, request)
  | .invalidateTarget _ => none

/-- What a call returns. -/
inductive MetadataReply
  | found (value : CachedValue)
  | invalidated
  deriving DecidableEq

/-- What a step reads from outside: how long it comes after the step before it, and what an adapter
answers. -/
structure MetadataReading where
  waited : Nat
  /-- The adapter's answer to each lookup. -/
  answer : (operation : MetadataOperation) → Except DriverError operation.Answer

/-- The cache and the clock. -/
structure MetadataWorld where
  cache : Registry CacheKey CacheEntry
  clock : Nat

/-- A service that has just been built. -/
def MetadataWorld.new : MetadataWorld := ⟨∅, 0⟩

/-- The time of a step. -/
def MetadataWorld.now (world : MetadataWorld) (reading : MetadataReading) : Nat :=
  world.clock + reading.waited

namespace MetadataService

variable (service : MetadataService)

/-- The entries that are not too old. -/
def unexpired (now : Nat) (cache : Registry CacheKey CacheEntry) : Registry CacheKey CacheEntry :=
  cache.retain fun _ entry => decide (now - entry.inserted ≤ service.ttl)

/-- What each step does to the cache. -/
def handle (reading : MetadataReading) :
    (act : MetadataOp) → MetadataWorld →
      Option (Outcome metadataOps MetadataWorld MetadataCall act)
  | .cached key, world =>
    let kept := service.unexpired (world.now reading) world.cache
    some { reply := (kept.lookup key).map CacheEntry.value, world := ⟨kept, world.now reading⟩ }
  | .calls _ _, world => some { reply := (), world := { world with clock := world.now reading } }
  | .awaits operation _, world =>
    some { reply := reading.answer operation, world := { world with clock := world.now reading } }
  | .insert key value, world =>
    some
      { reply := ()
        world := ⟨world.cache.insert key ⟨world.now reading, value⟩, world.now reading⟩ }
  | .invalidateTarget target, world =>
    some
      { reply := ()
        world := ⟨world.cache.retain fun key _ => decide (key.target ≠ target),
          world.now reading⟩ }

/-- The program of each call. -/
def program : MetadataCall → Prog metadataOps DriverError MetadataReply
  | .catalogs request => (fun value => .found (.catalogs value)) <$> service.catalogs request
  | .schemas request => (fun value => .found (.schemas value)) <$> service.schemas request
  | .objects request => (fun value => .found (.objects value)) <$> service.objects request
  | .describe request object =>
    (fun value => .found (.columns value)) <$> service.describe request object
  | .invalidateTarget target => (fun _ => .invalidated) <$> ConfluxQuery.invalidateTarget target

/-- The service as a machine: one place, all calls from clients. -/
def machine : Machine metadataOps MetadataWorld Unit MetadataReading MetadataCall DriverError
    MetadataReply where
  handle _ reading act world := service.handle reading act world
  program _ call := service.program call
  client _ := true

end MetadataService

end ConfluxQuery

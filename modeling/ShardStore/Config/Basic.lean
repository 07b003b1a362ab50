import ShardStore.Bounded
import ShardStore.Counted.Sharded
import ShardStore.Sharded.Basic

/-!
# Configurations

How large the stores are made, how much work they are given, and what is logged. Every section but the environment may be
left out, and then has defaults.
-/

namespace ShardStore

namespace Config

/-- What is logged. -/
structure Logs where
  level : Option String
deriving DecidableEq

/-- The size of a sharded store. -/
structure Split where
  /-- The number of entries expected. -/
  length : UInt64
  buckets : Option UInt16
deriving DecidableEq

/-- The size of a sharded counted store. -/
structure SingleWriter where
  /-- The number of entries expected. -/
  length : UInt64
  buckets : Option UInt64
deriving DecidableEq

/-- The size of a bounded map. -/
structure Synced where
  /-- The most entries; zero means without a limit. -/
  limit : UInt64
deriving DecidableEq

/-- The work that the program gives to the stores. -/
structure Workload where
  /-- The number of entries to put. -/
  items : UInt64
  /-- The number of workers; zero means one for each processor core. -/
  workers : UInt64
deriving DecidableEq

end Config

/-- A configuration. -/
structure Config where
  /-- The name of the environment that the program runs in. -/
  env : String
  logs : Option Config.Logs := none
  split : Option Config.Split := none
  singleWriter : Option Config.SingleWriter := none
  synced : Option Config.Synced := none
  workload : Option Config.Workload := none
deriving DecidableEq

namespace Config

/-- Whether the program runs in production. -/
def isProduction (c : Config) : Bool := c.env == "prod"

/-- Whether the program runs under test. -/
def isTest (c : Config) : Bool := c.env == "test"

/-- The size of the sharded store; without the section nothing is expected in it. -/
def splitSize (c : Config) : Split := c.split.getD ⟨0, none⟩

/-- The size of the sharded counted store; without the section nothing is expected in it. -/
def singleWriterSize (c : Config) : SingleWriter := c.singleWriter.getD ⟨0, none⟩

/-- The size of the bounded map; without the section it has no limit. -/
def syncedSize (c : Config) : Synced := c.synced.getD ⟨0⟩

/-- The work to do; without the section 100000 items for all cores. -/
def work (c : Config) : Workload := c.workload.getD ⟨100000, 0⟩

/-- The number of workers on a machine with so many cores. -/
def Workload.workerCount (w : Workload) (cores : Nat) : Nat := if w.workers = 0 then cores else w.workers.toNat

/-- The empty sharded store of the configured size. -/
def Split.make {τ : Type} [Table τ Hash UInt64] (s : Split) : Sharded τ :=
  .withBuckets s.length.toNat (s.buckets.getD defaultBuckets)

/-- Makes the empty sharded store of the configured size. -/
def Split.make? {τ : Type} [Table τ Hash UInt64] [Footprint τ] (s : Split) : Except MakeFault (Sharded τ) :=
  Sharded.make? s.length (s.buckets.getD defaultBuckets)

/-- Makes the empty sharded counted store of the configured size. -/
def SingleWriter.make? {τ : Type} [Table τ UInt64 UInt64] [Footprint τ] (s : SingleWriter) :
    Except MakeFault (CountedShards τ) :=
  CountedShards.make? s.length (s.buckets.getD defaultBuckets.toUInt64)

/-- The empty bounded map of the configured size. -/
def Synced.make {τ κ ν : Type} [Table τ κ ν] (s : Synced) : Bounded τ := .withLimit s.limit.toNat

/-- Makes the empty bounded map of the configured size. -/
def Synced.make? {τ κ ν : Type} [Table τ κ ν] [Footprint τ] (s : Synced) : Except MakeFault (Bounded τ) :=
  Bounded.make? s.limit.toNat

/-- A small configuration for tests. -/
def forTests : Config where
  env := "test"
  logs := some ⟨some "debug"⟩
  split := some ⟨10000, some 64⟩
  singleWriter := some ⟨10000, some 32⟩
  synced := some ⟨1000⟩
  workload := some ⟨10000, 4⟩

end Config

end ShardStore

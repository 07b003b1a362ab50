import ShardStore.CommandLine.Options
import ShardStore.Config.Load
import ShardStore.Counted.Report
import ShardStore.Hash.Digest
import ShardStore.Log.Filter
import ShardStore.Log.Render
import ShardStore.Sharded.Report
import ShardStore.Table.HashTable
import ShardStore.Workload

/-!
# The program

Running a configured workload against both kinds of sharded store, and reporting what it came to. What the program needs
of the machine that it runs on is a parameter.
-/

namespace ShardStore.Program

/-- What the program needs of a machine. -/
structure Machine (m : Type → Type) where
  files : FileAccess m
  /-- So many hashes, drawn at random. -/
  hashes (n : Nat) : m (List Hash)
  /-- The number of processor cores. -/
  cores : Nat

/-- What a run of the program leaves behind. -/
structure Output where
  exitCode : UInt32
  /-- The lines of the standard output. -/
  lines : List String := []
  /-- The text of the error output. -/
  errors : String := ""

/-! ## Configuration -/

/-- The configuration file that is used if it can be loaded. -/
def localFile : String := "cfg/txmap.cfg.local.yaml"

/-- The configuration file that is used otherwise. -/
def sharedFile : String := "cfg/txmap.cfg.yaml"

/-- What went wrong, outermost step first. -/
abbrev Chain := List String

/-- The configuration and the name of its file: that of the user, or one of the two that have fixed names. -/
def loadConfig {m : Type → Type} [Monad m] (files : FileAccess m) (custom : Option String) :
    m (Except Chain (Config × String)) := do
  let wrap (context path : String) (loaded : Except Config.LoadError Config) : Except Chain (Config × String) :=
    match loaded with
    | .ok c => .ok (c, path)
    | .error e => .error [context, e.message, e.reason]
  match custom with
  | some path => return wrap ("failed to load custom config from " ++ quoteText path) path (← Config.load files path)
  | none =>
    match ← Config.load files localFile with
    | .ok c => return .ok (c, localFile)
    | .error _ => return wrap ("failed to load config from " ++ sharedFile) sharedFile (← Config.load files sharedFile)

/-- What is said when the program cannot go on. Several causes are numbered. -/
def chainText : Chain → String
  | [] => ""
  | [message] => "Error: " ++ message ++ "\n"
  | [message, cause] => "Error: " ++ message ++ "\n\nCaused by:\n    " ++ cause ++ "\n"
  | message :: causes =>
    let numbered := causes.zipIdx.map fun (cause, i) => s!"    {i}: " ++ cause ++ "\n"
    "Error: " ++ message ++ "\n\nCaused by:\n" ++ String.join numbered

/-! ## Events -/

/-- An event of the program itself. -/
private def event (level : Level) (message component name : String) (fields : List (String × FieldValue)) : Event where
  level
  target := "txmap"
  message
  fields := [("component", .text component), ("event", .text name)] ++ fields

/-- Reported when the configuration was loaded. -/
def loadedEvent (path : String) : Event :=
  event .info "config loaded" "config" "load_success" [("path", .quoted (quoteText path))]

/-- Reported before the work begins. -/
def startEvent (items workers : Nat) : Event :=
  event .info "starting workload" "main" "workload_start" [("items", .number items), ("workers", .number workers)]

/-- Reported when puts of a workload were refused. -/
def refusedEvent (message name field : String) (refused : Nat) : List Event :=
  if refused = 0 then [] else [event .warn message "workload" name [(field, .number refused)]]

/-- Reported when a workload is done. It has fields for the times that filling and looking up took. -/
def doneEvent (message name : String) (items workers buckets : Nat) (r : WorkloadReport) : Event :=
  { event .info message "workload" name
      [("items", .number items), ("workers", .number workers), ("buckets", .number buckets),
        ("length", .number r.length), ("found", .number r.found)] with
    unwritten := ["fill_ms", "lookup_ms"] }

/-! ## Work -/

/-- The events of some work, and what stopped it, if anything did. -/
structure Progress where
  events : List Event
  fault : Option MakeFault := none

/-- Goes on with the next work, unless something stopped this one. -/
def Progress.andThen (done next : Progress) : Progress :=
  match done.fault with
  | none => { next with events := done.events ++ next.events }
  | some _ => done

/-- Fills a sharded store with hashes. -/
def splitWork (size : Config.Split) (hashes : List Hash) (workers : Nat) : Progress :=
  match (size.make? : Except MakeFault (Sharded (Std.HashMap Hash UInt64))) with
  | .error fault => { events := [], fault }
  | .ok store =>
    let made := store.madeEvent size.length.toNat
    let buckets := store.buckets.toNat
    let report := runSplit store hashes workers
    { events := [made] ++
        refusedEvent "some puts were rejected as duplicates" "split_put_failed" "failed" report.refused ++
        [doneEvent "split map workload finished" "split_done" hashes.length workers buckets report] }

/-- Fills a sharded counted store with numbers. -/
def singleWriterWork (size : Config.SingleWriter) (items workers : Nat) : Progress :=
  match (size.make? : Except MakeFault (CountedShards (Std.HashMap UInt64 UInt64))) with
  | .error fault => { events := [], fault }
  | .ok store =>
    let made := store.madeEvent size.length.toNat
    let buckets := store.buckets.toNat
    match store.writers? with
    | .error fault => { events := [made], fault }
    | .ok _ =>
      let report := runSingleWriter store items workers
      { events := [made] ++
          refusedEvent "some puts were rejected by their bucket" "single_writer_put_failed" "rejected" report.refused ++
          [doneEvent "single-writer map workload finished" "single_writer_done" items workers buckets report] }

/-- A configured run. -/
def work (c : Config) (path : String) (hashes : List Hash) (cores : Nat) : Progress :=
  let items := c.work.items.toNat
  let workers := c.work.workerCount cores
  let started : Progress := { events := [loadedEvent path, startEvent items workers] }
  (started.andThen (splitWork c.splitSize hashes workers)).andThen (singleWriterWork c.singleWriterSize items workers)

/-- What is said when a store cannot be made. The place in the program is left out. -/
def faultText (fault : MakeFault) : String := "\nthread 'main' panicked:\n" ++ fault.message ++ "\n"

/-- What a configured run prints: the events that the filter lets pass, for programs in production and for people
elsewhere. -/
def report (c : Config) (progress : Progress) : Output :=
  let filter := LogFilter.ofText ((c.logs.bind (·.level)).getD "info")
  let write := if c.isProduction then Event.json else Event.readable
  { exitCode := if progress.fault.isSome then 101 else 0
    lines := (progress.events.filter filter.allows).map write
    errors := filter.warnings ++ (progress.fault.map faultText).getD "" }

/-- Runs the program. -/
def run {m : Type → Type} [Monad m] (machine : Machine m) (arguments : List String) : m Output := do
  match CommandLine.parse arguments with
  | .error e => return { exitCode := 2, errors := e.message }
  | .ok .help => return { exitCode := 0, lines := CommandLine.helpText.splitOn "\n" }
  | .ok .version => return { exitCode := 0, lines := CommandLine.versionText.splitOn "\n" }
  | .ok (.run custom) =>
    match ← loadConfig machine.files custom with
    | .error chain => return { exitCode := 1, errors := chainText chain }
    | .ok (c, path) =>
      let hashes ← machine.hashes c.work.items.toNat
      return report c (work c path hashes machine.cores)

end ShardStore.Program

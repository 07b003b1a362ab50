import ShardStore.Program

/-!
# The command

The program on the machine that it is started on: its files, its randomness and its processor cores.
-/

namespace ShardStore.Command

/-- What went wrong with a file, in words. -/
def reason : IO.Error → String
  | .noFileOrDirectory .. => FileTree.Refusal.notFound.message
  | .inappropriateType .. => FileTree.Refusal.isADirectory.message
  | .permissionDenied .. => "Permission denied (os error 13)"
  | e => toString e

/-- An answer, or what went wrong. -/
def attempt {α : Type} (action : IO α) : IO (Except String α) := do
  try
    return .ok (← action)
  catch e =>
    return .error (reason e)

/-- The files of the machine. -/
def files : FileAccess IO where
  resolve path := attempt do return (← IO.FS.realPath path).toString
  read path := do
    match ← attempt (IO.FS.readBinFile path) with
    | .error e => return .error e
    | .ok bytes =>
      match String.fromUTF8? bytes with
      | some text => return .ok text
      | none => return .error FileTree.Refusal.notUtf8.message

/-- The number of processor cores, as far as the machine tells. -/
def coreCount : IO Nat := do
  match ← attempt (IO.FS.readFile "/proc/cpuinfo") with
  | .ok text => return max 1 ((text.splitOn "\n").filter (·.startsWith "processor")).length
  | .error _ => return 1

/-- A hash of random bytes. -/
def randomHash : IO Hash := return .ofBytes (← IO.getRandomBytes 32).data.toList

end ShardStore.Command

open ShardStore in
/-- Runs the program with the arguments of the command line. -/
def main (arguments : List String) : IO UInt32 := do
  let machine : Program.Machine IO :=
    { files := Command.files
      hashes n := (List.range n).mapM fun _ => Command.randomHash
      cores := ← Command.coreCount }
  let output ← Program.run machine arguments
  for line in output.lines do
    IO.println line
  IO.eprint output.errors
  return output.exitCode

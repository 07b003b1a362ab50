/-!
# Files

What the program asks of a file system: the full name of a file, and its text. Besides the one of the machine there are
file trees in memory, which answer in the same words.
-/

namespace ShardStore

/-- The questions that a file system answers, each with the answer or what is wrong. -/
structure FileAccess (m : Type → Type) where
  /-- The full name of a file or directory that is there. -/
  resolve (path : String) : m (Except String String)
  /-- The text of a file. -/
  read (path : String) : m (Except String String)

/-- What a file tree holds under a name. -/
inductive FileNode where
  | directory
  | file (bytes : ByteArray)

/-- The files and directories of a machine. A place is the list of the names that lead there from the top. -/
structure FileTree where
  /-- The place of the working directory. -/
  home : List String
  nodes : List (List String × FileNode)

namespace FileTree

/-- What is wrong with a name. -/
inductive Refusal where
  | notFound
  | notADirectory
  | isADirectory
  | nameTooLong
  | nulInName
  | notUtf8
deriving DecidableEq

/-- What is wrong with a name, in words. -/
def Refusal.message : Refusal → String
  | .notFound => "No such file or directory (os error 2)"
  | .notADirectory => "Not a directory (os error 20)"
  | .isADirectory => "Is a directory (os error 21)"
  | .nameTooLong => "File name too long (os error 36)"
  | .nulInName => "file name contained an unexpected NUL byte"
  | .notUtf8 => "stream did not contain valid UTF-8"

/-- The tree with one more node, and directories for the parents of its place. -/
def insert (t : FileTree) (place : List String) (node : FileNode) : FileTree :=
  let parents := (List.range place.length).map fun n => (place.take n, FileNode.directory)
  { t with nodes := t.nodes ++ parents ++ [(place, node)] }

/-- The directories at the top of every machine. -/
def topDirectories : List String :=
  ["dev", "etc", "home", "media", "mnt", "opt", "proc", "root", "run", "srv", "sys", "tmp", "usr", "var"]

/-- A machine with an empty working directory, and with what is on every machine. -/
def atHome (home : List String) : FileTree :=
  let directories := home :: topDirectories.map fun name => [name]
  let empty : FileTree := { home, nodes := [] }
  let empty := directories.foldl (fun t place => t.insert place .directory) empty
  empty.insert ["dev", "null"] (.file .empty)

/-- The tree with one more node below the working directory. -/
def add (t : FileTree) (name : String) (node : FileNode) : FileTree :=
  t.insert (t.home ++ (name.splitOn "/").filter (!·.isEmpty)) node

/-- What stands at a place. -/
def find? (t : FileTree) (place : List String) : Option FileNode := t.nodes.lookup place

/-- Follows the parts of a name from a place. The top is its own parent. -/
def follow (t : FileTree) : List String → List String → Except Refusal (List String)
  | place, [] => .ok place
  | place, part :: rest =>
    match t.find? place with
    | none => .error .notFound
    | some (.file _) => .error .notADirectory
    | some .directory =>
      if part.isEmpty || part == "." then t.follow place rest
      else if part == ".." then t.follow place.dropLast rest
      else if 255 < part.utf8ByteSize then .error .nameTooLong
      else
        let place := place ++ [part]
        if (t.find? place).isSome then t.follow place rest else .error .notFound

/-- The full name of a place. -/
def fullName (place : List String) : String := "/" ++ "/".intercalate place

/-- The place that a name leads to: from the top, or from the working directory. -/
def resolve (t : FileTree) (path : String) : Except Refusal (List String) :=
  if path.any (· == '\x00') then .error .nulInName
  else if path.isEmpty then .error .notFound
  else t.follow (if path.startsWith "/" then [] else t.home) (path.splitOn "/")

/-- The text of a file. -/
def read (t : FileTree) (path : String) : Except Refusal String := do
  match t.find? (← t.resolve path) with
  | some (.file bytes) =>
    match String.fromUTF8? bytes with
    | some text => return text
    | none => throw .notUtf8
  | some .directory => throw .isADirectory
  | none => throw .notFound

/-- The tree as a file system. -/
def access (t : FileTree) : FileAccess Id where
  resolve path := pure ((t.resolve path).map fullName |>.mapError Refusal.message)
  read path := pure ((t.read path).mapError Refusal.message)

end FileTree

end ShardStore

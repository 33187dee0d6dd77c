import Std.Data.HashMap
import TextAdventure.Files.Basic

/-!
# Folders in memory

A folder stands for the directory that a program runs in: files and directories, each at a place.
A place is a list of names; it starts in the directory itself, or with a slash at the root of the
file system, or with two dots in a directory above. A path is a text that is taken apart at its
slashes and walked name by name, and the place where it ends may be one where nothing stands.
-/

namespace TextAdventure

/-- What stands at a place. -/
inductive Node where
  | file (bytes : ByteArray)
  | directory

/-- Files and directories, by their places. -/
structure Folder where
  entries : Std.HashMap (List String) Node := {}

namespace Folder

/-! ## Places -/

/-- The longest name, in bytes. -/
def nameLimit : Nat := 255

/-- The longest path, in bytes. -/
def pathLimit : Nat := 4095

/-- The directories at the root of every file system. -/
def rootDirectories : List String :=
  ["bin", "boot", "dev", "etc", "home", "lib", "media", "mnt", "opt", "proc", "root", "run", "sbin",
    "srv", "sys", "tmp", "usr", "var"]

/-- What stands at a place in every folder: the directory itself, those above it, the root with its
directories, and the null device, which holds nothing. -/
def given? (place : List String) : Option Node :=
  if place.all (· == "..") || place == ["/"] then some .directory
  else if rootDirectories.any fun name => place == ["/", name] then some .directory
  else if place == ["/", "dev", "null"] then some (.file .empty)
  else none

/-- What stands at a place. -/
def node? (folder : Folder) (place : List String) : Option Node :=
  (given? place).or folder.entries[place]?

/-- Puts something at a place. -/
def put (folder : Folder) (place : List String) (node : Node) : Folder :=
  ⟨folder.entries.insert place node⟩

/-- The directory above a place. -/
def parent (place : List String) : List String :=
  if place == ["/"] then place
  else if place.all (· == "..") then place ++ [".."]
  else place.dropLast

/-- The place that a name leads to from a directory. -/
def enter (folder : Folder) (place : List String) (name : String) :
    Except FileFault (List String) :=
  match folder.node? place with
  | none => .error .notFound
  | some (.file _) => .error .notDirectory
  | some .directory =>
    if name = "" ∨ name = "." then .ok place
    else if name = ".." then .ok (parent place)
    else if nameLimit < name.utf8ByteSize then .error .nameTooLong
    else .ok (place ++ [name])

/-- The place that names lead to, one after the other. -/
def walk (folder : Folder) (place : List String) (names : List String) :
    Except FileFault (List String) :=
  names.foldlM folder.enter place

/-! ## Paths -/

/-- Where the walk along a path starts. -/
def start (path : String) : List String :=
  if path.startsWith "/" then ["/"] else []

/-- The names on a path; an empty one stands between two slashes and after the last. -/
def names (path : String) : List String :=
  path.splitOn "/"

/-- A path that can be asked for: one of a bounded length that does not hold a NUL. -/
def check (path : String) : Except FileFault Unit :=
  if path.contains '\x00' then .error .nulInName
  else if pathLimit < path.utf8ByteSize then .error .nameTooLong
  else .ok ()

/-- The place a path leads to. An empty path leads nowhere. -/
def resolve (folder : Folder) (path : String) : Except FileFault (List String) := do
  check path
  if path.isEmpty then .error .notFound
  else folder.walk (start path) (names path)

/-- The names along which a directory is made: slashes at the end do not count. -/
def partsOf (path : String) : List String :=
  (names path).filter (· != "")

/-- The names of the directory above the one that a path names. A single dot names none. -/
def partsAbove (path : String) : List String :=
  ((partsOf path).filter (· != ".")).dropLast

/-! ## Requests -/

/-- The text of a file. -/
def read (folder : Folder) : FileReader := fun path => do
  let place ← folder.resolve path
  match folder.node? place with
  | none => .error .notFound
  | some .directory => .error .isDirectory
  | some (.file bytes) =>
    match String.fromUTF8? bytes with
    | some text => .ok text
    | none => .error .notText

/-- Makes the directory that names lead to, unless it is there; gives its place. The directory
above it must be there. -/
def ensureOne (folder : Folder) (place : List String) (parts : List String) :
    Except FileFault (Folder × List String) := do
  let place ← folder.walk place parts
  match folder.node? place with
  | some .directory => .ok (folder, place)
  | some (.file _) => .error .alreadyThere
  | none => .ok (folder.put place .directory, place)

/-- Makes the directory that names lead to, which are given from the last to the first. Only if
something on the way is not found is the directory above it made, and then it is tried once
more. -/
def ensureAll (folder : Folder) (place : List String) :
    List String → Except FileFault (Folder × List String)
  | [] => .ok (folder, place)
  | part :: above =>
    match folder.ensureOne place (part :: above).reverse with
    | .error .notFound => do
      let (folder, place) ← ensureAll folder place above
      folder.ensureOne place [part]
    | result => result

/-- Makes the directories above the one that a path names. -/
def makeAbove (folder : Folder) (path : String) : Except FileFault Folder := do
  check path
  let (folder, _) ← folder.ensureAll (start path) (partsAbove path).reverse
  pure folder

/-- Makes a directory with all directories above it. Those above are made only if something on the
way is not found. Nothing is made for an empty path. -/
def makeDirectory (folder : Folder) (path : String) : Except FileFault Folder := do
  check path
  if path.isEmpty then pure folder
  else
    match folder.ensureOne (start path) (partsOf path) with
    | .error .notFound =>
      let (folder, _) ← folder.ensureAll (start path) (partsAbove path).reverse
      let (folder, _) ← folder.ensureOne (start path) (partsOf path)
      pure folder
    | .error fault => .error fault
    | .ok (folder, _) => pure folder

/-- Writes a file anew. -/
def writeFile (folder : Folder) (path : String) (bytes : ByteArray) :
    Except FileFault Folder := do
  let place ← folder.resolve path
  match folder.node? place with
  | some .directory => .error .isDirectory
  | _ => .ok (folder.put place (.file bytes))

/-- Makes a file ready to be written to; what it holds stays. -/
def createFile (folder : Folder) (path : String) : Except FileFault Folder := do
  let place ← folder.resolve path
  match folder.node? place with
  | some .directory => .error .isDirectory
  | some (.file _) => .ok folder
  | none => .ok (folder.put place (.file .empty))

end Folder

end TextAdventure

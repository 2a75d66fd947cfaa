/-!
# Files

The few things that reading and writing a configuration needs to know of files: a tree of
directories with files in it, and why a path cannot be read or written.
-/

namespace TraceFlow

inductive FileError where
  | notFound
  | isDirectory
  | notDirectory
  | nameTooLong
  | nulInName
  | notText
  | other (reason : String)
deriving DecidableEq, Repr

def FileError.message : FileError → String
  | notFound => "No such file or directory (os error 2)"
  | isDirectory => "Is a directory (os error 21)"
  | notDirectory => "Not a directory (os error 20)"
  | nameTooLong => "File name too long (os error 36)"
  | nulInName => "file name contained an unexpected NUL byte"
  | notText => "stream did not contain valid UTF-8"
  | other reason => reason

/-- A place in a tree, by the names on the way from the root to it. -/
abbrev Place := List String

structure Files where
  directories : List Place := [[]]
  files : List (Place × ByteArray) := []
  /-- Files that are always empty: what is written there is lost. -/
  voids : List Place := []
  workingDirectory : Place := []

namespace Files

/-- A tree with nothing but the directories that every system has, and an empty one to work in. -/
def bare : Files :=
  { directories := [] :: ["work"] :: ["usr", "bin"] :: ["usr", "lib"] :: ["usr", "local"] ::
      ["usr", "share"] :: ["var", "log"] :: ["var", "tmp"] ::
      ["bin", "boot", "dev", "etc", "home", "lib", "media", "mnt", "opt", "proc", "root", "run",
        "sbin", "srv", "sys", "tmp", "usr", "var"].map ([·])
    voids := [["dev", "null"]]
    workingDirectory := ["work"] }

/-! ## Places -/

def isDirectory (tree : Files) (place : Place) : Bool := place ∈ tree.directories

def file? (tree : Files) (place : Place) : Option ByteArray :=
  if place ∈ tree.voids then some .empty else (tree.files.find? (·.1 = place)).map Prod.snd

/-- Nothing can be looked up but in a directory. -/
def checkDirectory (tree : Files) (place : Place) : Except FileError Unit :=
  if tree.isDirectory place then .ok ()
  else if (tree.file? place).isSome then .error .notDirectory
  else .error .notFound

def nameLimit : Nat := 255

def pathLimit : Nat := 4095

/-- Goes from a directory to the place of a name in it. -/
def step (place : Place) (name : String) : Except FileError Place :=
  if name = "" ∨ name = "." then .ok place
  else if name = ".." then .ok place.dropLast
  else if nameLimit < name.utf8ByteSize then .error .nameTooLong
  else .ok (place ++ [name])

/-- Follows names from a place; every name must be looked up in a directory. -/
def walk (tree : Files) (place : Place) : List String → Except FileError Place
  | [] => .ok place
  | name :: rest => do
    tree.checkDirectory place
    walk tree (← step place name) rest

/-! ## Paths -/

def checkPath (path : String) : Except FileError Unit :=
  if path.toList.contains '\x00' then .error .nulInName
  else if path = "" then .error .notFound
  else if pathLimit < path.utf8ByteSize then .error .nameTooLong
  else .ok ()

def start (tree : Files) (path : String) : Place :=
  if path.toList.head? = some '/' then [] else tree.workingDirectory

/-- The names of a path; one that is empty leads nowhere else but asks for a directory. -/
def names (path : String) : List String := path.splitOn "/"

/-- The place that a path leads to, whether or not there is anything. -/
def resolve (tree : Files) (path : String) : Except FileError Place := do
  checkPath path
  tree.walk (tree.start path) (names path)

/--
The place of a file that can be made under a path. The directory must be there, and a path whose
last name can only be that of a directory is refused without looking for it.
-/
def resolveNew (tree : Files) (path : String) : Except FileError Place := do
  checkPath path
  let given := (names path).reverse.dropWhile (· = "")
  let directory ← tree.walk (tree.start path) given.tail.reverse
  tree.checkDirectory directory
  match (names path).getLast? with
  | some name =>
    if name ∈ ["", ".", ".."] then throw .isDirectory
    step directory name
  | none => throw .isDirectory

/-! ## Reading and writing -/

def read (tree : Files) (path : String) : Except FileError ByteArray := do
  let place ← tree.resolve path
  if tree.isDirectory place then throw .isDirectory
  match tree.file? place with
  | some bytes => return bytes
  | none => throw .notFound

def readText (tree : Files) (path : String) : Except FileError String := do
  match String.fromUTF8? (← tree.read path) with
  | some text => return text
  | none => throw .notText

/-- Gives a file new contents, making it if need be. -/
def write (tree : Files) (path : String) (bytes : ByteArray) : Except FileError Files := do
  let place ← tree.resolveNew path
  if tree.isDirectory place then throw .isDirectory
  if place ∈ tree.voids then return tree
  return { tree with files := (place, bytes) :: tree.files.filter (·.1 ≠ place) }

end Files

end TraceFlow

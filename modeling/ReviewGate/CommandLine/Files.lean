/-!
# Files

A folder held in memory.  A path is walked name by name: a point stays, two points go up, and below
a file there is nothing.
-/

namespace ReviewGate.CommandLine

/-- Why a file could not be read. -/
inductive FileError where
  | missing
  | directory
  | notDirectory
  | notText
  | other (reason : String)
  deriving DecidableEq, Repr

def FileError.message : FileError → String
  | .missing => "No such file or directory (os error 2)"
  | .directory => "Is a directory (os error 21)"
  | .notDirectory => "Not a directory (os error 20)"
  | .notText => "stream did not contain valid UTF-8"
  | .other reason => reason

/-- Where something lies: the names on the way to it. -/
abbrev Place := List String

/-- The texts of the files in a folder and below it. -/
structure Folder where
  files : List (Place × String)

namespace Folder

/-- A folder of files under their paths. -/
def ofPaths (files : List (String × String)) : Folder :=
  ⟨files.map fun (path, text) => (path.splitOn "/", text)⟩

def text? (folder : Folder) (place : Place) : Option String :=
  (folder.files.find? fun file => file.1 == place).map Prod.snd

/-- Whether a place is the folder itself or holds a file below it. -/
def isInner (folder : Folder) (place : Place) : Bool :=
  place.isEmpty ||
    folder.files.any fun file => place.isPrefixOf file.1 && place.length < file.1.length

/-- Goes on from a place by one name.  Nothing lies above the folder. -/
def enter (folder : Folder) (place : Place) (name : String) : Except FileError Place :=
  if !folder.isInner place then .error .notDirectory
  else if name = "" ∨ name = "." then .ok place
  else if name = ".." then .ok place.dropLast
  else
    let next := place ++ [name]
    if folder.isInner next || (folder.text? next).isSome then .ok next else .error .missing

/-- The text under a path.  Paths that begin with a slash lead out of the folder. -/
def read (folder : Folder) (path : String) : Except FileError String := do
  if path.toList.head?.all (· == '/') then throw .missing
  let place ← (path.splitOn "/").foldlM folder.enter []
  match folder.text? place with
  | some text => return text
  | none => throw .directory

end Folder

end ReviewGate.CommandLine

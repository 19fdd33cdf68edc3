/-!
# Files

What reading a path answers.  A folder holds files in memory: there a path is a list of names
between slashes, walked from the folder, and each name but the last has to lead to a directory.
-/

namespace CatalogueViewer

/-- Why a path cannot be read as a text. -/
inductive ReadError where
  | notFound
  | isDirectory
  | notDirectory
  /-- The bytes are not UTF-8. -/
  | invalidText
  deriving DecidableEq, Repr

def ReadError.message : ReadError → String
  | notFound => "No such file or directory (os error 2)"
  | isDirectory => "Is a directory (os error 21)"
  | notDirectory => "Not a directory (os error 20)"
  | invalidText => "stream did not contain valid UTF-8"

/-- What reading the bytes at a path answers. -/
abbrev Files := String → Except ReadError ByteArray

def Files.read (files : Files) (path : String) : Except ReadError String :=
  match files path with
  | .error e => .error e
  | .ok bytes =>
    match String.fromUTF8? bytes with
    | some text => .ok text
    | none => .error .invalidText

/-! ### Files in memory -/

inductive FileItem where
  | file (bytes : ByteArray)
  | directory

/-- The files of one directory by the names on their paths; the directories on the way to a file
need no entry. -/
abbrev Folder := List (List String × FileItem)

namespace Folder

def names (path : String) : List String := path.splitOn "/"

def itemAt? (folder : Folder) (place : List String) : Option FileItem :=
  if place.isEmpty then some .directory
  else
    match folder.find? fun entry => entry.1 = place with
    | some entry => some entry.2
    | none =>
      if folder.any fun entry => place.isPrefixOf entry.1 then some .directory else none

/-- Walks from a place along the names. -/
def walk (folder : Folder) (place : List String) : List String → Except ReadError FileItem
  | [] =>
    match folder.itemAt? place with
    | some item => .ok item
    | none => .error .notFound
  | name :: names =>
    match folder.itemAt? place with
    | none => .error .notFound
    | some (.file _) => .error .notDirectory
    | some .directory =>
      if name = "" || name = "." then walk folder place names
      else if name = ".." then walk folder place.dropLast names
      else walk folder (place ++ [name]) names

/-- The files under the directory.  Nothing is known of paths from the root of the file system. -/
def files (folder : Folder) : Files := fun path =>
  if path = "" || path.startsWith "/" then .error .notFound
  else
    match folder.walk [] (names path) with
    | .error e => .error e
    | .ok .directory => .error .isDirectory
    | .ok (.file bytes) => .ok bytes

end Folder

end CatalogueViewer

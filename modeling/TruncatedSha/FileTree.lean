import TruncatedSha.Reader

/-!
# Opening files by name

A tree holds files and folders below a working folder. A name is walked component by component,
as POSIX has it, so that each component must exist before the next is looked at. What lies
outside the working folder is not known, except that it is there.

A tree is put together from names too. They are walked in the same way, but the folders on the way
are made if they are missing, so that a file can be opened under every name that leads to it.
-/
namespace TruncatedSha

inductive FileError where
  | notFound
  | notFolder
  | isFolder
  | nameTooLong
  | nulByte
  | notText
  | other (message : String)
  deriving DecidableEq, Repr

def FileError.message : FileError → String
  | notFound => "No such file or directory (os error 2)"
  | notFolder => "Not a directory (os error 20)"
  | isFolder => "Is a directory (os error 21)"
  | nameTooLong => "File name too long (os error 36)"
  | nulByte => "file name contained an unexpected NUL byte"
  | notText => "stream did not contain valid UTF-8"
  | other message => message

/-- The way down from the working folder: names of folders, and of a file at the end. -/
abbrev Path := List String

/-- Files and folders below the working folder. Of two files on one path the first counts. -/
structure FileTree where
  files : List (Path × Bytes)
  folders : List Path

namespace FileTree

/-- The longest component and the longest name, in bytes. -/
def longestComponent : Nat := 255

def longestName : Nat := 4095

/-- The components of a name between its slashes. -/
def components (name : String) : Path :=
  (name.splitToList (· == '/')).filter (· ≠ "")

def empty : FileTree := ⟨[], []⟩

def isFolder (tree : FileTree) (path : Path) : Bool :=
  path.isEmpty || tree.folders.contains path

/-- Where a walk stands. -/
inductive Place where
  | folder (path : Path)
  | file (contents : Bytes)
  | outside

/-- One component further. -/
def enter (tree : FileTree) (place : Place) (component : String) : Except FileError Place :=
  match place with
  | .file _ => .error .notFolder
  | .folder path =>
    if component = "." then .ok place
    else if component = ".." then .ok (if path.isEmpty then .outside else .folder path.dropLast)
    else if longestComponent < component.utf8ByteSize then .error .nameTooLong
    else
      let path := path ++ [component]
      match tree.files.lookup path with
      | some contents => .ok (.file contents)
      | none => if tree.isFolder path then .ok (.folder path) else .error .notFound
  | .outside =>
    if component = "." ∨ component = ".." then .ok .outside
    else if longestComponent < component.utf8ByteSize then .error .nameTooLong
    else .error .notFound

/-- One component further down, where a folder is made if there is nothing. -/
def enterOrMake (tree : FileTree) (path : Path) (component : String) : Option (FileTree × Path) :=
  match tree.enter (.folder path) component with
  | .ok (.folder path) => some (tree, path)
  | .error .notFound =>
    let path := path ++ [component]
    some ({ tree with folders := path :: tree.folders }, path)
  | _ => none

/-- Makes the folders that `path` goes through, and answers where it ends. -/
def makeFolders (tree : FileTree) (path : Path) : Option (FileTree × Path) :=
  path.foldlM (fun (tree, place) component => tree.enterOrMake place component) (tree, [])

/-- Writes a file into the folder at `path`. What it held before is lost. -/
def write (tree : FileTree) (path : Path) (component : String) (contents : Bytes) :
    Option FileTree :=
  match tree.enter (.folder path) component with
  | .ok (.file _) | .error .notFound =>
    some { tree with files := (path ++ [component], contents) :: tree.files }
  | _ => none

/-- Adds a file, or a folder if the name ends in a slash. Outside the working folder nothing is
made. -/
def add? (tree : FileTree) (name : String) (contents : Bytes) : Option FileTree := do
  let path := components name
  if name.startsWith "/" then none
  else if name.endsWith "/" then return (← tree.makeFolders path).1
  else
    let (tree, folder) ← tree.makeFolders path.dropLast
    tree.write folder (← path.getLast?) contents

/-- A tree from names and contents. A name under which nothing can be made is passed over. -/
def ofEntries (entries : List (String × Bytes)) : FileTree :=
  entries.foldl (fun tree entry => (tree.add? entry.1 entry.2).getD tree) .empty

def locate (tree : FileTree) (name : String) : Except FileError Place := do
  if name = "" then throw .notFound
  if longestName < name.utf8ByteSize then throw .nameTooLong
  let start : Place := if name.startsWith "/" then .outside else .folder []
  let place ← (components name).foldlM tree.enter start
  match place with
  | .file _ => if name.endsWith "/" then throw .notFolder else pure place
  | _ => pure place

/-- What reading from an opened file gives. A folder opens, and cannot be read. -/
def openFile (tree : FileTree) (name : String) : Except FileError (List Read) :=
  match tree.locate name with
  | .error e => .error e
  | .ok (.file contents) => .ok [.data contents]
  | .ok _ => .ok [.failed FileError.isFolder.message]

end FileTree

end TruncatedSha

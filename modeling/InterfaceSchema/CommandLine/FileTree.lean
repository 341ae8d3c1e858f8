import InterfaceSchema.Table

/-!
# Files and directories

A file tree is what a run finds and leaves behind: files and directories by their place, and the
directory that paths start from. Two operations change it.

* `createDirectories` makes the directories of a path that are missing, from the outside in; where
  it fails, those made until then stay;
* `write` puts a text into a file, in a directory that exists.

Segments that are empty or a single dot say nothing, and two dots lead back to the directory around.
-/

namespace InterfaceSchema

/-! ## 1. Paths -/

namespace FilePath

/-- The parts of a path between slashes. -/
def segments (path : String) : List String :=
  (path.toList.splitOn '/').map String.ofList

/-- The segments that lead to the directory around. -/
def directories (path : String) : List String :=
  (segments path).dropLast

/-- The last segment. -/
def fileName (path : String) : String :=
  (segments path).getLast?.getD ""

/-- Does the path start from the outermost directory? Then there is nothing before its first
    slash. -/
def isAbsolute (path : String) : Bool :=
  match segments path with
  | first :: _ :: _ => first == ""
  | _ => false

/-- An empty segment and a dot say nothing. -/
def isSilent (segment : String) : Bool :=
  segment == "" || segment == "."

/-- The segments without those at the end that say nothing. A dot that a path begins with counts. -/
def trimEnd : List String → List String
  | [] => []
  | first :: rest =>
    let kept := (rest.reverse.dropWhile isSilent).reverse
    if first = "" ∧ kept = [] then [] else first :: kept

/-- The path without its last segment; the outermost directory has none. -/
def parent? (path : String) : Option String :=
  match trimEnd (segments path) with
  | [] => none
  | kept =>
    match trimEnd kept.dropLast with
    | [] => some (if isAbsolute path then "/" else "")
    | parents => some ("/".intercalate parents)

/-- No system takes a path with a zero character or of 4096 bytes. -/
def isUsable (path : String) : Bool :=
  !path.toList.contains '\x00' && path.utf8ByteSize < 4096

/-- No directory takes a name of more than 255 bytes. -/
def isName (segment : String) : Bool :=
  segment.utf8ByteSize ≤ 255

/-- A file can have the name: it says something, and leads to no other directory. -/
def isFileName (segment : String) : Bool :=
  isName segment && !isSilent segment && segment != ".."

end FilePath

/-! ## 2. File trees -/

/-- What can be at a place. -/
inductive FileEntry where
  | directory
  | file (text : String)
  deriving DecidableEq

/-- A place in a file tree: the names that lead to it from the outermost directory. -/
abbrev Place := List String

/-- The directories and files there are, and where one stands among them. -/
structure FileTree where
  entries : List (Place × FileEntry)
  /-- The directory that relative paths start from. -/
  home : Place
  deriving DecidableEq

namespace FileTree

/-- What is at a place. The outermost directory is always there. -/
def entry? (t : FileTree) (place : Place) : Option FileEntry :=
  if place = [] then some .directory else t.entries.lookup place

/-- The place that a path starts from. -/
def origin (t : FileTree) (path : String) : Place :=
  if FilePath.isAbsolute path then [] else t.home

/-- The place that a segment leads to. -/
def along (place : Place) (segment : String) : Place :=
  if FilePath.isSilent segment then place
  else if segment = ".." then place.dropLast
  else place ++ [segment]

/-- Whether the place has a name that a directory takes. -/
def isNamed (place : Place) : Bool :=
  place.getLast?.all FilePath.isName

/-- The directory that the segments lead to, if all of them are directories. -/
def directoryAt? (t : FileTree) (origin : Place) (segments : List String) : Option Place :=
  segments.foldlM (fun place segment =>
    let next := along place segment
    if t.entry? next = some .directory then some next else none) origin

/-- The tree with a directory at one more place. -/
def withDirectory (t : FileTree) (place : Place) : FileTree :=
  { t with entries := t.entries ++ [(place, .directory)] }

/-- Makes the directories that are missing on the way; says whether the way is clear. -/
def createAlong (t : FileTree) (place : Place) : List String → FileTree × Bool
  | [] => (t, true)
  | segment :: rest =>
    let next := along place segment
    match t.entry? next with
    | some .directory => createAlong t next rest
    | some _ => (t, false)
    | none =>
      if isNamed next then createAlong (t.withDirectory next) next rest else (t, false)

/-- Makes the directories of a path that are missing; says whether it is a directory now. -/
def createDirectories (t : FileTree) (path : String) : FileTree × Bool :=
  if path = "" then (t, true)
  else if FilePath.isUsable path then t.createAlong (t.origin path) (FilePath.segments path)
  else (t, false)

/-- The tree with the text in the file at the place. -/
def withFile (t : FileTree) (place : Place) (text : String) : FileTree :=
  { t with entries := Entries.put place (.file text) t.entries }

/-- Puts the text into the file of the path; nothing if there can be no such file. -/
def write? (t : FileTree) (path text : String) : Option FileTree :=
  if FilePath.isUsable path && FilePath.isFileName (FilePath.fileName path) then do
    let directory ← t.directoryAt? (t.origin path) (FilePath.directories path)
    let place := directory ++ [FilePath.fileName path]
    if t.entry? place = some .directory then none else some (t.withFile place text)
  else none

/-- The text of the file of the path, if there is such a file. -/
def read? (t : FileTree) (path : String) : Option String := do
  let directory ← t.directoryAt? (t.origin path) (FilePath.directories path)
  match t.entry? (along directory (FilePath.fileName path)) with
  | some (.file text) => some text
  | _ => none

end FileTree

end InterfaceSchema

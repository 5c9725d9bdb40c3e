import SoftKeyboard.Layout.Catalog

/-!
# Catalogs from directories

`Catalog.ofDirectory` gathers the descriptors of a directory: every file whose name ends in `.json`
is read, and the part of the name before that is the name of the layout.
-/

namespace SoftKeyboard

/-- An entry of a directory. -/
inductive DirectoryEntry where
  | file (content : ByteArray)
  | directory (entries : List (String × DirectoryEntry))

namespace DirectoryEntry

/-- The text of an entry. -/
def read : DirectoryEntry → Except ReadError String
  | .directory _ => .error .isDirectory
  | .file content =>
    match String.fromUTF8? content with
    | some text => .ok text
    | none => .error .notUnicode

end DirectoryEntry

/-! ### File names -/

/-- The parts of a file name before and after its last dot; a dot at the front of the name does not
count. -/
def splitExtension (name : String) : Option (String × String) :=
  let reversed := name.toList.reverse
  match reversed.dropWhile (· ≠ '.') with
  | [] | [_] => none
  | _ :: stem =>
    some (String.ofList stem.reverse, String.ofList (reversed.takeWhile (· ≠ '.')).reverse)

/-- The name of the layout that a file of the given name describes. -/
def layoutNameOf? (fileName : String) : Option String :=
  match splitExtension fileName with
  | some (stem, "json") => some stem
  | _ => none

/-! ### Directories -/

namespace Catalog

/-- The catalog with the descriptor of a directory entry added, if the entry has one. -/
def insertEntry (path : String) (c : Catalog) (entry : String × DirectoryEntry) :
    Except BuildError Catalog :=
  match layoutNameOf? entry.1 with
  | none => .ok c
  | some name =>
    match entry.2.read with
    | .error cause => .error (.unreadable (path ++ "/" ++ entry.1) cause)
    | .ok source => .ok (c.insert name source)

/-- The catalog of the entries of a directory, in the order they are listed. -/
def ofEntries (path : String) (entries : List (String × DirectoryEntry)) :
    Except BuildError Catalog :=
  entries.foldlM (insertEntry path) empty

/-- The catalog of the directory at a path, given what is found there. -/
def ofDirectory (path : String) : Option DirectoryEntry → Except BuildError Catalog
  | none => .error (.unreadable path .notFound)
  | some (.file _) => .error (.unreadable path .notDirectory)
  | some (.directory entries) => ofEntries path entries

end Catalog

end SoftKeyboard

import RouteTemplate.CommandLine.Input

/-!
A working directory as a value: the files below it, and what a path leads to from there. Nothing is
known of the directories above, except that they are there.
-/

namespace RouteTemplate.CommandLine

structure FileTree where
  /-- The names on the way to each file, and what the file holds. -/
  files : List (List String × ByteArray)

inductive Place where
  | directory (names : List String)
  | file (bytes : ByteArray)
  | above

namespace FileTree

def pathNames (path : String) : List String :=
  (path.toList.splitOn '/').map String.ofList

def ofList (files : List (String × ByteArray)) : FileTree :=
  ⟨files.map fun (path, bytes) => (pathNames path, bytes)⟩

def lookUp (tree : FileTree) (names : List String) : Except ReadFault Place :=
  match tree.files.find? fun file => file.1 == names with
  | some (_, bytes) => .ok (.file bytes)
  | none =>
    if tree.files.any fun file => names.isPrefixOf file.1 then .ok (.directory names)
    else .error .notFound

/-- What a name on a path leads to. No file has a name of more than 255 bytes. -/
def follow (tree : FileTree) (name : String) : Place → Except ReadFault Place
  | .file _ => .error .notDirectory
  | .above =>
    if name = "" ∨ name = "." ∨ name = ".." then .ok .above
    else if 255 < name.utf8ByteSize then .error .nameTooLong
    else .error .notFound
  | .directory names =>
    if name = "" ∨ name = "." then .ok (.directory names)
    else if name = ".." then .ok (if names = [] then .above else .directory names.dropLast)
    else if 255 < name.utf8ByteSize then .error .nameTooLong
    else tree.lookUp (names ++ [name])

/-- Reads the file at the end of a path. A path of 4096 bytes or more leads nowhere. -/
def read (tree : FileTree) (path : String) : Except ReadFault ByteArray := do
  if 4096 ≤ path.utf8ByteSize then throw .nameTooLong
  let start : Place := if path.toList.head? = some '/' then .above else .directory []
  match ← (pathNames path).foldlM (fun place name => tree.follow name place) start with
  | .file bytes => return bytes
  | .directory _ | .above => .error .isDirectory

end FileTree

end RouteTemplate.CommandLine

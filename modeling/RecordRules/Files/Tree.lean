import RecordRules.Files.Path

/-!
# Files

What a program sees of the files around it is a function from paths to bytes or to the reason why
there are none. A tree of files given by its entries is one such function: directories that
lead to an entry exist, and a path through a file does not. Around the tree lie directories of
which nothing is known but that they are there.
-/

namespace RecordRules

/-- Why a file cannot be read. -/
inductive FileFault
  | notFound
  | notDirectory
  | isDirectory
  | notText
  | zeroInPath
  | longName
  | other (message : String)
  deriving DecidableEq

/-- The wording of a fault. -/
def FileFault.message : FileFault → String
  | notFound => "No such file or directory (os error 2)"
  | notDirectory => "Not a directory (os error 20)"
  | isDirectory => "Is a directory (os error 21)"
  | notText => "stream did not contain valid UTF-8"
  | zeroInPath => "file name contained an unexpected NUL byte"
  | longName => "File name too long (os error 36)"
  | other message => message

/-- The bytes of the file at a path. -/
abbrev Files := String → Except FileFault (List UInt8)

/-- The text that the bytes of the file at a path encode. -/
def Files.readText (files : Files) (path : String) : Except FileFault String := do
  match String.fromUTF8? ⟨(← files path).toArray⟩ with
  | some text => .ok text
  | none => .error .notText

/-- An entry of a tree of files: the bytes of a file, or a directory. -/
inductive FileTree.Entry
  | file (bytes : List UInt8)
  | directory

/-- A tree of files: the entries by the parts of their paths. -/
structure FileTree where
  entries : List (List String × FileTree.Entry)

namespace FileTree

/-- The tree with these entries by path. -/
def ofList (entries : List (String × Entry)) : FileTree :=
  ⟨entries.map fun (path, entry) => ((Path.parts path).filter (· != ""), entry)⟩

/-- The entry that directories lead to. -/
def entry? (tree : FileTree) (directories : List String) : Option Entry :=
  if directories = [] then some .directory
  else
    match tree.entries.lookup directories with
    | some entry => some entry
    | none =>
      if tree.entries.any fun entry => directories.isPrefixOf entry.1 then some .directory else none

/-- A name has at most this many bytes. -/
def nameLimit : Nat := 255

/-- What the parts of a path lead to from a directory around the tree: such directories
themselves, and no entry of theirs. -/
def outside (parts : List String) : Except FileFault Entry :=
  if parts.all fun part => part = "" ∨ part = "." ∨ part = ".." then .ok .directory
  else .error .notFound

/-- Follows the parts of a path from a directory. -/
def follow (tree : FileTree) (directories : List String) : List String → Except FileFault Entry
  | [] =>
    match tree.entry? directories with
    | some entry => .ok entry
    | none => .error .notFound
  | part :: parts =>
    match tree.entry? directories with
    | none => .error .notFound
    | some (.file _) => .error .notDirectory
    | some .directory =>
      if part = "" ∨ part = "." then tree.follow directories parts
      else if part = ".." then
        if directories = [] then outside parts else tree.follow directories.dropLast parts
      else if part.utf8ByteSize > nameLimit then .error .longName
      else tree.follow (directories ++ [part]) parts

/-- The files of a tree. -/
def files (tree : FileTree) : Files := fun path =>
  if path.toList.contains '\x00' then .error .zeroInPath
  else
    let parts := Path.parts path
    match if path.toList.head? = some '/' then outside parts else tree.follow [] parts with
    | .error fault => .error fault
    | .ok .directory => .error .isDirectory
    | .ok (.file bytes) => .ok bytes

end FileTree

end RecordRules

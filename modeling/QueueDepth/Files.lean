import QueueDepth.Text.Pieces

/-!
# Files

What a program finds at the paths it opens. `Files` is that as a function. A path may lead nowhere; that is
not the same as leading to an `Entry` which is there but does not open, such as a file that only another
user may read. `FileTree` is a directory with a known content, and `FileTree.files` says what each path
finds when it is opened there.
-/

namespace QueueDepth

/-- Why something cannot be opened or read. -/
inductive FileFault where
  | notFound
  | notADirectory
  | isADirectory
  | nameTooLong
  | accessDenied
  | zeroInName
  | notUtf8
  /-- Anything else, in the words of the system. -/
  | other (reason : String)
  deriving DecidableEq

/-- The wording of a fault. -/
def FileFault.message : FileFault → String
  | notFound => "No such file or directory (os error 2)"
  | notADirectory => "Not a directory (os error 20)"
  | isADirectory => "Is a directory (os error 21)"
  | nameTooLong => "File name too long (os error 36)"
  | accessDenied => "Permission denied (os error 13)"
  | zeroInName => "file name contained an unexpected NUL byte"
  | notUtf8 => "stream did not contain valid UTF-8"
  | other reason => reason

/-- Something that is there. -/
inductive Entry where
  | file (content : List UInt8)
  | directory
  /-- It cannot be opened. -/
  | closed (fault : FileFault)
  /-- It can be opened, but not read. -/
  | broken (fault : FileFault)

/-- What is read of an entry. -/
def Entry.bytes : Entry → Except FileFault (List UInt8)
  | file content => .ok content
  | directory => .error .isADirectory
  | closed fault => .error fault
  | broken fault => .error fault

/-- What stands at each path, or why the path leads nowhere. -/
abbrev Files := String → Except FileFault Entry

/-! ## Trees -/

/-- The entries below a directory, each under the names that lead to it. Directories on the way to an
entry need no entry of their own. -/
structure FileTree where
  entries : List (List String × Entry)

namespace FileTree

/-- What stands at the end of a list of names. -/
def entry? (tree : FileTree) (names : List String) : Option Entry :=
  match tree.entries.find? (·.1 = names) with
  | some (_, entry) => some entry
  | none =>
    if names.isEmpty || tree.entries.any (names.isPrefixOf ·.1) then some .directory else none

/-- The longest name that a directory can hold. -/
def nameLimit : Nat := 255

/-- The longest path that can be opened. -/
def pathLimit : Nat := 4095

/-- Follow names from a directory around the tree. Nothing is known of what such a directory holds, but
that it lies in one itself. -/
def outside : List String → Except FileFault Entry
  | [] => .ok .directory
  | name :: rest =>
    if name = "" ∨ name = "." ∨ name = ".." then outside rest
    else if nameLimit < name.utf8ByteSize then .error .nameTooLong
    else .error .notFound

/-- Follow names from a directory or file that is reached by `here`. The root lies in itself. -/
def follow (tree : FileTree) (isRoot : Bool) (here : List String) :
    List String → Except FileFault Entry
  | [] =>
    match tree.entry? here with
    | some entry => .ok entry
    | none => .error .notFound
  | name :: rest =>
    match tree.entry? here with
    | none => .error .notFound
    | some (.file _) | some (.closed _) | some (.broken _) => .error .notADirectory
    | some .directory =>
      if name = "" ∨ name = "." then follow tree isRoot here rest
      else if name = ".." then
        if here.isEmpty && !isRoot then outside rest else follow tree isRoot here.dropLast rest
      else if nameLimit < name.utf8ByteSize then .error .nameTooLong
      else follow tree isRoot (here ++ [name]) rest

/-- What every system has at its root: a device that is always empty, one that holds the input of the
program, and some directories, of which no more is known. -/
def system (input : List UInt8) : FileTree :=
  ⟨[(["dev", "null"], .file []), (["dev", "stdin"], .file input)]
    ++ ["bin", "boot", "etc", "home", "lib", "media", "mnt", "opt", "proc", "root", "run", "sbin",
      "srv", "sys", "tmp", "usr", "var"].map fun name => ([name], .directory)⟩

/-- What paths find when they are opened in a tree by a program with some input. One that begins with
a slash leads from the root, outside of the tree. -/
def files (tree : FileTree) (input : List UInt8) : Files := fun path =>
  if path.toList.contains '\x00' then .error .zeroInName
  else if path.isEmpty then .error .notFound
  else if pathLimit < path.utf8ByteSize then .error .nameTooLong
  else if path.toList.head? = some '/' then (system input).follow true [] (Text.pieces '/' path)
  else tree.follow false [] (Text.pieces '/' path)

end FileTree

end QueueDepth

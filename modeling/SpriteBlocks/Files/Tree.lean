import SpriteBlocks.Files.Path

/-!
# Trees of files

A tree of files is what a program may find on a disk: folders with named
entries, and files. A path that leads nowhere has a reason for it.
-/
namespace SpriteBlocks

inductive FileError where
  | notFound
  | isFolder
  | notAFolder
  | notText
  | other (message : String)
deriving DecidableEq, Inhabited

def FileError.message : FileError → String
  | notFound => "No such file or directory (os error 2)"
  | isFolder => "Is a directory (os error 21)"
  | notAFolder => "Not a directory (os error 20)"
  | notText => "stream did not contain valid UTF-8"
  | other message => message

/-- The text of a file, or why there is none. -/
abbrev FileContent := Except FileError String

def contentOfBytes (bytes : ByteArray) : FileContent :=
  match String.fromUTF8? bytes with
  | some s => .ok s
  | none => .error .notText

/-- A file, or a folder with its entries in the order of their names. -/
inductive FileTree where
  | file (content : FileContent)
  | folder (entries : List (String × FileTree))
deriving Inhabited

namespace FileTree

def isFile : FileTree → Bool
  | file _ => true
  | folder _ => false

def read : FileTree → Except FileError String
  | file content => content
  | folder _ => .error .isFolder

/-- The entries with one replaced or added at its place. -/
def putEntry (name : String) (tree : FileTree) :
    List (String × FileTree) → List (String × FileTree)
  | [] => [(name, tree)]
  | (n, t) :: rest =>
    if name = n then (name, tree) :: rest
    else if name < n then (name, tree) :: (n, t) :: rest
    else (n, t) :: putEntry name tree rest

def entries : FileTree → List (String × FileTree)
  | file _ => []
  | folder entries => entries

/-- The tree with a file put at the end of a way of names. -/
def put (content : FileContent) : List String → FileTree → FileTree
  | [], _ => file content
  | name :: names, tree =>
    let inner := (tree.entries.lookup name).getD (folder [])
    folder (putEntry name (put content names inner) tree.entries)

/-- The tree of files with their paths, from the same folder. -/
def ofFiles (files : List (String × FileContent)) : FileTree :=
  files.foldl (fun tree f => put f.2 (Path.names f.1) tree) (folder [])

/-- Follow steps. Behind come the folders that were passed, the nearest first;
nothing is known of what is above them. -/
def follow : List Path.Step → FileTree → List FileTree → Except FileError FileTree
  | [], tree, _ => .ok tree
  | _ :: _, file _, _ => .error .notAFolder
  | .root :: _, _, _ => .error .notFound
  | .here :: rest, tree, passed => follow rest tree passed
  | .up :: _, _, [] => .error .notFound
  | .up :: rest, _, above :: passed => follow rest above passed
  | .name n :: rest, folder entries, passed =>
    match entries.lookup n with
    | some next => follow rest next (folder entries :: passed)
    | none => .error .notFound

def asksFolder (path : String) : Bool :=
  match (Text.split '/' path).getLast? with
  | some piece => piece = "" ∨ piece = "." ∨ piece = ".."
  | none => false

def find (tree : FileTree) (path : String) : Except FileError FileTree :=
  if path.isEmpty then .error .notFound
  else
    match follow (Path.steps path) tree [] with
    | .ok (.file content) => if asksFolder path then .error .notAFolder else .ok (.file content)
    | r => r

end FileTree
end SpriteBlocks

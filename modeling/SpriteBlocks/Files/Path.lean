import SpriteBlocks.Text.Search

/-!
# Paths

A path is a sequence of steps between slashes. Empty steps and single dots do
not count, but for a dot at the very start.
-/
namespace SpriteBlocks.Path

inductive Step where
  | root
  | here
  | up
  | name (text : String)
deriving DecidableEq, Inhabited

def Step.text : Step → String
  | root => "/"
  | here => "."
  | up => ".."
  | name text => text

/-- The step of a piece between slashes that is not the first. -/
def step? (piece : String) : Option Step :=
  if piece = "" ∨ piece = "." then none
  else if piece = ".." then some .up
  else some (.name piece)

def steps (path : String) : List Step :=
  match Text.split '/' path with
  | [] => []
  | first :: rest =>
    (if path.isEmpty then []
      else if first = "" then [.root]
      else if first = "." then [.here]
      else (step? first).toList) ++ rest.filterMap step?

def names (path : String) : List String :=
  (steps path).filterMap fun
    | .name text => some text
    | _ => none

/-- The name of the file or folder to which the path leads, if its last step is
a name. -/
def fileName? (path : String) : Option String :=
  match (steps path).getLast? with
  | some (.name text) => some text
  | _ => none

def join (folder entry : String) : String :=
  if folder.isEmpty || folder.toList.getLast? = some '/' then folder ++ entry
  else folder ++ "/" ++ entry

/-- The steps behind those of a path that leads to a folder around. -/
def stepsBelow? : List Step → List Step → Option (List Step)
  | [], rest => some rest
  | _ :: _, [] => none
  | r :: root, s :: rest => if r = s then stepsBelow? root rest else none

end SpriteBlocks.Path

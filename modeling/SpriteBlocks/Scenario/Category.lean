import SpriteBlocks.Files.Tree
import SpriteBlocks.SortedMap
import SpriteBlocks.Text.Blank
import SpriteBlocks.Text.Padded

/-!
# Categories

Scenarios are kept in folders, and the folders below the root are their
categories. Naming a category selects it with every category inside.
-/
namespace SpriteBlocks.Scenario

def fileEnding : String := ".test.blocks"

def dropEnding? (ending text : String) : Option String :=
  if ending.toList.isSuffixOf text.toList then
    some (String.ofList (text.toList.take (text.length - ending.length)))
  else none

def isScenarioFile (path : String) : Bool :=
  ((Path.fileName? path).bind (dropEnding? fileEnding)).isSome

def label (path : String) (description : Option String) : String :=
  description.getD (((Path.fileName? path).bind (dropEnding? fileEnding)).getD "?")

/-- The category of a folder: its way from the root. -/
def categoryOf (root folder : String) : String :=
  match Path.stepsBelow? (Path.steps root) (Path.steps folder) with
  | some steps => "/".intercalate (steps.map Path.Step.text)
  | none => ""

def shownCategory (category : String) : String :=
  if category.isEmpty then "(root)" else category

/-- Whether the category is the one with the name or inside of it. -/
def inCategory (category name : String) : Bool :=
  if name.toList.isPrefixOf category.toList then
    match category.toList.drop name.length with
    | [] => true
    | c :: _ => c = '/'
  else false

def wantedNames (wanted : List String) : List String := wanted.map (Text.trimMatches '/')

/-- The categories with one of the names, and the names that no category has.
Without names every category is selected. -/
def select {α : Type} (found : SortedMap String α) (wanted : List String) :
    SortedMap String α × List String :=
  if wanted.isEmpty then (found, [])
  else
    let names := wantedNames wanted
    (⟨found.entries.filter fun e => names.any (inCategory e.1), found.increasing.filter _⟩,
      names.filter fun name => !found.entries.any fun e => inCategory e.1 name)

structure TestFile where
  path : String
  tree : FileTree
deriving Inhabited

mutual
/-- The scenario files in a folder and below it, each with its category. -/
def filesBelow (root path : String) : FileTree → List (String × TestFile)
  | .file _ => []
  | .folder entries => filesIn root path entries

def filesIn (root path : String) : List (String × FileTree) → List (String × TestFile)
  | [] => []
  | (name, tree) :: rest =>
    let inner := Path.join path name
    (if tree.isFile && isScenarioFile inner then [(categoryOf root path, ⟨inner, tree⟩)] else []) ++
      filesBelow root inner tree ++ filesIn root path rest
end

def discover (root : String) (tree : FileTree) : SortedMap String (List TestFile) :=
  (filesBelow root root tree).foldl
    (fun found f => found.insert f.1 ((found.get? f.1).getD [] ++ [f.2])) ∅

end SpriteBlocks.Scenario

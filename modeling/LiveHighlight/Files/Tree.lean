import LiveHighlight.Files.Path
import LiveHighlight.Text.Utf8

/-!
File trees.

A place in the tree is a directory or a file. A file's content is kept under a key of its own, so
that who has opened a file still reads it after its place was removed. A file may be there and yet
not be opened for reading or for writing.
-/

namespace LiveHighlight

open Utf8 (Bytes)

inductive FileError where
  | missing
  /-- The path leads through something that is not a directory. -/
  | blocked
  | isDirectory
  | notText
  | other (cause : String)
  deriving DecidableEq, Repr

def FileError.message : FileError → String
  | missing => "No such file or directory (os error 2)"
  | blocked => "Not a directory (os error 20)"
  | isDirectory => "Is a directory (os error 21)"
  | notText => "stream did not contain valid UTF-8"
  | other cause => cause

abbrev FileKey := Nat

abbrev Place := List String

inductive FileNode where
  | directory
  | file (key : FileKey)
  deriving DecidableEq, Repr

inductive OpenMode where
  | reading
  | writing
  deriving DecidableEq, Repr

structure FileTree where
  /-- The path under which the tree is reached. -/
  root : String
  here : Option Place
  nodes : List (Place × FileNode)
  contents : Array Bytes
  /-- Why a file cannot be opened, if it cannot. -/
  refusal? : FileKey → OpenMode → Option String

namespace FileTree

def empty (root : String) : FileTree :=
  ⟨root, none, [], #[], fun _ _ => none⟩

def node? (tree : FileTree) : Place → Option FileNode
  | [] => some .directory
  | place => tree.nodes.lookup place

def content (tree : FileTree) (key : FileKey) : Bytes :=
  tree.contents[key]?.getD []

def setContent (tree : FileTree) (key : FileKey) (bytes : Bytes) : FileTree :=
  { tree with contents := tree.contents.setIfInBounds key bytes }

/-! ### Paths -/

def follow (tree : FileTree) : Place → List String → Except FileError Place
  | here, [] => .ok here
  | here, segment :: rest =>
    match tree.node? here with
    | none => .error .missing
    | some (.file _) => .error .blocked
    | some .directory =>
      if segment = "" || segment = "." then tree.follow here rest
      else if segment = ".." then
        if here.isEmpty then .error .missing else tree.follow here.dropLast rest
      else
        match tree.node? (here ++ [segment]) with
        | none => .error .missing
        | some _ => tree.follow (here ++ [segment]) rest

def stripStart? : List Char → List Char → Option (List Char)
  | [], text => some text
  | _ :: _, [] => none
  | expected :: later, c :: rest => if c = expected then stripStart? later rest else none

def way? (tree : FileTree) (path : String) : Option (Place × List String) :=
  let segments (text : List Char) : List String := (Path.segments text).map String.ofList
  if path.isEmpty then none
  else
    match stripStart? tree.root.toList path.toList with
    | some [] => some ([], [])
    | some ('/' :: rest) => some ([], segments rest)
    | _ =>
      if Path.isAbsolute path then none
      else tree.here.map fun here => (here, segments path.toList)

def find (tree : FileTree) (path : String) : Except FileError FileNode :=
  match tree.way? path with
  | none => .error .missing
  | some (start, segments) => do
    let place ← tree.follow start segments
    match tree.node? place with
    | some node => .ok node
    | none => .error .missing

/-! ### Opening and reading -/

def opened (tree : FileTree) (mode : OpenMode) : FileNode → Except FileError FileNode
  | .directory => .ok .directory
  | .file key =>
    match tree.refusal? key mode with
    | some cause => .error (.other cause)
    | none => .ok (.file key)

/-- A directory can be opened, though it can neither be read nor written. -/
def openNode (tree : FileTree) (mode : OpenMode) (path : String) : Except FileError FileNode := do
  tree.opened mode (← tree.find path)

def openFile (tree : FileTree) (mode : OpenMode) (path : String) : Except FileError FileKey := do
  match ← tree.openNode mode path with
  | .file key => .ok key
  | .directory => .error .isDirectory

def read (tree : FileTree) (path : String) : Except FileError Bytes := do
  return tree.content (← tree.openFile .reading path)

def readText (tree : FileTree) (path : String) : Except FileError String := do
  match Utf8.decode? (← tree.read path) with
  | some text => .ok (String.ofList text)
  | none => .error .notText

def exists? (tree : FileTree) (path : String) : Except FileError Bool :=
  match tree.find path with
  | .ok _ => .ok true
  | .error .missing => .ok false
  | .error error => .error error

/-! ### Changes from outside -/

def insertNode (tree : FileTree) (place : Place) (node : FileNode) : FileTree :=
  if (tree.node? place).isSome then tree
  else { tree with nodes := tree.nodes ++ [(place, node)] }

def starts (place : Place) : List Place :=
  (List.range place.length).map (place.take ·)

def putDirectory (tree : FileTree) (place : Place) : FileTree :=
  (starts place ++ [place]).foldl (·.insertNode · .directory) tree

def putFile (tree : FileTree) (place : Place) (bytes : Bytes) : FileTree :=
  match tree.node? place with
  | some (.file key) => tree.setContent key bytes
  | _ =>
    let key := tree.contents.size
    ({ tree with contents := tree.contents.push bytes }.putDirectory place.dropLast).insertNode
      place (.file key)

def appendFile (tree : FileTree) (place : Place) (bytes : Bytes) : FileTree :=
  match tree.node? place with
  | some (.file key) => tree.setContent key (tree.content key ++ bytes)
  | _ => tree.putFile place bytes

def remove (tree : FileTree) (place : Place) : FileTree :=
  { tree with nodes := tree.nodes.filter fun entry => !place.isPrefixOf entry.1 }

def placeOf (path : String) : Place :=
  ((Path.segments path.toList).filter (!·.isEmpty)).map String.ofList

/-- A change of the tree by others. A file put without content is a directory. -/
inductive Change where
  | put (path : String) (content : Option Bytes)
  | append (path : String) (bytes : Bytes)
  | remove (path : String)
  deriving DecidableEq, Repr

def change (tree : FileTree) : Change → FileTree
  | .put path (some bytes) => tree.putFile (placeOf path) bytes
  | .put path none => tree.putDirectory (placeOf path)
  | .append path bytes => tree.appendFile (placeOf path) bytes
  | .remove path => tree.remove (placeOf path)

def ofEntries (root : String) (entries : List (String × Option Bytes)) : FileTree :=
  entries.foldl (fun tree entry => tree.change (.put entry.1 entry.2)) (empty root)

/-- The tree as it was found anew: what neither was found nor leads to what was found is gone, and
a file that was found keeps its key. -/
def renew (tree : FileTree) (found : List (String × Option Bytes)) : FileTree :=
  let places := found.map fun entry => placeOf entry.1
  let kept := tree.nodes.filter fun entry => places.any entry.1.isPrefixOf
  found.foldl (fun tree entry => tree.change (.put entry.1 entry.2)) { tree with nodes := kept }

def listing (tree : FileTree) : List (String × Option Bytes) :=
  let entries := tree.nodes.map fun (place, node) =>
    ("/".intercalate place,
      match node with
      | .directory => none
      | .file key => some (tree.content key))
  entries.mergeSort fun first second => first.1 ≤ second.1

end FileTree
end LiveHighlight

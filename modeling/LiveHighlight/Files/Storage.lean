import LiveHighlight.Files.Tree

/-!
Writing to files.

A file is opened, written and flushed, and each of the three can fail. Opening fails by the tree;
whether an opened file takes what is written to it is up to the storage below, which also decides
what is left in the file where it does not. A file that is open is never found missing, so such a
failure is always one of another kind.
-/

namespace LiveHighlight

open Utf8 (Bytes)

structure WriteFailure where
  cause : String
  /-- What stands in the file afterwards. -/
  left : Bytes

structure Storage where
  write : FileKey → Bytes → Except WriteFailure Unit
  /-- Told what stands in the file by then. -/
  flush : FileKey → Bytes → Except WriteFailure Unit

def Storage.dependable : Storage :=
  ⟨fun _ _ => .ok (), fun _ _ => .ok ()⟩

/-- Work on files, which leaves its traces in the tree even where it fails. -/
abbrev FileWork (α : Type) : Type :=
  ExceptT FileError (StateM FileTree) α

namespace FileWork

def runOn {α : Type} (work : FileWork α) (tree : FileTree) : Except FileError α × FileTree :=
  work.run.run tree

def openFile (mode : OpenMode) (path : String) : FileWork FileKey := fun tree =>
  (tree.openFile mode path, tree)

def truncate (key : FileKey) : FileWork Unit := fun tree =>
  (.ok (), tree.setContent key [])

/-- Writes over the beginning of a file and leaves the rest. -/
def write (storage : Storage) (key : FileKey) (bytes : Bytes) : FileWork Unit := fun tree =>
  match storage.write key bytes with
  | .ok () => (.ok (), tree.setContent key (bytes ++ (tree.content key).drop bytes.length))
  | .error failure => (.error (.other failure.cause), tree.setContent key failure.left)

def flush (storage : Storage) (key : FileKey) : FileWork Unit := fun tree =>
  match storage.flush key (tree.content key) with
  | .ok () => (.ok (), tree)
  | .error failure => (.error (.other failure.cause), tree.setContent key failure.left)

/-- Puts bytes in the place of what stands in a file. No file is created. -/
def replace (storage : Storage) (path : String) (bytes : Bytes) : FileWork Unit := do
  let key ← openFile .writing path
  truncate key
  if !bytes.isEmpty then write storage key bytes
  flush storage key

def overwrite (storage : Storage) (path : String) (bytes : Bytes) : FileWork Unit := do
  let key ← openFile .writing path
  write storage key bytes
  flush storage key

end FileWork
end LiveHighlight

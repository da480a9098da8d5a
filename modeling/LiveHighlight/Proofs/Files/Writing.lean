import LiveHighlight.Files.Storage
import LiveHighlight.Proofs.Files.Contents

/-!
What writing to a file comes to.

A file that is not opened is left alone. One that is opened holds the new bytes or, where the
storage fails on the way, what the storage leaves in it.
-/

namespace LiveHighlight

open Utf8 (Bytes)

def Storage.fill (storage : Storage) (key : FileKey) (bytes : Bytes) : Except WriteFailure Unit :=
  if bytes.isEmpty then storage.flush key bytes
  else
    match storage.write key bytes with
    | .ok () => storage.flush key bytes
    | .error failure => .error failure

@[simp] theorem Storage.fill_dependable (key : FileKey) (bytes : Bytes) :
    dependable.fill key bytes = .ok () := by
  simp [fill, dependable]

namespace FileWork

variable {tree : FileTree} {path : String} {key : FileKey}

theorem runOn_bind {α β : Type} (first : FileWork α) (rest : α → FileWork β) (tree : FileTree) :
    (first >>= rest).runOn tree =
      match first.runOn tree with
      | (.ok value, after) => (rest value).runOn after
      | (.error cause, after) => (.error cause, after) := by
  unfold runOn
  rw [ExceptT.run_bind, StateT.run_bind]
  rcases first.run.run tree with ⟨_ | _, _⟩ <;> rfl

theorem runOn_openFile (mode : OpenMode) (path : String) (tree : FileTree) :
    (openFile mode path).runOn tree = (tree.openFile mode path, tree) := rfl

theorem runOn_truncate (key : FileKey) (tree : FileTree) :
    (truncate key).runOn tree = (.ok (), tree.setContent key []) := rfl

theorem content_truncated (tree : FileTree) (key : FileKey) :
    (tree.setContent key []).content key = [] := by
  by_cases kept : key < tree.contents.size
  · exact FileTree.content_setContent_self [] kept
  · simp [FileTree.content, FileTree.setContent, kept]

theorem runOn_write (storage : Storage) (key : FileKey) (bytes : Bytes) (tree : FileTree) :
    (write storage key bytes).runOn tree =
      match storage.write key bytes with
      | .ok () => (.ok (), tree.setContent key (bytes ++ (tree.content key).drop bytes.length))
      | .error failure => (.error (.other failure.cause), tree.setContent key failure.left) := rfl

theorem runOn_flush (storage : Storage) (key : FileKey) (tree : FileTree) :
    (flush storage key).runOn tree =
      match storage.flush key (tree.content key) with
      | .ok () => (.ok (), tree)
      | .error failure => (.error (.other failure.cause), tree.setContent key failure.left) := rfl

theorem runOn_replace_of_refused {cause : FileError}
    (refused : tree.openFile .writing path = .error cause) (storage : Storage) (bytes : Bytes) :
    (replace storage path bytes).runOn tree = (.error cause, tree) := by
  simp only [replace, runOn_bind, runOn_openFile, refused]

theorem runOn_replace_of_opened (opens : tree.openFile .writing path = .ok key)
    (kept : key < tree.contents.size) (storage : Storage) (bytes : Bytes) :
    (replace storage path bytes).runOn tree =
      match storage.fill key bytes with
      | .ok () => (.ok (), tree.setContent key bytes)
      | .error failure => (.error (.other failure.cause), tree.setContent key failure.left) := by
  have filled : (tree.setContent key bytes).content key = bytes :=
    FileTree.content_setContent_self bytes kept
  simp only [replace, runOn_bind, runOn_openFile, opens, runOn_truncate, Storage.fill]
  cases bytes with
  | nil =>
      simp only [List.isEmpty_nil, Bool.not_true, Bool.false_eq_true, if_false, if_true,
        runOn_flush, content_truncated, FileTree.setContent_setContent]
  | cons first later =>
      simp only [List.isEmpty_cons, Bool.not_false, Bool.false_eq_true, if_false, if_true,
        runOn_bind, runOn_write]
      cases written : storage.write key (first :: later) with
      | error failure => simp only [FileTree.setContent_setContent]
      | ok done =>
          simp only [runOn_flush, FileTree.setContent_setContent, content_truncated,
            List.drop_nil, List.append_nil, filled]

theorem runOn_replace_dependable (opens : tree.openFile .writing path = .ok key) (bytes : Bytes) :
    (replace .dependable path bytes).runOn tree = (.ok (), tree.setContent key bytes) := by
  simp only [replace, runOn_bind, runOn_openFile, opens, runOn_truncate]
  cases bytes with
  | nil => rfl
  | cons first later =>
      simp only [List.isEmpty_cons, Bool.not_false, if_true, runOn_bind, runOn_write, runOn_flush,
        Storage.dependable, content_truncated, List.drop_nil, List.append_nil,
        FileTree.setContent_setContent]

theorem runOn_overwrite_of_refused {cause : FileError}
    (refused : tree.openFile .writing path = .error cause) (storage : Storage) (bytes : Bytes) :
    (overwrite storage path bytes).runOn tree = (.error cause, tree) := by
  simp only [overwrite, runOn_bind, runOn_openFile, refused]

theorem runOn_overwrite_dependable (opens : tree.openFile .writing path = .ok key)
    (bytes : Bytes) :
    (overwrite .dependable path bytes).runOn tree =
      (.ok (), tree.setContent key (bytes ++ (tree.content key).drop bytes.length)) := by
  simp only [overwrite, runOn_bind, runOn_openFile, opens, runOn_write, runOn_flush,
    Storage.dependable]

end FileWork
end LiveHighlight

import LiveHighlight.Proofs.Files.Places

/-!
What stands at the places of a tree.

No two places of a tree share a file, so that writing to a file changes what stands at one place
only. Every tree that is laid out from entries is of this kind, and changes keep it so.
-/

namespace LiveHighlight.FileTree

open Utf8 (Bytes)

def standing? (tree : FileTree) (place : Place) : Option (Option Bytes) :=
  (tree.node? place).map fun node =>
    match node with
    | .directory => none
    | .file key => some (tree.content key)

structure IsSound (tree : FileTree) : Prop where
  rooted : tree.IsRooted
  separate : ∀ first second key, tree.node? first = some (.file key) →
    tree.node? second = some (.file key) → first = second
  kept : ∀ place key, tree.node? place = some (.file key) → key < tree.contents.size

/-- The same places, with the same at each of them except perhaps at one. -/
structure SameExcept (place : Place) (before after : FileTree) : Prop where
  nodes : ∀ other, after.node? other = before.node? other
  entries : ∀ other, other ≠ place → after.standing? other = before.standing? other

def Holds (tree : FileTree) (path : String) (bytes : Bytes) : Prop :=
  ∃ key, tree.find path = .ok (.file key) ∧ tree.content key = bytes

/-! ### Files -/

section

variable {tree : FileTree} {mode : OpenMode} {path : String} {key : FileKey}

theorem openNode_file_iff :
    tree.openNode mode path = .ok (.file key) ↔
      tree.find path = .ok (.file key) ∧ tree.refusal? key mode = none := by
  unfold openNode
  cases tree.find path with
  | error cause => simp [bind, Except.bind]
  | ok node =>
      cases node with
      | directory => simp [bind, Except.bind, opened]
      | file found =>
          simp only [bind, Except.bind, opened]
          split
          next cause refused =>
            simp only [reduceCtorEq, Except.ok.injEq, FileNode.file.injEq, false_iff]
            rintro ⟨rfl, admitted⟩
            cases refused.symm.trans admitted
          next admitted =>
            simp only [Except.ok.injEq, FileNode.file.injEq, iff_self_and]
            rintro rfl
            exact admitted

theorem openFile_eq_ok_iff :
    tree.openFile mode path = .ok key ↔
      tree.find path = .ok (.file key) ∧ tree.refusal? key mode = none := by
  rw [← openNode_file_iff, openFile]
  cases tree.openNode mode path with
  | error cause => simp [bind, Except.bind]
  | ok node => cases node <;> simp [bind, Except.bind]

theorem openNode_missing_iff :
    tree.openNode mode path = .error .missing ↔ tree.find path = .error .missing := by
  unfold openNode
  cases tree.find path with
  | error cause => simp [bind, Except.bind]
  | ok node =>
      cases node with
      | directory => simp [bind, Except.bind, opened]
      | file key =>
          cases refused : tree.refusal? key mode <;> simp [bind, Except.bind, opened, refused]

theorem openFile_missing_iff :
    tree.openFile mode path = .error .missing ↔ tree.find path = .error .missing := by
  rw [← openNode_missing_iff, openFile]
  cases tree.openNode mode path with
  | error cause => simp [bind, Except.bind]
  | ok node => cases node <;> simp [bind, Except.bind]

theorem find_of_openFile (opens : tree.openFile mode path = .ok key) :
    tree.find path = .ok (.file key) :=
  (openFile_eq_ok_iff.mp opens).1

theorem read_eq_ok_iff {bytes : Bytes} :
    tree.read path = .ok bytes ↔
      ∃ key, tree.openFile .reading path = .ok key ∧ tree.content key = bytes := by
  unfold read
  cases tree.openFile .reading path <;> simp [bind, Except.bind, pure, Except.pure]

theorem read_missing_iff :
    tree.read path = .error .missing ↔ tree.find path = .error .missing := by
  rw [← @openFile_missing_iff tree .reading, read]
  cases tree.openFile .reading path <;> simp [bind, Except.bind, pure, Except.pure]

end

theorem IsSound.key_ne {tree : FileTree} (sound : tree.IsSound) {base base' name name' : String}
    (nonempty : base ≠ "") (nonempty' : base' ≠ "") (isName : Path.IsName name)
    (isName' : Path.IsName name') (different : name ≠ name') {key key' : FileKey}
    (found : tree.find (Path.join base name) = .ok (.file key))
    (found' : tree.find (Path.join base' name') = .ok (.file key')) : key ≠ key' := by
  rintro rfl
  obtain ⟨place, leads, stands⟩ := find_eq_ok_iff.mp found
  obtain ⟨place', leads', stands'⟩ := find_eq_ok_iff.mp found'
  have below : place ≠ [] := by
    rintro rfl
    cases stands
  cases sound.separate place place' key stands stands'
  obtain ⟨above, _, _, ends⟩ := place_of_join sound.rooted nonempty isName leads below
  obtain ⟨above', _, _, ends'⟩ := place_of_join sound.rooted nonempty' isName' leads' below
  have same := (List.append_inj' (ends.symm.trans ends') rfl).2
  exact different (List.singleton_inj.mp same)

/-! ### Writing -/

@[simp] theorem node?_setContent (tree : FileTree) (key : FileKey) (bytes : Bytes)
    (place : Place) : (tree.setContent key bytes).node? place = tree.node? place := by
  cases place <;> rfl

theorem content_setContent_self {tree : FileTree} {key : FileKey} (bytes : Bytes)
    (kept : key < tree.contents.size) : (tree.setContent key bytes).content key = bytes := by
  simp [content, setContent, kept]

theorem content_setContent_other (tree : FileTree) {key other : FileKey} (bytes : Bytes)
    (different : other ≠ key) : (tree.setContent key bytes).content other = tree.content other := by
  simp [content, setContent, Ne.symm different]

theorem setContent_setContent (tree : FileTree) (key : FileKey) (first second : Bytes) :
    (tree.setContent key first).setContent key second = tree.setContent key second := by
  simp [setContent]

theorem follow_setContent (tree : FileTree) (key : FileKey) (bytes : Bytes) (here : Place)
    (segments : List String) :
    (tree.setContent key bytes).follow here segments = tree.follow here segments := by
  induction segments generalizing here with
  | nil => rfl
  | cons segment later ih => simp only [follow, node?_setContent, ih]

@[simp] theorem find_setContent (tree : FileTree) (key : FileKey) (bytes : Bytes) (path : String) :
    (tree.setContent key bytes).find path = tree.find path := by
  simp only [find, follow_setContent, node?_setContent]
  rfl

@[simp] theorem openFile_setContent (tree : FileTree) (key : FileKey) (bytes : Bytes)
    (mode : OpenMode) (path : String) :
    (tree.setContent key bytes).openFile mode path = tree.openFile mode path := by
  simp only [openFile, openNode, find_setContent]
  rfl

theorem read_setContent {tree : FileTree} {key : FileKey} (bytes : Bytes) {path : String}
    (other : ∀ found, tree.find path = .ok (.file found) → found ≠ key) :
    (tree.setContent key bytes).read path = tree.read path := by
  unfold read
  rw [openFile_setContent]
  cases opens : tree.openFile .reading path with
  | error error => rfl
  | ok found =>
      have unlike := other found (find_of_openFile opens)
      simp [bind, Except.bind, content_setContent_other tree bytes unlike]

theorem IsSound.holds_setContent {tree : FileTree} (sound : tree.IsSound) {path : String}
    {key : FileKey} (bytes : Bytes) (found : tree.find path = .ok (.file key)) :
    (tree.setContent key bytes).Holds path bytes := by
  obtain ⟨place, _, stands⟩ := find_eq_ok_iff.mp found
  exact ⟨key, by rw [find_setContent, found],
    content_setContent_self bytes (sound.kept place key stands)⟩

theorem IsSound.sameExcept_setContent {tree : FileTree} (sound : tree.IsSound) {place : Place}
    {key : FileKey} (bytes : Bytes) (stands : tree.node? place = some (.file key)) :
    tree.SameExcept place (tree.setContent key bytes) where
  nodes := node?_setContent tree key bytes
  entries := by
    intro other elsewhere
    simp only [standing?, node?_setContent]
    cases at_other : tree.node? other with
    | none => rfl
    | some node =>
        cases node with
        | directory => rfl
        | file key' =>
            have different : key' ≠ key := by
              rintro rfl
              exact elsewhere (sound.separate other place key' at_other stands)
            simp [content_setContent_other tree bytes different]

theorem IsSound.setContent {tree : FileTree} (sound : tree.IsSound) (key : FileKey)
    (bytes : Bytes) : (tree.setContent key bytes).IsSound where
  rooted := ⟨sound.rooted.noSlash, sound.rooted.apart⟩
  separate first second key' := by
    simp only [node?_setContent]
    exact sound.separate first second key'
  kept place key' := by
    rw [node?_setContent, FileTree.setContent, Array.size_setIfInBounds]
    exact sound.kept place key'

/-! ### Changes from outside -/

theorem node?_insertNode (tree : FileTree) (place other : Place) (node : FileNode) :
    (tree.insertNode place node).node? other =
      (tree.node? other).or (if other = place then some node else none) := by
  unfold insertNode
  split
  next taken =>
    by_cases same : other = place
    · subst same
      cases found : tree.node? other <;> simp_all
    · simp [same]
  next =>
    cases other with
    | nil => rfl
    | cons name later =>
        by_cases same : name :: later = place
        · simp [node?, List.lookup_append, same]
        · have unlike : (name :: later == place) = false := by simpa using same
          simp [node?, List.lookup_append, List.lookup_cons, same, unlike]

structure HasFilesOf (next tree : FileTree) : Prop where
  root : next.root = tree.root
  here : next.here = tree.here
  size : next.contents.size = tree.contents.size
  files : ∀ place key, next.node? place = some (.file key) → tree.node? place = some (.file key)

theorem HasFilesOf.refl (tree : FileTree) : tree.HasFilesOf tree :=
  ⟨rfl, rfl, rfl, fun _ _ found => found⟩

theorem HasFilesOf.trans {first second third : FileTree} (outer : first.HasFilesOf second)
    (inner : second.HasFilesOf third) : first.HasFilesOf third :=
  ⟨outer.root.trans inner.root, outer.here.trans inner.here, outer.size.trans inner.size,
    fun place key found => inner.files place key (outer.files place key found)⟩

theorem HasFilesOf.isSound {next tree : FileTree} (fewer : next.HasFilesOf tree)
    (sound : tree.IsSound) : next.IsSound where
  rooted := ⟨by rw [fewer.root]; exact sound.rooted.noSlash,
    by rw [fewer.root, fewer.here]; exact sound.rooted.apart⟩
  separate first second key atFirst atSecond :=
    sound.separate first second key (fewer.files first key atFirst)
      (fewer.files second key atSecond)
  kept place key found := by
    rw [fewer.size]
    exact sound.kept place key (fewer.files place key found)

theorem hasFilesOf_insertDirectory (tree : FileTree) (place : Place) :
    (tree.insertNode place .directory).HasFilesOf tree where
  root := by unfold insertNode; split <;> rfl
  here := by unfold insertNode; split <;> rfl
  size := by unfold insertNode; split <;> rfl
  files := by
    intro other key found
    rw [node?_insertNode, Option.or_eq_some_iff] at found
    rcases found with found | ⟨_, inserted⟩
    · exact found
    · split at inserted <;> cases inserted

theorem hasFilesOf_putDirectory (tree : FileTree) (place : Place) :
    (tree.putDirectory place).HasFilesOf tree := by
  unfold putDirectory
  generalize starts place ++ [place] = places
  induction places generalizing tree with
  | nil => exact .refl tree
  | cons first later ih => exact (ih _).trans (hasFilesOf_insertDirectory tree first)

theorem lookup_filter_place (keeps : Place → Bool) (place : Place)
    (nodes : List (Place × FileNode)) :
    (nodes.filter fun entry => keeps entry.1).lookup place =
      if keeps place then nodes.lookup place else none := by
  induction nodes with
  | nil => simp
  | cons entry later ih =>
      obtain ⟨first, node⟩ := entry
      by_cases same : place = first
      · subst same
        cases kept : keeps place <;> simp [kept, ih]
      · have unlike : (place == first) = false := by simpa using same
        cases kept : keeps first <;> simp [kept, ih, List.lookup_cons, unlike]

theorem hasFilesOf_filter (tree : FileTree) (keeps : Place → Bool) :
    ({ tree with nodes := tree.nodes.filter fun entry => keeps entry.1 } : FileTree).HasFilesOf
      tree where
  root := rfl
  here := rfl
  size := rfl
  files := by
    intro place key found
    cases place with
    | nil => cases found
    | cons name later =>
        simp only [node?, lookup_filter_place] at found
        split at found
        next => exact found
        next => cases found

theorem IsSound.insertFile {tree : FileTree} (sound : tree.IsSound) (place : Place) {key : FileKey}
    (fresh : ∀ other, tree.node? other ≠ some (.file key)) (kept : key < tree.contents.size) :
    (tree.insertNode place (.file key)).IsSound := by
  have files : ∀ other key', (tree.insertNode place (.file key)).node? other = some (.file key') →
      tree.node? other = some (.file key') ∨ other = place ∧ key' = key := by
    intro other key' found
    rw [node?_insertNode, Option.or_eq_some_iff] at found
    rcases found with found | ⟨_, inserted⟩
    · exact .inl found
    · split at inserted
      next same =>
        cases inserted
        exact .inr ⟨same, rfl⟩
      next => cases inserted
  have size : (tree.insertNode place (.file key)).contents.size = tree.contents.size := by
    unfold insertNode
    split <;> rfl
  refine ⟨?_, ?_, ?_⟩
  · unfold insertNode
    split
    · exact sound.rooted
    · exact ⟨sound.rooted.noSlash, sound.rooted.apart⟩
  · intro first second key' atFirst atSecond
    rcases files first key' atFirst with oldFirst | ⟨rfl, rfl⟩
    · rcases files second key' atSecond with oldSecond | ⟨rfl, rfl⟩
      · exact sound.separate first second key' oldFirst oldSecond
      · exact absurd oldFirst (fresh first)
    · rcases files second key' atSecond with oldSecond | ⟨rfl, _⟩
      · exact absurd oldSecond (fresh second)
      · rfl
  · intro other key' found
    rw [size]
    rcases files other key' found with old | ⟨_, rfl⟩
    · exact sound.kept other key' old
    · exact kept

theorem IsSound.push {tree : FileTree} (sound : tree.IsSound) (bytes : Bytes) :
    ({ tree with contents := tree.contents.push bytes } : FileTree).IsSound where
  rooted := ⟨sound.rooted.noSlash, sound.rooted.apart⟩
  separate first second key atFirst atSecond := by
    refine sound.separate first second key ?_ ?_
    · cases first <;> exact atFirst
    · cases second <;> exact atSecond
  kept place key found := by
    have old : tree.node? place = some (.file key) := by cases place <;> exact found
    have bound := sound.kept place key old
    rw [Array.size_push]
    exact Nat.lt_succ_of_lt bound

theorem IsSound.putFile {tree : FileTree} (sound : tree.IsSound) (place : Place) (bytes : Bytes) :
    (tree.putFile place bytes).IsSound := by
  unfold FileTree.putFile
  split
  next key _ => exact sound.setContent key bytes
  next =>
    have below := hasFilesOf_putDirectory { tree with contents := tree.contents.push bytes }
      place.dropLast
    refine (below.isSound (sound.push bytes)).insertFile place ?_ ?_
    · intro other found
      have old : tree.node? other = some (.file tree.contents.size) := by
        have inside := below.files other _ found
        cases other <;> exact inside
      exact Nat.lt_irrefl _ (sound.kept other _ old)
    · rw [below.size, Array.size_push]
      exact Nat.lt_succ_self _

theorem IsSound.change {tree : FileTree} (sound : tree.IsSound) (change : Change) :
    (tree.change change).IsSound := by
  cases change with
  | put path content =>
      cases content with
      | none => exact (hasFilesOf_putDirectory tree _).isSound sound
      | some bytes => exact sound.putFile _ bytes
  | append path bytes =>
      simp only [FileTree.change, appendFile]
      split
      next key _ => exact sound.setContent key _
      next => exact sound.putFile _ bytes
  | remove path =>
      exact (hasFilesOf_filter tree fun other => !(placeOf path).isPrefixOf other).isSound sound

theorem IsSound.putAll {tree : FileTree} (sound : tree.IsSound)
    (entries : List (String × Option Bytes)) :
    (entries.foldl (fun tree entry => tree.change (.put entry.1 entry.2)) tree).IsSound := by
  induction entries generalizing tree with
  | nil => exact sound
  | cons entry later ih => exact ih (sound.change _)

theorem isSound_ofEntries {root : String} (noSlash : root.toList.getLast? ≠ some '/')
    (entries : List (String × Option Bytes)) : (ofEntries root entries).IsSound := by
  have none_yet : ∀ place key, (empty root).node? place ≠ some (.file key) := by
    intro place key
    cases place <;> simp [empty, node?]
  have fresh : (empty root).IsSound :=
    ⟨⟨noSlash, .inl rfl⟩, fun first _ key found _ => absurd found (none_yet first key),
      fun place key found => absurd found (none_yet place key)⟩
  exact fresh.putAll entries

theorem IsSound.renew {tree : FileTree} (sound : tree.IsSound)
    (found : List (String × Option Bytes)) : (tree.renew found).IsSound := by
  have kept := hasFilesOf_filter tree fun place =>
    (found.map fun entry => placeOf entry.1).any place.isPrefixOf
  exact (kept.isSound sound).putAll found

/-! ### The same paths -/

theorem way?_insertNode (tree : FileTree) (place : Place) (node : FileNode) (path : String) :
    (tree.insertNode place node).way? path = tree.way? path := by
  unfold insertNode
  split <;> rfl

theorem way?_putFile (tree : FileTree) (place : Place) (bytes : Bytes) (path : String) :
    (tree.putFile place bytes).way? path = tree.way? path := by
  unfold FileTree.putFile
  split
  next => rfl
  next =>
    have below := hasFilesOf_putDirectory { tree with contents := tree.contents.push bytes }
      place.dropLast
    rw [way?_insertNode]
    exact way?_congr below.root below.here path

theorem way?_change (tree : FileTree) (change : Change) (path : String) :
    (tree.change change).way? path = tree.way? path := by
  cases change with
  | put changed content =>
      cases content with
      | none =>
          have same := hasFilesOf_putDirectory tree (placeOf changed)
          exact way?_congr same.root same.here path
      | some bytes => exact way?_putFile tree _ bytes path
  | append changed bytes =>
      simp only [FileTree.change, appendFile]
      split
      next => rfl
      next => exact way?_putFile tree _ bytes path
  | remove => rfl

theorem way?_putAll (tree : FileTree) (entries : List (String × Option Bytes)) (path : String) :
    (entries.foldl (fun tree entry => tree.change (.put entry.1 entry.2)) tree).way? path =
      tree.way? path := by
  induction entries generalizing tree with
  | nil => rfl
  | cons entry later ih => exact (ih _).trans (way?_change tree _ path)

end LiveHighlight.FileTree

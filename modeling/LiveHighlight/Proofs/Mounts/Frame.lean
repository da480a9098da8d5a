import LiveHighlight.Mounts
import LiveHighlight.Libraries
import LiveHighlight.Proofs.Session.Run
import LiveHighlight.Proofs.Styles.Applying

/-!
What calls change in the file tree.

A call writes to one file of its own layer or to none, and a call that fails writes nothing. So
whatever is called, on whatever layers, places neither come nor go, and the files of one window
stay as they are while the layers of another are written.
-/

namespace LiveHighlight

open LiveHighlight.Path (IsName)

/-! ### Layers -/

namespace StyleFiles

variable {files : StyleFiles} {tree : FileTree}

def filePlace (home : Place) (layer : FileLayer) (name : String) : Place :=
  home ++ [toString layer.window, "layers", toString layer.id, name]

/-- A call has written one file of a layer: all else is as it was. -/
def WritesOnly (files : StyleFiles) (layer : FileLayer) (name : String) (before after : FileTree) :
    Prop :=
  ∃ home, before.place files.root = .ok home ∧ before.SameExcept (filePlace home layer name) after

theorem place_layerPath (sound : tree.IsSound) (known : (tree.way? files.root).isSome = true)
    {layer : FileLayer} {name : String} (isName : IsName name) {place : Place}
    (leads : tree.place (files.layerPath layer name) = .ok place) :
    ∃ home, tree.place files.root = .ok home ∧ place = filePlace home layer name := by
  have names : ∀ part ∈ [toString layer.window, "layers", toString layer.id, name],
      IsName part := by
    simp only [List.mem_cons, List.not_mem_nil, or_false, forall_eq_or_imp, forall_eq]
    exact ⟨Path.isName_toString _, by decide, Path.isName_toString _, isName⟩
  exact FileTree.place_joinAll sound.rooted names known leads

theorem writesOnly_setContent (sound : tree.IsSound)
    (known : (tree.way? files.root).isSome = true) {layer : FileLayer} {name : String}
    (isName : IsName name) {key : FileKey} (bytes : Utf8.Bytes)
    (found : tree.find (files.layerPath layer name) = .ok (.file key)) :
    files.WritesOnly layer name tree (tree.setContent key bytes) := by
  obtain ⟨place, leads, stands⟩ := FileTree.find_eq_ok_iff.mp found
  obtain ⟨home, atRoot, rfl⟩ := place_layerPath sound known isName leads
  exact ⟨home, atRoot, sound.sameExcept_setContent bytes stands⟩

def Written (files : StyleFiles) (layer : FileLayer) (name : String) (before after : FileTree) :
    Prop :=
  ∃ key bytes, before.openFile .writing (files.layerPath layer name) = .ok key ∧
    after = before.setContent key bytes

theorem Written.writesOnly {layer : FileLayer} {name : String} {after : FileTree}
    (written : files.Written layer name tree after) (sound : tree.IsSound)
    (known : (tree.way? files.root).isSome = true) (isName : IsName name) :
    files.WritesOnly layer name tree after := by
  obtain ⟨key, bytes, opens, rfl⟩ := written
  exact writesOnly_setContent sound known isName bytes (FileTree.find_of_openFile opens)

theorem writeStyle_of_opened {layer : FileLayer} {key : FileKey}
    (opens : tree.openFile .writing (files.layerPath layer "style") = .ok key)
    (spans : List Span) :
    (files.writeStyle .dependable layer spans).runOn tree =
      (.ok (), tree.setContent key (styleBytes spans)) :=
  FileWork.runOn_replace_dependable opens _

theorem writeStyle_of_refused {layer : FileLayer} {cause : FileError}
    (refused : tree.openFile .writing (files.layerPath layer "style") = .error cause)
    (spans : List Span) :
    (files.writeStyle .dependable layer spans).runOn tree = (.error cause, tree) :=
  FileWork.runOn_replace_of_refused refused _ _

theorem apply_cases (files : StyleFiles) (tree : FileTree) (layer : FileLayer)
    (spans : List Span) :
    (files.apply tree layer spans).layer.window = layer.window ∧
      (((files.apply tree layer spans).result = .ok () ∧
          files.Written (files.apply tree layer spans).layer "style" tree
            (files.apply tree layer spans).tree) ∨
        (∃ error, (files.apply tree layer spans).result = .error error) ∧
          (files.apply tree layer spans).tree = tree) := by
  unfold apply applyOn
  cases opens : tree.openFile .writing (files.layerPath layer "style") with
  | ok key =>
      rw [writeStyle_of_opened opens]
      exact ⟨rfl, .inl ⟨rfl, key, _, opens, rfl⟩⟩
  | error cause =>
      rw [writeStyle_of_refused opens]
      cases cause with
      | blocked | isDirectory | notText | other => exact ⟨rfl, .inr ⟨⟨_, rfl⟩, rfl⟩⟩
      | missing =>
          dsimp only
          cases files.allocate tree layer.window with
          | error error => exact ⟨rfl, .inr ⟨⟨_, rfl⟩, rfl⟩⟩
          | ok id =>
              dsimp only
              cases again : tree.openFile .writing
                  (files.layerPath ⟨layer.window, id⟩ "style") with
              | ok key =>
                  rw [writeStyle_of_opened again]
                  exact ⟨rfl, .inl ⟨rfl, key, _, again, rfl⟩⟩
              | error cause =>
                  rw [writeStyle_of_refused again]
                  exact ⟨rfl, .inr ⟨⟨_, rfl⟩, rfl⟩⟩

theorem delete_eq_ok {layer : FileLayer} {after : FileTree}
    (deleted : files.delete tree layer = .ok after) : files.Written layer "ctl" tree after := by
  unfold delete deleteOn at deleted
  cases opens : tree.openFile .writing (files.layerPath layer "ctl") with
  | ok key =>
      rw [FileWork.runOn_overwrite_dependable opens] at deleted
      exact ⟨key, _, opens, (Except.ok.inj deleted).symm⟩
  | error cause =>
      rw [FileWork.runOn_overwrite_of_refused opens] at deleted
      cases deleted

end StyleFiles

/-! ### Calls -/

def Reply.isFailure : Reply → Bool
  | .editorFailed _ | .compositorFailed _ => true
  | _ => false

/-- The file that a call writes if it succeeds, by its layer and its name. -/
def Call.file? : Call → Option (LayerKey × String)
  | .apply _ key _ => some (key, "style")
  | .delete _ key => some (key, "ctl")
  | _ => none

namespace Mounts

variable {γ : Type} [ParserLibrary γ]

def Holds (mounts : Mounts γ) (call : Call) : Prop :=
  ∀ key, call.layer? = some key → key < mounts.layers.size

/-- What can have come about by calls, with any changes of the tree by others in between. -/
inductive Reachable (highlighter : Highlighter γ) : Mounts γ → Prop
  | start {tree : FileTree} (sound : tree.IsSound) :
      Reachable highlighter (.ofHighlighter highlighter tree)
  | called {mounts : Mounts γ} {call : Call} (earlier : Reachable highlighter mounts)
      (held : mounts.Holds call) : Reachable highlighter (mounts.answer call).2
  | changed {mounts : Mounts γ} {tree : FileTree} (earlier : Reachable highlighter mounts)
      (sound : tree.IsSound) (ways : ∀ path, tree.way? path = mounts.tree.way? path) :
      Reachable highlighter { mounts with tree := tree }

/-- What an answer can do to the tree and to the layers. -/
inductive Answered (mounts : Mounts γ) : Call → Reply → Mounts γ → Prop
  | kept {call : Call} {reply : Reply} {streams : Array OpenStream}
      (why : reply.isFailure = true ∨ call.file? = none) :
      Answered mounts call reply { mounts with streams := streams }
  | opened {window : WindowId} {name : String} {layer : FileLayer}
      (opens : mounts.styles.openLayer mounts.tree window = .ok layer) :
      Answered mounts (.openLayer window name) (.layer mounts.layers.size)
        { mounts with layers := mounts.layers.push layer }
  | applied {window : WindowId} {key : LayerKey} {spans : List Span} {tree : FileTree}
      {layer : FileLayer} (ofWindow : layer.window = (mounts.layer key).window)
      (written : mounts.styles.Written layer "style" mounts.tree tree) :
      Answered mounts (.apply window key spans) .done
        { mounts with tree := tree, layers := mounts.layers.setIfInBounds key layer }
  | notApplied {window : WindowId} {key : LayerKey} {spans : List Span} {layer : FileLayer}
      {error : CompositorError} (ofWindow : layer.window = (mounts.layer key).window) :
      Answered mounts (.apply window key spans) (.compositorFailed error)
        { mounts with layers := mounts.layers.setIfInBounds key layer }
  | deleted {window : WindowId} {key : LayerKey} {tree : FileTree}
      (written : mounts.styles.Written (mounts.layer key) "ctl" mounts.tree tree) :
      Answered mounts (.delete window key) .done { mounts with tree := tree }

theorem answered (mounts : Mounts γ) (call : Call) :
    Answered mounts call (mounts.answer call).1 (mounts.answer call).2 := by
  cases call with
  | annotate => exact .kept (.inr rfl)
  | listWindows | watchWindows | openWindow | readFirstLine | subscribe | readText =>
      simp only [answer, ofEditor]
      split <;> exact .kept (.inr rfl)
  | clear =>
      simp only [answer, ofCompositor]
      split <;> exact .kept (.inr rfl)
  | openLayer =>
      simp only [answer, ofCompositor]
      split
      next opens => exact .opened opens
      next => exact .kept (.inr rfl)
  | apply window key spans =>
      obtain ⟨ofWindow, ⟨success, written⟩ | ⟨⟨error, failure⟩, same⟩⟩ :=
        mounts.styles.apply_cases mounts.tree (mounts.layer key) spans
      · simp only [answer, ofCompositor, success]
        exact .applied ofWindow written
      · simp only [answer, ofCompositor, failure, same]
        exact .notApplied ofWindow
  | delete window key =>
      simp only [answer, ofCompositor]
      split
      next deleted => exact .deleted (StyleFiles.delete_eq_ok deleted)
      next => exact .kept (.inl rfl)

theorem tree_answer_openLayer (mounts : Mounts γ) (window : WindowId) (name : String) :
    (mounts.answer (.openLayer window name)).2.tree = mounts.tree := by
  simp only [answer, ofCompositor]
  split <;> rfl

/-! ### Histories -/

/-- The tree is sound, and layers were opened only where the styles were found. -/
structure IsSteady (mounts : Mounts γ) : Prop where
  sound : mounts.tree.IsSound
  found : 0 < mounts.layers.size → (mounts.tree.way? mounts.styles.root).isSome = true

variable {mounts after : Mounts γ} {call : Call} {reply : Reply}

theorem way?_of_openLayer {files : StyleFiles} {tree : FileTree} {window : WindowId}
    {layer : FileLayer} (opens : files.openLayer tree window = .ok layer) :
    (tree.way? files.root).isSome = true := by
  unfold StyleFiles.openLayer FileTree.exists? at opens
  cases found : tree.find files.root with
  | error error => cases error <;> simp [found] at opens
  | ok node =>
      obtain ⟨place, leads, _⟩ := FileTree.find_eq_ok_iff.mp found
      exact FileTree.isSome_way?_of_place leads

theorem IsSteady.answered (steady : mounts.IsSteady) (answered : Answered mounts call reply after) :
    after.IsSteady := by
  cases answered with
  | kept => exact ⟨steady.sound, steady.found⟩
  | opened opens => exact ⟨steady.sound, fun _ => way?_of_openLayer opens⟩
  | notApplied => exact ⟨steady.sound, fun some_held => steady.found (by simpa using some_held)⟩
  | applied _ written =>
      obtain ⟨file, _, _, rfl⟩ := written
      exact ⟨steady.sound.setContent file _,
        fun some_held => steady.found (by simpa using some_held)⟩
  | deleted written =>
      obtain ⟨file, _, _, rfl⟩ := written
      exact ⟨steady.sound.setContent file _, steady.found⟩

theorem Reachable.isSteady {highlighter : Highlighter γ}
    (reachable : Reachable highlighter mounts) : mounts.IsSteady := by
  induction reachable with
  | start sound => exact ⟨sound, fun some_held => absurd some_held (by simp [ofHighlighter])⟩
  | called _ _ steady => exact steady.answered (answered _ _)
  | changed _ sound ways steady =>
      refine ⟨sound, fun some_held => ?_⟩
      rw [ways]
      exact steady.found some_held

/-! ### What a call writes -/

theorem layer_setIfInBounds (mounts : Mounts γ) {key : LayerKey} (held : key < mounts.layers.size)
    (layer : FileLayer) (tree : FileTree) :
    ({ mounts with tree := tree, layers := mounts.layers.setIfInBounds key layer } : Mounts γ).layer
      key = layer := by
  simp [Mounts.layer, held]

theorem Answered.writes (answered : Answered mounts call reply after) (steady : mounts.IsSteady)
    (held : mounts.Holds call) :
    (after.tree = mounts.tree ∧ (reply.isFailure = true ∨ call.file? = none)) ∨
      reply.isFailure = false ∧ ∃ key name, call.layer? = some key ∧
        call.file? = some (key, name) ∧ (after.layer key).window = (mounts.layer key).window ∧
        mounts.styles.WritesOnly (after.layer key) name mounts.tree after.tree := by
  cases answered with
  | kept why => exact .inl ⟨rfl, why⟩
  | opened => exact .inl ⟨rfl, .inr rfl⟩
  | notApplied => exact .inl ⟨rfl, .inl rfl⟩
  | @applied window key spans tree layer ofWindow written =>
      have bound : key < mounts.layers.size := held key rfl
      refine .inr ⟨rfl, key, "style", rfl, rfl, ?_⟩
      rw [layer_setIfInBounds mounts bound]
      exact ⟨ofWindow, written.writesOnly steady.sound (steady.found (Nat.zero_lt_of_lt bound))
        (by decide)⟩
  | @deleted window key tree written =>
      have bound : key < mounts.layers.size := held key rfl
      exact .inr ⟨rfl, key, "ctl", rfl, rfl, rfl,
        written.writesOnly steady.sound (steady.found (Nat.zero_lt_of_lt bound)) (by decide)⟩

theorem filePlace_ne {layer : FileLayer} {other : WindowId} (different : other ≠ layer.window)
    (home below : Place) (name : String) :
    home ++ toString other :: below ≠ StyleFiles.filePlace home layer name := by
  intro same
  have windows := List.append_cancel_left same
  injection windows with first _
  exact different (Text.toString_injective first)

/-- Whatever was called before and however others changed the tree, a call neither creates nor
removes a place. A call that fails changes nothing, and one that succeeds changes the one file of
its layer that it is to write, if it is to write any. So nothing changes in the directory of
another window than the layer's own. -/
theorem calls_write_own_layer_only (highlighter : Highlighter γ) (mounts : Mounts γ)
    (reachable : Reachable highlighter mounts) (call : Call) (held : mounts.Holds call)
    (reply : Reply) (after : Mounts γ) (answer : mounts.answer call = (reply, after)) :
    (∀ place, after.tree.node? place = mounts.tree.node? place) ∧
      (reply.isFailure = true → after.tree = mounts.tree) ∧
      (call.file? = none → after.tree = mounts.tree) ∧
      (∀ key name, call.file? = some (key, name) → reply.isFailure = false →
        (after.layer key).window = (mounts.layer key).window ∧
          mounts.styles.WritesOnly (after.layer key) name mounts.tree after.tree) ∧
      ∀ key, call.layer? = some key → ∀ home, mounts.tree.place mounts.styles.root = .ok home →
        ∀ other, other ≠ (mounts.layer key).window → ∀ below,
          after.tree.standing? (home ++ toString other :: below) =
            mounts.tree.standing? (home ++ toString other :: below) := by
  have answered := answered mounts call
  rw [answer] at answered
  rcases answered.writes reachable.isSteady held with
    ⟨same, why⟩ | ⟨success, key, name, layer, file, window, written⟩
  · refine ⟨fun place => by rw [same], fun _ => same, fun _ => same, ?_, ?_⟩
    · intro key name file success
      simp [success, file] at why
    · intro _ _ _ _ _ _ _
      rw [same]
  · have writtenThere := written
    obtain ⟨home, atRoot, except⟩ := writtenThere
    refine ⟨except.nodes, by simp [success], by simp [file], ?_, ?_⟩
    · intro other otherName sameFile _
      cases file.symm.trans sameFile
      exact ⟨window, written⟩
    · intro other sameLayer home' alsoAtRoot otherWindow different below
      cases layer.symm.trans sameLayer
      cases atRoot.symm.trans alsoAtRoot
      rw [← window] at different
      exact except.entries _ (filePlace_ne different home below name)

def belowT : Highlighter Grammar :=
  ⟨⟨.ofLanguages [], .builtin, .default⟩, .empty, ⟨"/t/acme"⟩, ⟨"/t/styles"⟩⟩

def oneLayer (number : UInt32) : FileTree :=
  .ofEntries "/t" [("styles/3/layers/new", some (Utf8.encode (toString number).toList)),
    ("styles/3/layers/" ++ toString number ++ "/style", some [])]

theorem isSound_oneLayer (number : UInt32) : (oneLayer number).IsSound :=
  FileTree.isSound_ofEntries (by decide) _

def layerOpened : Mounts Grammar :=
  ((ofHighlighter belowT (oneLayer 7)).answer (.openLayer 3 "treesitter")).2

def layerLost : Mounts Grammar :=
  { layerOpened with tree := oneLayer 8 }

theorem tree_layerOpened : layerOpened.tree = oneLayer 7 :=
  tree_answer_openLayer _ _ _

theorem reachable_layerLost : Reachable belowT layerLost := by
  have opened : Reachable belowT layerOpened :=
    .called (.start (isSound_oneLayer 7)) fun key on_layer => by cases on_layer
  refine .changed opened (isSound_oneLayer 8) fun path => ?_
  rw [tree_layerOpened]
  exact (FileTree.way?_putAll _ _ path).trans (FileTree.way?_putAll _ _ path).symm

theorem calls_write_own_layer_only_layerLost :
    (layerLost.answer (.apply 3 0 [⟨3, 0, 3⟩])).1 = .done ∧
      (layerLost.answer (.apply 3 0 [⟨3, 0, 3⟩])).2.layer 0 = ⟨3, 8⟩ ∧
      layerLost.styles.WritesOnly ⟨3, 8⟩ "style" layerLost.tree
        (layerLost.answer (.apply 3 0 [⟨3, 0, 3⟩])).2.tree := by
  have done : (layerLost.answer (.apply 3 0 [⟨3, 0, 3⟩])).1 = .done := by decide +kernel
  have anew : (layerLost.answer (.apply 3 0 [⟨3, 0, 3⟩])).2.layer 0 = ⟨3, 8⟩ := by decide +kernel
  have held : layerLost.Holds (.apply 3 0 [⟨3, 0, 3⟩]) := by
    intro key on_layer
    cases on_layer
    decide +kernel
  have success : (layerLost.answer (.apply 3 0 [⟨3, 0, 3⟩])).1.isFailure = false := by
    rw [done]
    rfl
  have framed := calls_write_own_layer_only belowT layerLost reachable_layerLost
    (.apply 3 0 [⟨3, 0, 3⟩]) held _ _ (Prod.eta _).symm
  have wrote := (framed.2.2.2.1 0 "style" rfl success).2
  rw [anew] at wrote
  exact ⟨done, anew, wrote⟩

end Mounts
end LiveHighlight

import LiveHighlight.Proofs.Annotation.Comments
import LiveHighlight.Proofs.Files.Lines
import LiveHighlight.Proofs.Mounts.Frame

/-!
A window with a script, in a file tree.

The body, the log, the allocation and the style file of such a window are four files, so that a
style that is written leaves what the session reads. Hence every call of the session is answered in
the same way whatever it has written before.
-/

namespace LiveHighlight

open LiveHighlight.Path (IsName)

/-- A window whose body is a script and whose log is a text, with the layer that is to be handed
out for it. -/
structure ScriptWindow (editor : EditorFiles) (styles : StyleFiles) (window : WindowId)
    (lines : List ScriptLine) (number : UInt32) (log style : FileKey) (tree : FileTree) : Prop where
  sound : tree.IsSound
  body : tree.read (editor.bodyPath window) = .ok (Utf8.encode (ScriptLine.script lines))
  log_opens : tree.openFile .reading (editor.editsPath window) = .ok log
  log_text : ∃ text, tree.content log = Utf8.encode text
  mounted : tree.exists? styles.root = .ok true
  allocation : ∃ text, tree.readText (styles.allocationPath window) = .ok text ∧
    Text.u32? (Text.trim text.toList) = some number
  style_opens : tree.openFile .writing (styles.layerPath ⟨window, number⟩ "style") = .ok style

namespace ScriptWindow

variable {editor : EditorFiles} {styles : StyleFiles} {window : WindowId}
  {lines : List ScriptLine} {number : UInt32} {log style : FileKey} {tree : FileTree}

/-! ### The files of the window -/

theorem join_ne_empty {base name : String} (isName : IsName name) : Path.join base name ≠ "" := by
  by_cases nonempty : base = ""
  · have alone : Path.join base name = name := by simp [Path.join, nonempty]
    rw [alone]
    exact isName.nonempty
  · obtain ⟨stem, _, joined⟩ := Path.toList_join nonempty isName
    intro empty
    rw [empty] at joined
    simp at joined

theorem joinAll_ne_empty (base : String) (names : List String) {name : String}
    (isName : IsName name) : Path.joinAll base (names ++ [name]) ≠ "" := by
  rw [Path.joinAll, List.foldl_append]
  exact join_ne_empty isName

theorem allocationPath_eq (styles : StyleFiles) (window : WindowId) :
    styles.allocationPath window =
      Path.join (Path.joinAll styles.root [toString window, "layers"]) "new" := by
  simp only [StyleFiles.allocationPath, Path.joinAll, List.foldl_cons, List.foldl_nil]

theorem layerPath_eq (styles : StyleFiles) (layer : FileLayer) (name : String) :
    styles.layerPath layer name =
      Path.join (Path.joinAll styles.root [toString layer.window, "layers", toString layer.id])
        name := by
  simp only [StyleFiles.layerPath, Path.joinAll, List.foldl_cons, List.foldl_nil]

theorem windowPath_ne_empty (editor : EditorFiles) (window : WindowId) :
    editor.windowPath window ≠ "" :=
  join_ne_empty (Path.isName_toString window)

theorem style_ne (script : ScriptWindow editor styles window lines number log style tree)
    {base name : String} (nonempty : base ≠ "") (isName : IsName name) (different : name ≠ "style")
    {key : FileKey} (found : tree.find (Path.join base name) = .ok (.file key)) :
    key ≠ style := by
  have layerFound := FileTree.find_of_openFile script.style_opens
  rw [layerPath_eq] at layerFound
  have layer : Path.joinAll styles.root [toString window, "layers", toString number] ≠ "" :=
    joinAll_ne_empty styles.root [toString window, "layers"] (Path.isName_toString number)
  exact script.sound.key_ne nonempty layer isName (by decide) different found layerFound

theorem log_ne_style (script : ScriptWindow editor styles window lines number log style tree) :
    log ≠ style :=
  script.style_ne (windowPath_ne_empty editor window) (by decide) (by decide)
    (FileTree.find_of_openFile script.log_opens)

theorem setContent (script : ScriptWindow editor styles window lines number log style tree)
    (bytes : Utf8.Bytes) :
    ScriptWindow editor styles window lines number log style (tree.setContent style bytes) where
  sound := script.sound.setContent style bytes
  body := by
    have kept : (tree.setContent style bytes).read (editor.bodyPath window) =
        tree.read (editor.bodyPath window) :=
      FileTree.read_setContent bytes fun key =>
        script.style_ne (windowPath_ne_empty editor window) (by decide) (by decide)
    rw [kept]
    exact script.body
  log_opens := by
    rw [FileTree.openFile_setContent]
    exact script.log_opens
  log_text := by
    rw [FileTree.content_setContent_other tree bytes script.log_ne_style]
    exact script.log_text
  mounted := by
    rw [FileTree.exists?, FileTree.find_setContent]
    exact script.mounted
  allocation := by
    have nonempty : Path.joinAll styles.root [toString window, "layers"] ≠ "" :=
      joinAll_ne_empty styles.root [toString window] (by decide)
    have told := script.allocation
    rw [allocationPath_eq] at told ⊢
    have kept := FileTree.read_setContent bytes fun key =>
      script.style_ne nonempty (show IsName "new" by decide) (by decide)
    rw [FileTree.readText, kept]
    exact told
  style_opens := by
    rw [FileTree.openFile_setContent]
    exact script.style_opens

/-! ### What the editor and the compositor tell of it -/

theorem openWindow (script : ScriptWindow editor styles window lines number log style tree) :
    editor.openWindow tree window = .ok () := by
  obtain ⟨place, leads, stands⟩ :=
    FileTree.find_eq_ok_iff.mp (FileTree.find_of_openFile script.log_opens)
  have below : place ≠ [] := by
    rintro rfl
    cases stands
  obtain ⟨above, reached, directory, _⟩ := FileTree.place_of_join script.sound.rooted
    (windowPath_ne_empty editor window) (by decide) leads below
  have found : tree.find (editor.windowPath window) = .ok .directory :=
    FileTree.find_eq_ok_iff.mpr ⟨above, reached, directory⟩
  unfold EditorFiles.openWindow
  rw [found]

theorem subscribe (script : ScriptWindow editor styles window lines number log style tree) :
    editor.subscribe tree window = .ok (.ofFile log) := by
  have opens := FileTree.openNode_file_iff.mpr (FileTree.openFile_eq_ok_iff.mp script.log_opens)
  unfold EditorFiles.subscribe
  rw [opens]
  rfl

theorem readText (script : ScriptWindow editor styles window lines number log style tree) :
    editor.readText tree window = .ok (Utf8.encode (ScriptLine.script lines)) := by
  rw [EditorFiles.readText, script.body]
  rfl

theorem openLayer (script : ScriptWindow editor styles window lines number log style tree) :
    styles.openLayer tree window = .ok ⟨window, number⟩ := by
  obtain ⟨text, content, told⟩ := script.allocation
  have allocated : styles.allocate tree window = .ok number := by
    unfold StyleFiles.allocate
    extract_lets path
    rw [content]
    simp only [told]
  unfold StyleFiles.openLayer
  rw [script.mounted, allocated]
  rfl

theorem apply (script : ScriptWindow editor styles window lines number log style tree)
    (spans : List Span) :
    styles.apply tree ⟨window, number⟩ spans =
      ⟨.ok (), ⟨window, number⟩, tree.setContent style (StyleFiles.styleBytes spans)⟩ := by
  unfold StyleFiles.apply StyleFiles.applyOn
  rw [StyleFiles.writeStyle_of_opened script.style_opens]

end ScriptWindow

/-! ### Sessions on scripts -/

/-- A session that is to style a script: its highlighter takes the window's name for bash and has a
query for it, and the tree has the window's files and a layer. -/
structure ScriptStage (γ : Type) [ParserLibrary γ] where
  highlighter : Highlighter γ
  grammar : γ
  query : String
  window : Window
  lines : List ScriptLine
  number : UInt32
  log : FileKey
  style : FileKey
  tree : FileTree
  resolves : highlighter.setup.resolver.ofFilename? window.name = some "bash"
  registered : highlighter.annotator.entry? "bash" = some (.ofText "bash" grammar query)
  script : ScriptWindow highlighter.editor highlighter.styles window.id lines number log style tree

namespace ScriptStage

variable {γ : Type} [ParserLibrary γ]

def body (stage : ScriptStage γ) : Utf8.Bytes :=
  Utf8.encode (ScriptLine.script stage.lines)

def captures (stage : ScriptStage γ) : List Capture :=
  stage.highlighter.annotator.annotate "bash" stage.body

def spans (stage : ScriptStage γ) : List Span :=
  compose stage.captures stage.body stage.highlighter.setup.styles

theorem spans_eq (stage : ScriptStage γ) (law : CapturesComments stage.grammar stage.query) :
    stage.spans = ScriptLine.styled stage.highlighter.setup.styles stage.lines :=
  compose_script (law.annotate stage.registered stage.lines) _

def written (stage : ScriptStage γ) : FileTree :=
  stage.tree.setContent stage.style (StyleFiles.styleBytes stage.spans)

def layer (stage : ScriptStage γ) : FileLayer :=
  ⟨stage.window.id, stage.number⟩

/-- Mounts of the stage, with what is on its tree before or after the spans are written. -/
structure Hosts (stage : ScriptStage γ) (mounts : Mounts γ) : Prop where
  editor : mounts.editor = stage.highlighter.editor
  styles : mounts.styles = stage.highlighter.styles
  annotator : mounts.annotator = stage.highlighter.annotator
  tree : mounts.tree = stage.tree ∨ mounts.tree = stage.written

variable {stage : ScriptStage γ} {mounts : Mounts γ}

theorem hosts_start (stage : ScriptStage γ) :
    stage.Hosts (.ofHighlighter stage.highlighter stage.tree) :=
  ⟨rfl, rfl, rfl, .inl rfl⟩

namespace Hosts

theorem script (hosts : stage.Hosts mounts) :
    ScriptWindow stage.highlighter.editor stage.highlighter.styles stage.window.id stage.lines
      stage.number stage.log stage.style mounts.tree := by
  rcases hosts.tree with same | same
  · rw [same]
    exact stage.script
  · rw [same]
    exact stage.script.setContent _

theorem setContent_spans (hosts : stage.Hosts mounts) :
    mounts.tree.setContent stage.style (StyleFiles.styleBytes stage.spans) = stage.written := by
  rcases hosts.tree with same | same
  · rw [same]
    rfl
  · rw [same, written, FileTree.setContent_setContent]

theorem content_log (hosts : stage.Hosts mounts) :
    mounts.tree.content stage.log = stage.tree.content stage.log := by
  rcases hosts.tree with same | same
  · rw [same]
  · rw [same, written, FileTree.content_setContent_other _ _ stage.script.log_ne_style]

theorem answer_openWindow (hosts : stage.Hosts mounts) :
    mounts.answer (.openWindow stage.window.id) = (.opened, mounts) := by
  simp only [Mounts.answer, Mounts.ofEditor, hosts.editor, hosts.script.openWindow]

theorem answer_subscribe (hosts : stage.Hosts mounts) :
    mounts.answer (.subscribe stage.window.id) = (.subscribed mounts.streams.size,
      { mounts with streams := mounts.streams.push ⟨stage.window.id, .ofFile stage.log⟩ }) := by
  simp only [Mounts.answer, Mounts.ofEditor, hosts.editor, hosts.script.subscribe,
    Mounts.subscribed, Mounts.addStream]

theorem answer_openLayer (hosts : stage.Hosts mounts) (name : String) :
    mounts.answer (.openLayer stage.window.id name) = (.layer mounts.layers.size,
      { mounts with layers := mounts.layers.push stage.layer }) := by
  simp only [Mounts.answer, Mounts.ofCompositor, hosts.styles, hosts.script.openLayer, layer]

theorem answer_readText (hosts : stage.Hosts mounts) :
    mounts.answer (.readText stage.window.id) = (.text stage.body, mounts) := by
  simp only [Mounts.answer, Mounts.ofEditor, hosts.editor, hosts.script.readText, body]

theorem answer_annotate (hosts : stage.Hosts mounts) :
    mounts.answer (.annotate stage.window.id "bash" stage.body) =
      (.captures stage.captures, mounts) := by
  rw [Mounts.answer, hosts.annotator, captures]

theorem answer_apply (hosts : stage.Hosts mounts) {key : LayerKey}
    (held : mounts.layers[key]? = some stage.layer) :
    mounts.answer (.apply stage.window.id key stage.spans) =
      (.done, { mounts with tree := stage.written }) := by
  have layer : mounts.layer key = stage.layer := by rw [Mounts.layer, held]; rfl
  have same : mounts.layers.setIfInBounds key stage.layer = mounts.layers := by
    obtain ⟨bound, stands⟩ := Array.getElem?_eq_some_iff.mp held
    rw [Array.setIfInBounds, dif_pos bound, ← stands, Array.set_getElem_self]
  have applied : stage.highlighter.styles.apply mounts.tree stage.layer stage.spans =
      ⟨.ok (), stage.layer, stage.written⟩ := by
    rw [← hosts.setContent_spans]
    exact hosts.script.apply stage.spans
  simp only [Mounts.answer, Mounts.ofCompositor, layer, hosts.styles, applied, same]

theorem answer_clear (mounts : Mounts γ) (window : WindowId) (key : LayerKey) :
    ∃ reply, mounts.answer (.clear window key) = (reply, mounts) ∧
      (Session.Answer.reply reply).settlesCleanup = true := by
  simp only [Mounts.answer, Mounts.ofCompositor]
  split
  next => exact ⟨.done, rfl, rfl⟩
  next error _ => exact ⟨.compositorFailed error, rfl, rfl⟩

end Hosts
end ScriptStage
end LiveHighlight

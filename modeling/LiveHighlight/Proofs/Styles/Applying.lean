import LiveHighlight.Proofs.Files.Writing
import LiveHighlight.StyleFiles

/-!
What becomes of spans that are applied to a layer.

The style file is written, and where it is missing a number is allocated and the style file of the
fresh layer is written. There are five courses that this can take; which of them it takes tells the
result, the layer and the tree. A file may be there and not be opened, and the storage may fail to
take what is written.
-/

namespace LiveHighlight.StyleFiles

open Utf8 (Bytes)

variable {files : StyleFiles} {storage : Storage} {tree : FileTree} {layer : FileLayer}
  {spans : List Span}

/-! ### Styles and numbers -/

def styleBytes (spans : List Span) : Bytes :=
  Utf8.encode (Span.encode spans).toList

/-- The style of a layer is a regular file, can be opened for writing and takes the spans. -/
def TakesStyle (files : StyleFiles) (storage : Storage) (tree : FileTree) (layer : FileLayer)
    (spans : List Span) : Prop :=
  ∃ key, tree.openFile .writing (files.layerPath layer "style") = .ok key ∧
    storage.fill key (styleBytes spans) = .ok ()

def StyleFails (files : StyleFiles) (storage : Storage) (tree : FileTree) (layer : FileLayer)
    (spans : List Span) (cause : FileError) : Prop :=
  tree.openFile .writing (files.layerPath layer "style") = .error cause ∨
    ∃ key failure, tree.openFile .writing (files.layerPath layer "style") = .ok key ∧
      storage.fill key (styleBytes spans) = .error failure ∧ cause = .other failure.cause

def StyleMissing (files : StyleFiles) (tree : FileTree) (layer : FileLayer) : Prop :=
  tree.find (files.layerPath layer "style") = .error .missing

/-- What a write that failed has left: only in a file that it has opened is anything else. -/
def Leaves (files : StyleFiles) (storage : Storage) (tree : FileTree) (layer : FileLayer)
    (spans : List Span) (after : FileTree) : Prop :=
  after = tree ∨
    ∃ key failure, tree.openFile .writing (files.layerPath layer "style") = .ok key ∧
      storage.fill key (styleBytes spans) = .error failure ∧
      after = tree.setContent key failure.left

def HandsText (files : StyleFiles) (tree : FileTree) (window : WindowId) (text : String) : Prop :=
  tree.readText (files.allocationPath window) = .ok text

def Hands (files : StyleFiles) (tree : FileTree) (window : WindowId) (id : UInt32) : Prop :=
  ∃ text, files.HandsText tree window text ∧ Text.u32? (Text.trim text.toList) = some id

def HandsNothing (files : StyleFiles) (tree : FileTree) (window : WindowId) (cause : FileError) :
    Prop :=
  tree.readText (files.allocationPath window) = .error cause

theorem styleFails_missing_iff :
    files.StyleFails storage tree layer spans .missing ↔ files.StyleMissing tree layer := by
  simp [StyleFails, StyleMissing, FileTree.openFile_missing_iff]

theorem writeStyle_cases (files : StyleFiles) (storage : Storage) (sound : tree.IsSound)
    (layer : FileLayer) (spans : List Span) :
    (∃ key, tree.openFile .writing (files.layerPath layer "style") = .ok key ∧
      storage.fill key (styleBytes spans) = .ok () ∧
      (files.writeStyle storage layer spans).runOn tree =
        (.ok (), tree.setContent key (styleBytes spans))) ∨
    ∃ cause after, files.StyleFails storage tree layer spans cause ∧
      files.Leaves storage tree layer spans after ∧ (cause = .missing → after = tree) ∧
      (files.writeStyle storage layer spans).runOn tree = (.error cause, after) := by
  unfold writeStyle
  cases opens : tree.openFile .writing (files.layerPath layer "style") with
  | error cause =>
      exact .inr ⟨cause, tree, .inl opens, .inl rfl, fun _ => rfl,
        FileWork.runOn_replace_of_refused opens storage _⟩
  | ok key =>
      obtain ⟨place, _, stands⟩ := FileTree.find_eq_ok_iff.mp (FileTree.find_of_openFile opens)
      have ran := FileWork.runOn_replace_of_opened opens (sound.kept place key stands) storage
        (styleBytes spans)
      cases filled : storage.fill key (styleBytes spans) with
      | ok done =>
          rw [filled] at ran
          exact .inl ⟨key, rfl, filled, ran⟩
      | error failure =>
          rw [filled] at ran
          exact .inr ⟨_, _, .inr ⟨key, failure, opens, filled, rfl⟩,
            .inr ⟨key, failure, opens, filled, rfl⟩, by simp, ran⟩

theorem allocate_eq_ok_iff {window : WindowId} {id : UInt32} :
    files.allocate tree window = .ok id ↔ files.Hands tree window id := by
  unfold allocate Hands HandsText
  dsimp only
  cases tree.readText (files.allocationPath window) with
  | error cause => cases cause <;> simp
  | ok text => cases parsed : Text.u32? (Text.trim text.toList) <;> simp [parsed]

def unreadable (files : StyleFiles) (window : WindowId) (text : String) : String :=
  let quoted := Text.quoted (String.ofList (Text.trim text.toList))
  s!"layer id {quoted} from {files.allocationPath window}"

theorem allocate_eq_error_iff {window : WindowId} {error : CompositorError} :
    files.allocate tree window = .error error ↔
      (error = .absent window ∧ files.HandsNothing tree window .missing) ∨
      (∃ cause, cause ≠ .missing ∧ error = .io cause.message ∧
        files.HandsNothing tree window cause) ∨
      ∃ text, files.HandsText tree window text ∧ Text.u32? (Text.trim text.toList) = none ∧
        error = .malformed (files.unreadable window text) := by
  unfold allocate HandsNothing HandsText unreadable
  dsimp only
  cases tree.readText (files.allocationPath window) with
  | error cause => cases cause <;> simp [ioError, eq_comm]
  | ok text => cases parsed : Text.u32? (Text.trim text.toList) <;> simp [parsed, eq_comm]

/-! ### The accesses -/

inductive Access where
  | write (layer : FileLayer)
  | allocate
  deriving DecidableEq, Repr

structure Ledger where
  tree : FileTree
  accesses : List Access

def recordWrite (files : StyleFiles) (storage : Storage) (spans : List Span) (layer : FileLayer) :
    StateM Ledger (Except FileError Unit) := fun ledger =>
  let (result, tree) := (files.writeStyle storage layer spans).runOn ledger.tree
  (result, ⟨tree, ledger.accesses ++ [.write layer]⟩)

def recordAllocate (files : StyleFiles) (window : WindowId) :
    StateM Ledger (Except CompositorError UInt32) := fun ledger =>
  (files.allocate ledger.tree window, ⟨ledger.tree, ledger.accesses ++ [.allocate]⟩)

/-- Applying step by step, with every access recorded. -/
def applyRecorded (files : StyleFiles) (storage : Storage) (layer : FileLayer)
    (spans : List Span) : StateM Ledger (Except CompositorError Unit × FileLayer) := do
  match ← files.recordWrite storage spans layer with
  | .ok () => return (.ok (), layer)
  | .error .missing =>
    match ← files.recordAllocate layer.window with
    | .error error => return (.error error, layer)
    | .ok id =>
      let fresh : FileLayer := { layer with id := id }
      match ← files.recordWrite storage spans fresh with
      | .ok () => return (.ok (), fresh)
      | .error error => return (.error (layerError fresh error), fresh)
  | .error error => return (.error (ioError error), layer)

/-! ### The courses -/

/-- What applying can come to, with the accesses it has made by then. -/
inductive Course (files : StyleFiles) (storage : Storage) (tree : FileTree) (layer : FileLayer)
    (spans : List Span) : Applied → List Access → Prop
  | written {key : FileKey}
      (opens : tree.openFile .writing (files.layerPath layer "style") = .ok key)
      (fills : storage.fill key (styleBytes spans) = .ok ()) :
      Course files storage tree layer spans
        ⟨.ok (), layer, tree.setContent key (styleBytes spans)⟩ [.write layer]
  | failed {cause : FileError} {after : FileTree}
      (fails : files.StyleFails storage tree layer spans cause) (notMissing : cause ≠ .missing)
      (leaves : files.Leaves storage tree layer spans after) :
      Course files storage tree layer spans ⟨.error (ioError cause), layer, after⟩ [.write layer]
  | notAllocated {error : CompositorError} (missing : files.StyleMissing tree layer)
      (refused : files.allocate tree layer.window = .error error) :
      Course files storage tree layer spans ⟨.error error, layer, tree⟩ [.write layer, .allocate]
  | writtenAnew {id : UInt32} {key : FileKey} (missing : files.StyleMissing tree layer)
      (hands : files.Hands tree layer.window id)
      (opens : tree.openFile .writing (files.layerPath ⟨layer.window, id⟩ "style") = .ok key)
      (fills : storage.fill key (styleBytes spans) = .ok ()) :
      Course files storage tree layer spans
        ⟨.ok (), ⟨layer.window, id⟩, tree.setContent key (styleBytes spans)⟩
        [.write layer, .allocate, .write ⟨layer.window, id⟩]
  | failedAnew {id : UInt32} {cause : FileError} {after : FileTree}
      (missing : files.StyleMissing tree layer) (hands : files.Hands tree layer.window id)
      (fails : files.StyleFails storage tree ⟨layer.window, id⟩ spans cause)
      (leaves : files.Leaves storage tree ⟨layer.window, id⟩ spans after) :
      Course files storage tree layer spans
        ⟨.error (layerError ⟨layer.window, id⟩ cause), ⟨layer.window, id⟩, after⟩
        [.write layer, .allocate, .write ⟨layer.window, id⟩]

theorem recordWrite_eq {result : Except FileError Unit} {after : FileTree}
    (ran : (files.writeStyle storage layer spans).runOn tree = (result, after))
    (accesses : List Access) :
    files.recordWrite storage spans layer ⟨tree, accesses⟩ =
      (result, ⟨after, accesses ++ [.write layer]⟩) := by
  unfold recordWrite
  dsimp only
  rw [ran]

theorem recordAllocate_eq (files : StyleFiles) (window : WindowId) (accesses : List Access) :
    files.recordAllocate window ⟨tree, accesses⟩ =
      (files.allocate tree window, ⟨tree, accesses ++ [.allocate]⟩) := rfl

theorem bind_run {α β : Type} {first : StateM Ledger α} {rest : α → StateM Ledger β}
    {before after : Ledger} {value : α} (ran : first before = (value, after)) :
    (first >>= rest) before = rest value after := by
  show StateT.bind first rest before = rest value after
  unfold StateT.bind
  rw [ran]
  rfl

def Follows (files : StyleFiles) (storage : Storage) (tree : FileTree) (layer : FileLayer)
    (spans : List Span) (applied : Applied) : Prop :=
  ∃ accesses, files.applyRecorded storage layer spans ⟨tree, []⟩ =
      ((applied.result, applied.layer), ⟨applied.tree, accesses⟩) ∧
    Course files storage tree layer spans applied accesses

theorem follows_apply (files : StyleFiles) (storage : Storage) (sound : tree.IsSound)
    (layer : FileLayer) (spans : List Span) :
    Follows files storage tree layer spans (files.applyOn storage tree layer spans) := by
  unfold Follows applyRecorded applyOn
  rcases files.writeStyle_cases storage sound layer spans with
    ⟨key, opens, fills, ran⟩ | ⟨cause, after, fails, leaves, untouched, ran⟩
  · rw [ran, bind_run (recordWrite_eq ran [])]
    exact ⟨_, rfl, .written opens fills⟩
  · rw [ran, bind_run (recordWrite_eq ran [])]
    cases cause with
    | blocked | isDirectory | notText | other =>
        exact ⟨_, rfl, .failed fails (by simp) leaves⟩
    | missing =>
        obtain rfl := untouched rfl
        have missing := styleFails_missing_iff.mp fails
        dsimp only
        rw [bind_run (recordAllocate_eq files layer.window _)]
        cases allocation : files.allocate after layer.window with
        | error error => exact ⟨_, rfl, .notAllocated missing allocation⟩
        | ok id =>
            have hands := allocate_eq_ok_iff.mp allocation
            dsimp only
            rcases files.writeStyle_cases storage sound ⟨layer.window, id⟩ spans with
              ⟨key, opens, fills, ran⟩ | ⟨cause, left, fails, leaves, _, ran⟩
            · rw [ran, bind_run (recordWrite_eq ran _)]
              exact ⟨_, rfl, .writtenAnew missing hands opens fills⟩
            · rw [ran, bind_run (recordWrite_eq ran _)]
              exact ⟨_, rfl, .failedAnew missing hands fails leaves⟩

/-! ### What the courses tell -/

/-- The cause that an error tells. Where a fresh layer is gone too, it tells that one. -/
def Causes (files : StyleFiles) (storage : Storage) (tree : FileTree) (layer : FileLayer)
    (spans : List Span) : CompositorError → Prop
  | .absent window => window = layer.window ∧ files.StyleMissing tree layer ∧
      files.HandsNothing tree layer.window .missing
  | .malformed detail => files.StyleMissing tree layer ∧
      ∃ text, files.HandsText tree layer.window text ∧
        Text.u32? (Text.trim text.toList) = none ∧ detail = files.unreadable layer.window text
  | .layerGone id => files.StyleMissing tree layer ∧ files.Hands tree layer.window id ∧
      files.StyleMissing tree ⟨layer.window, id⟩
  | .io message => ∃ cause, cause ≠ .missing ∧ message = cause.message ∧
      (files.StyleFails storage tree layer spans cause ∨ files.StyleMissing tree layer ∧
        (files.HandsNothing tree layer.window cause ∨
          ∃ id, files.Hands tree layer.window id ∧
            files.StyleFails storage tree ⟨layer.window, id⟩ spans cause))

theorem StyleFails.not_takesStyle {cause : FileError}
    (fails : files.StyleFails storage tree layer spans cause) :
    ¬files.TakesStyle storage tree layer spans := by
  rintro ⟨key, opens, fills⟩
  rcases fails with refused | ⟨found, failure, same, short, _⟩
  · cases refused.symm.trans opens
  · cases same.symm.trans opens
    cases short.symm.trans fills

theorem StyleFails.cause_eq_iff {cause other : FileError}
    (fails : files.StyleFails storage tree layer spans cause) :
    files.StyleFails storage tree layer spans other ↔ cause = other := by
  refine ⟨fun too => ?_, fun same => same ▸ fails⟩
  rcases fails with refused | ⟨key, failure, opens, short, rfl⟩
  · rcases too with again | ⟨found, _, opens, _⟩
    · cases refused.symm.trans again
      rfl
    · cases refused.symm.trans opens
  · rcases too with refused | ⟨found, otherwise, same, again, rfl⟩
    · cases refused.symm.trans opens
    · cases same.symm.trans opens
      cases again.symm.trans short
      rfl

theorem StyleMissing.fails (missing : files.StyleMissing tree layer) (storage : Storage)
    (spans : List Span) : files.StyleFails storage tree layer spans .missing :=
  styleFails_missing_iff.mpr missing

theorem StyleMissing.not_takesStyle (missing : files.StyleMissing tree layer) :
    ¬files.TakesStyle storage tree layer spans :=
  (missing.fails storage spans).not_takesStyle

theorem StyleFails.styleMissing_iff {cause : FileError}
    (fails : files.StyleFails storage tree layer spans cause) :
    files.StyleMissing tree layer ↔ cause = .missing := by
  rw [← styleFails_missing_iff, fails.cause_eq_iff]

theorem not_styleMissing_of_opens {key : FileKey}
    (opens : tree.openFile .writing (files.layerPath layer "style") = .ok key) :
    ¬files.StyleMissing tree layer := by
  intro missing
  cases (FileTree.find_of_openFile opens).symm.trans missing

theorem Hands.id_eq_iff {window : WindowId} {id other : UInt32}
    (hands : files.Hands tree window id) : files.Hands tree window other ↔ id = other := by
  rw [← allocate_eq_ok_iff] at *
  simp [hands]

variable {applied : Applied} {accesses : List Access}

theorem Course.result_eq_ok_iff (course : files.Course storage tree layer spans applied accesses) :
    applied.result = .ok () ↔ files.TakesStyle storage tree layer spans ∨
      files.StyleMissing tree layer ∧ ∃ id, files.Hands tree layer.window id ∧
        files.TakesStyle storage tree ⟨layer.window, id⟩ spans := by
  cases course with
  | written opens fills => simp [TakesStyle, opens, fills]
  | failed fails notMissing => simp [fails.not_takesStyle, fails.styleMissing_iff, notMissing]
  | notAllocated missing refused =>
      simp [missing.not_takesStyle, ← allocate_eq_ok_iff, refused]
  | writtenAnew missing hands opens fills =>
      simp [missing, hands.id_eq_iff, TakesStyle, opens, fills]
  | failedAnew missing hands fails =>
      simp [missing.not_takesStyle, hands.id_eq_iff, fails.not_takesStyle]

theorem Course.layer_eq (course : files.Course storage tree layer spans applied accesses) :
    (∀ id, files.StyleMissing tree layer → files.Hands tree layer.window id →
        applied.layer = ⟨layer.window, id⟩) ∧
      ((∀ id, ¬(files.StyleMissing tree layer ∧ files.Hands tree layer.window id)) →
        applied.layer = layer) := by
  cases course with
  | written opens => simp [not_styleMissing_of_opens opens]
  | failed fails notMissing => simp [fails.styleMissing_iff, notMissing]
  | notAllocated missing refused => simp [← allocate_eq_ok_iff, refused]
  | writtenAnew missing hands => simp [missing, hands.id_eq_iff]
  | failedAnew missing hands => simp [missing, hands.id_eq_iff]

theorem Course.result_eq_error_iff
    (course : files.Course storage tree layer spans applied accesses) (error : CompositorError) :
    applied.result = .error error ↔
      (∃ cause, files.StyleFails storage tree layer spans cause ∧ cause ≠ .missing ∧
        error = ioError cause) ∨
      files.StyleMissing tree layer ∧ (files.allocate tree layer.window = .error error ∨
        ∃ id, files.Hands tree layer.window id ∧ ∃ cause,
          files.StyleFails storage tree ⟨layer.window, id⟩ spans cause ∧
            error = layerError ⟨layer.window, id⟩ cause) := by
  have takes {layer : FileLayer} {key : FileKey}
      (opens : tree.openFile .writing (files.layerPath layer "style") = .ok key)
      (fills : storage.fill key (styleBytes spans) = .ok ()) (cause : FileError) :
      ¬files.StyleFails storage tree layer spans cause :=
    fun fails => fails.not_takesStyle ⟨key, opens, fills⟩
  cases course with
  | written opens fills => simp [takes opens fills, not_styleMissing_of_opens opens]
  | failed fails notMissing =>
      simp [fails.cause_eq_iff, fails.styleMissing_iff, notMissing, eq_comm]
  | notAllocated missing refused =>
      have first := missing.fails storage spans
      simp [missing, first.cause_eq_iff, ← allocate_eq_ok_iff, refused, eq_comm]
  | writtenAnew missing hands opens fills =>
      have first := missing.fails storage spans
      have allocated := allocate_eq_ok_iff.mpr hands
      simp [first.cause_eq_iff, hands.id_eq_iff, takes opens fills, allocated]
  | failedAnew missing hands fails =>
      have first := missing.fails storage spans
      have allocated := allocate_eq_ok_iff.mpr hands
      simp [missing, first.cause_eq_iff, hands.id_eq_iff, fails.cause_eq_iff, allocated, eq_comm]

theorem eq_layerError_iff {cause : FileError} {error : CompositorError} :
    error = layerError layer cause ↔ (cause = .missing ∧ error = .layerGone layer.id) ∨
      cause ≠ .missing ∧ error = ioError cause := by
  cases cause <;> simp [layerError]

theorem causes_iff (error : CompositorError) :
    files.Causes storage tree layer spans error ↔
      (∃ cause, files.StyleFails storage tree layer spans cause ∧ cause ≠ .missing ∧
        error = ioError cause) ∨
      files.StyleMissing tree layer ∧ (files.allocate tree layer.window = .error error ∨
        ∃ id, files.Hands tree layer.window id ∧ ∃ cause,
          files.StyleFails storage tree ⟨layer.window, id⟩ spans cause ∧
            error = layerError ⟨layer.window, id⟩ cause) := by
  simp only [allocate_eq_error_iff, eq_layerError_iff, ioError]
  -- only a failure to read or write can come from each of the three accesses
  cases error with
  | malformed detail => simp [Causes]
  | layerGone id => simp [Causes, styleFails_missing_iff]
  | absent window | io message => grind [Causes]

theorem Course.holds_style (sound : tree.IsSound)
    (course : files.Course storage tree layer spans applied accesses)
    (done : applied.result = .ok ()) :
    applied.tree.Holds (files.layerPath applied.layer "style") (styleBytes spans) := by
  cases course with
  | written opens => exact sound.holds_setContent _ (FileTree.find_of_openFile opens)
  | writtenAnew _ _ opens => exact sound.holds_setContent _ (FileTree.find_of_openFile opens)
  | failed | notAllocated | failedAnew => cases done

theorem Course.leaves (course : files.Course storage tree layer spans applied accesses)
    {error : CompositorError} (failure : applied.result = .error error) :
    files.Leaves storage tree applied.layer spans applied.tree := by
  cases course with
  | written | writtenAnew => cases failure
  | failed _ _ leaves => exact leaves
  | notAllocated => exact .inl rfl
  | failedAnew _ _ _ leaves => exact leaves

theorem Course.allocations (course : files.Course storage tree layer spans applied accesses) :
    accesses.head? = some (.write layer) ∧ accesses.count .allocate ≤ 1 ∧
      (.allocate ∈ accesses ↔ files.StyleMissing tree layer) := by
  cases course with
  | written opens => simp [not_styleMissing_of_opens opens]
  | failed fails notMissing => simp [fails.styleMissing_iff, notMissing]
  | notAllocated missing => simp [missing]
  | writtenAnew missing => simp [missing]
  | failedAnew missing => simp [missing]

/-- Spans are applied exactly if the style of the layer is a regular file that can be written, or is
missing and a number is handed out whose style is one; the style of the layer, as it is then, holds
nothing but the spans. The layer takes the number exactly if its style was missing and the number
was handed out, whether or not the second write succeeds. The error tells the cause, and nothing has
changed then but at most a file that was opened and did not take the spans. Step by step, a number
is allocated at most once, and only if the first write found no file. -/
theorem applied_or_cause_told (files : StyleFiles) (storage : Storage) (tree : FileTree)
    (sound : tree.IsSound) (layer : FileLayer) (spans : List Span) :
    let applied := files.applyOn storage tree layer spans
    (applied.result = .ok () ↔ files.TakesStyle storage tree layer spans ∨
      files.StyleMissing tree layer ∧ ∃ id, files.Hands tree layer.window id ∧
        files.TakesStyle storage tree ⟨layer.window, id⟩ spans) ∧
    (applied.result = .ok () →
      applied.tree.Holds (files.layerPath applied.layer "style") (styleBytes spans)) ∧
    (∀ error, applied.result = .error error ↔ files.Causes storage tree layer spans error) ∧
    (∀ error, applied.result = .error error →
      files.Leaves storage tree applied.layer spans applied.tree) ∧
    (∀ id, files.StyleMissing tree layer → files.Hands tree layer.window id →
      applied.layer = ⟨layer.window, id⟩) ∧
    ((∀ id, ¬(files.StyleMissing tree layer ∧ files.Hands tree layer.window id)) →
      applied.layer = layer) ∧
    ∃ accesses, files.applyRecorded storage layer spans ⟨tree, []⟩ =
        ((applied.result, applied.layer), ⟨applied.tree, accesses⟩) ∧
      accesses.head? = some (.write layer) ∧ accesses.count .allocate ≤ 1 ∧
      (.allocate ∈ accesses ↔ files.StyleMissing tree layer) := by
  intro applied
  obtain ⟨accesses, recorded, course⟩ := files.follows_apply storage sound layer spans
  refine ⟨course.result_eq_ok_iff, course.holds_style sound, fun error => ?_,
    fun error => course.leaves, course.layer_eq.1, course.layer_eq.2, accesses, recorded,
    course.allocations⟩
  rw [course.result_eq_error_iff, causes_iff]

def anewFiles : StyleFiles :=
  ⟨"/t/styles"⟩

def anewTree : FileTree :=
  .ofEntries "/t" [("styles/3/layers/new", some (Utf8.encode " 8\n".toList)),
    ("styles/3/layers/8/style", some (Utf8.encode "9 0 100\n".toList))]

theorem applied_or_cause_told_anewTree :
    (anewFiles.applyOn .dependable anewTree ⟨3, 7⟩ [⟨3, 0, 3⟩]).layer = ⟨3, 8⟩ ∧
      (anewFiles.applyOn .dependable anewTree ⟨3, 7⟩ [⟨3, 0, 3⟩]).tree.Holds
        (anewFiles.layerPath ⟨3, 8⟩ "style") (styleBytes [⟨3, 0, 3⟩]) := by
  have sound : anewTree.IsSound := FileTree.isSound_ofEntries (by decide) _
  obtain ⟨applies, holds, _, _, anew, _⟩ :=
    applied_or_cause_told anewFiles .dependable anewTree sound ⟨3, 7⟩ [⟨3, 0, 3⟩]
  have missing : anewFiles.StyleMissing anewTree ⟨3, 7⟩ := by
    unfold StyleMissing
    decide +kernel
  have hands : anewFiles.Hands anewTree 3 8 := by
    rw [← allocate_eq_ok_iff]
    decide +kernel
  have takes : anewFiles.TakesStyle .dependable anewTree ⟨3, 8⟩ [⟨3, 0, 3⟩] :=
    ⟨1, by decide +kernel, Storage.fill_dependable ..⟩
  have fresh := anew 8 missing hands
  have written := holds (applies.mpr (.inr ⟨missing, 8, hands, takes⟩))
  rw [fresh] at written
  exact ⟨fresh, written⟩

/-- A style that cannot be opened for writing is not taken for a missing one. -/
example :
    (anewFiles.apply { anewTree with refusal? := fun _ _ => some "Permission denied (os error 13)" }
      ⟨3, 8⟩ []).result = .error (.io "Permission denied (os error 13)") := by
  decide +kernel

end LiveHighlight.StyleFiles

import LiveHighlight.Proofs.Mounts.Frame
import LiveHighlight.Proofs.Session.Turns

/-!
What the editor's failures say.

A call fails for want of its file, and then says that the editor is not there if the file is the
editor's own, or that the window is gone if the file is the window's. When the editor's root is
missing so are the files of all windows, and a window then seems gone.
-/

namespace LiveHighlight

def EditorError.tellsAbsence : EditorError → Bool
  | .windowGone _ | .unavailable _ => true
  | .io _ | .malformed .. => false

/-! ### Files -/

namespace FileTree

variable {tree : FileTree} {path : String}

theorem readText_missing_iff :
    tree.readText path = .error .missing ↔ tree.find path = .error .missing := by
  rw [← read_missing_iff]
  unfold readText
  cases tree.read path with
  | error error => simp [bind, Except.bind]
  | ok bytes => cases decoded : Utf8.decode? bytes <;> simp [bind, Except.bind, decoded]

end FileTree

theorem LineStream.next_ne_missing (stream : LineStream) (tree : FileTree) :
    (stream.next tree).1 ≠ .error .missing := by
  unfold next
  split
  next => simp
  next key _ =>
    simp only
    split
    next => simp
    next => split <;> simp

/-! ### Calls -/

namespace EditorFiles

def needs? (files : EditorFiles) : Call → Option (String × EditorError)
  | .listWindows => some (Path.join files.root "index", files.rootError .missing)
  | .watchWindows => some (Path.join files.root "log", files.rootError .missing)
  | .openWindow window => some (files.windowPath window, windowError window .missing)
  | .readText window | .readFirstLine window =>
    some (files.bodyPath window, windowError window .missing)
  | .subscribe window => some (files.editsPath window, windowError window .missing)
  | .annotate .. | .openLayer .. | .apply .. | .clear .. | .delete .. => none

/-- Whether a call finds what it needs to be absent, with the error that tells so. A file in place
of a window's directory is no window either. -/
def FindsAbsent (files : EditorFiles) (tree : FileTree) (call : Call) (error : EditorError) :
    Prop :=
  ∃ path, files.needs? call = some (path, error) ∧
    (tree.find path = .error .missing ∨
      ∃ window key, call = .openWindow window ∧ tree.find path = .ok (.file key))

variable {files : EditorFiles} {tree : FileTree} {window : WindowId} {error : EditorError}

theorem tellsAbsence_of_needs {call : Call} {path : String}
    (needs : files.needs? call = some (path, error)) : error.tellsAbsence = true := by
  cases call with
  | annotate | openLayer | apply | clear | delete => cases needs
  | _ =>
      obtain ⟨rfl, rfl⟩ := Prod.mk.inj (Option.some.inj needs)
      rfl

theorem missing_of_rootError {cause : FileError}
    (tells : (files.rootError cause).tellsAbsence = true) : cause = .missing := by
  cases cause <;> first | rfl | cases tells

theorem missing_of_windowError {cause : FileError}
    (tells : (windowError window cause).tellsAbsence = true) : cause = .missing := by
  cases cause <;> first | rfl | cases tells

theorem exists_of_mapM_eq_error {α β ε : Type} {step : α → Except ε β} {error : ε} {values : List α}
    (failed : values.mapM step = .error error) : ∃ value ∈ values, step value = .error error := by
  induction values with
  | nil => cases failed
  | cons first later ih =>
      rw [List.mapM_cons] at failed
      cases here : step first with
      | error cause =>
          rw [here] at failed
          cases failed
          exact ⟨first, by simp, here⟩
      | ok result =>
          cases rest : later.mapM step with
          | error cause =>
              rw [here, rest] at failed
              cases failed
              obtain ⟨value, member, there⟩ := ih rest
              exact ⟨value, List.mem_cons_of_mem first member, there⟩
          | ok results =>
              rw [here, rest] at failed
              cases failed

theorem tellsAbsence_of_indexWindow {line : List Char} (failed : indexWindow line = .error error) :
    error.tellsAbsence = false := by
  unfold indexWindow at failed
  simp only at failed
  split at failed
  next => cases failed
  next =>
    cases failed
    rfl

theorem list_absence (failed : files.list tree = .error error)
    (tells : error.tellsAbsence = true) :
    tree.find (Path.join files.root "index") = .error .missing ∧
      error = files.rootError .missing := by
  unfold list at failed
  split at failed
  next =>
    obtain ⟨line, _, malformed⟩ := exists_of_mapM_eq_error failed
    rw [tellsAbsence_of_indexWindow malformed] at tells
    cases tells
  next cause unread =>
    cases failed
    obtain rfl := missing_of_rootError tells
    exact ⟨FileTree.readText_missing_iff.mp unread, rfl⟩

theorem watch_absence (failed : files.watch tree = .error error)
    (tells : error.tellsAbsence = true) :
    tree.find (Path.join files.root "log") = .error .missing ∧
      error = files.rootError .missing := by
  unfold watch at failed
  split at failed
  next => cases failed
  next cause unopened =>
    cases failed
    obtain rfl := missing_of_rootError tells
    exact ⟨FileTree.openNode_missing_iff.mp unopened, rfl⟩

theorem openWindow_absence (failed : files.openWindow tree window = .error error)
    (tells : error.tellsAbsence = true) :
    (tree.find (files.windowPath window) = .error .missing ∨
      ∃ key, tree.find (files.windowPath window) = .ok (.file key)) ∧
      error = windowError window .missing := by
  unfold openWindow at failed
  split at failed
  next => cases failed
  next key found =>
    cases failed
    exact ⟨.inr ⟨key, found⟩, rfl⟩
  next cause unfound =>
    cases failed
    obtain rfl := missing_of_windowError tells
    exact ⟨.inl unfound, rfl⟩

theorem readText_absence (failed : files.readText tree window = .error error)
    (tells : error.tellsAbsence = true) :
    tree.find (files.bodyPath window) = .error .missing ∧ error = windowError window .missing := by
  unfold readText at failed
  cases unread : tree.read (files.bodyPath window) with
  | ok bytes =>
      rw [unread] at failed
      cases failed
  | error cause =>
      rw [unread] at failed
      cases failed
      obtain rfl := missing_of_windowError tells
      exact ⟨FileTree.read_missing_iff.mp unread, rfl⟩

theorem readFirstLine_absence (failed : files.readFirstLine tree window = .error error)
    (tells : error.tellsAbsence = true) :
    tree.find (files.bodyPath window) = .error .missing ∧ error = windowError window .missing := by
  unfold readFirstLine at failed
  split at failed
  next => cases failed
  next cause unread =>
    cases failed
    obtain rfl := missing_of_windowError tells
    exact ⟨FileTree.read_missing_iff.mp unread, rfl⟩

theorem subscribe_absence (failed : files.subscribe tree window = .error error)
    (tells : error.tellsAbsence = true) :
    tree.find (files.editsPath window) = .error .missing ∧ error = windowError window .missing := by
  unfold subscribe at failed
  split at failed
  next => cases failed
  next cause unopened =>
    cases failed
    obtain rfl := missing_of_windowError tells
    exact ⟨FileTree.openNode_missing_iff.mp unopened, rfl⟩

/-! ### Streams -/

theorem tellsAbsence_of_nextArrival {stream after : LineStream}
    (failed : nextArrival tree stream = (.failed error, after)) : error.tellsAbsence = false := by
  unfold nextArrival at failed
  -- the induction passes over the lines that tell of no new window
  generalize stream.remaining tree + 1 = fuel at failed
  induction fuel generalizing stream with
  | zero => cases failed
  | succ fuel ih =>
      rw [nextArrivalWithin] at failed
      split at failed
      next => cases failed; rfl
      next => cases failed
      next line stream' _ =>
        split at failed
        next cause malformed =>
          cases failed
          unfold openedWindow at malformed
          simp only at malformed
          split at malformed
          next => split at malformed <;> cases malformed
          next => cases malformed; rfl
        next => cases failed
        next => exact ih failed

theorem tellsAbsence_of_nextEdit {stream after : LineStream}
    (failed : nextEdit tree window stream = (.failed error, after)) :
    error.tellsAbsence = false := by
  unfold nextEdit at failed
  generalize stream.remaining tree + 1 = fuel at failed
  induction fuel generalizing stream with
  | zero => cases failed
  | succ fuel ih =>
      rw [nextEditWithin] at failed
      split at failed
      next cause stream' next =>
        cases failed
        by_contra tells
        have missing := missing_of_windowError (Bool.not_eq_false _ ▸ tells)
        exact stream.next_ne_missing tree (by rw [next, missing])
      next => cases failed
      next line stream' _ =>
        split at failed
        next => cases failed
        next => exact ih failed

/-! ### An editor that is not mounted -/

theorem needed_missing (rooted : tree.IsRooted) (unmounted : tree.IsMissing files.root)
    {call : Call} {path : String} {absence : EditorError}
    (needs : files.needs? call = some (path, absence)) :
    tree.find path = .error .missing := by
  have ofWindow (window : WindowId) : tree.IsMissing (files.windowPath window) :=
    unmounted.join rooted (Path.isName_toString window)
  cases call with
  | listWindows | watchWindows =>
      obtain ⟨rfl, rfl⟩ := Prod.mk.inj (Option.some.inj needs)
      exact (unmounted.join rooted (by decide)).notFound
  | openWindow window =>
      obtain ⟨rfl, rfl⟩ := Prod.mk.inj (Option.some.inj needs)
      exact (ofWindow window).notFound
  | readText window | readFirstLine window | subscribe window =>
      obtain ⟨rfl, rfl⟩ := Prod.mk.inj (Option.some.inj needs)
      exact ((ofWindow window).join rooted (by decide)).notFound
  | annotate | openLayer | apply | clear | delete => cases needs

end EditorFiles

/-! ### Sessions whose window seems gone -/

namespace Session

/-- What a session does once its window is gone: it stops its reader, clears its layer, and ends. -/
def Phase.closes : Phase → Bool
  | .ended .windowGone | .cleaning _ _ .windowGone | .stoppingReader _ _ .windowGone => true
  | _ => false

theorem closes_finishAttempt (attempt : Attempt) (layer : StyleLayer) :
    (finishAttempt attempt layer .windowGone).closes = true := by
  unfold finishAttempt
  split <;> rfl

theorem closes_abandon (attempt : Attempt) (layer : StyleLayer) (round : Round) :
    (abandon attempt layer round .windowGone).closes = true := by
  cases round with
  | initial stream => exact closes_finishAttempt attempt layer
  | debounced debouncer => rfl

theorem closes_of_turn {setup : Setup} {window : WindowId} {now : Nat} {phase next : Phase}
    {answer : Answer} (closes : phase.closes = true)
    (turn : Turn setup window now phase answer next) : next.closes = true := by
  cases turn with
  | @readerStopped attempt layer outcome =>
      cases outcome with
      | windowGone => exact closes_finishAttempt attempt layer
      | streamEnded | cancelled | failed => cases closes
  | @cleaned attempt layer outcome =>
      cases outcome with
      | windowGone => rfl
      | streamEnded | cancelled | failed => cases closes
  | unwound reason =>
      unfold Phase.closes at closes
      split at closes <;> first | cases reason | cases closes
  | _ => cases closes

def answerAll? (setup : Setup) (session : Session) (answers : List (Nat × Answer)) :
    Option Session :=
  answers.foldlM (fun session (now, answer) => session.step? setup now answer) session

theorem closes_of_answerAll? {setup : Setup} {session final : Session}
    {answers : List (Nat × Answer)} (closes : session.phase.closes = true)
    (taken : session.answerAll? setup answers = some final) : final.phase.closes = true := by
  induction answers generalizing session with
  | nil =>
      cases taken
      exact closes
  | cons first later ih =>
      obtain ⟨next, stepped, rest⟩ := Option.bind_eq_some_iff.mp taken
      obtain ⟨phase, turned, rfl⟩ := Option.map_eq_some_iff.mp stepped
      exact ih (closes_of_turn closes (turn_of_next? turned)) rest

theorem closes_of_absence {files : EditorFiles} {setup : Setup} {session : Session} {call : Call}
    {path : String} {absence : EditorError} (asks : session.request? setup = some (.call call))
    (needs : files.needs? call = some (path, absence)) (now : Nat) :
    ∃ next, session.step? setup now (.reply (.editorFailed absence)) = some next ∧
      next.phase.closes = true := by
  obtain ⟨window, phase⟩ := session
  cases phase with
  | identifying step backoff =>
      cases step with
      | opening | reading =>
          cases asks
          obtain ⟨rfl, rfl⟩ := Prod.mk.inj (Option.some.inj needs)
          exact ⟨_, rfl, rfl⟩
      | drawing | sleeping => cases asks
  | opening attempt | subscribing attempt =>
      cases asks
      obtain ⟨rfl, rfl⟩ := Prod.mk.inj (Option.some.inj needs)
      exact ⟨_, rfl, rfl⟩
  | highlighting attempt layer round step =>
      cases step with
      | reading =>
          cases asks
          obtain ⟨rfl, rfl⟩ := Prod.mk.inj (Option.some.inj needs)
          exact ⟨_, rfl, closes_abandon attempt layer round⟩
      | annotating text =>
          cases asks
          cases needs
      | applying spans =>
          obtain ⟨applies, held, same⟩ := Option.map_eq_some_iff.mp asks
          cases same
          obtain ⟨key, _, rfl⟩ := Option.map_eq_some_iff.mp held
          cases needs
  | acquiring attempt stream =>
      cases asks
      cases needs
  | cleaning attempt layer outcome =>
      obtain ⟨cleanup, held, same⟩ := Option.map_eq_some_iff.mp asks
      cases same
      -- a cleanup call is the compositor's, whatever the outcome
      cases outcome <;>
      · obtain ⟨key, _, rfl⟩ := Option.map_eq_some_iff.mp held
        cases needs
  | startingReader | watching | stoppingReader | drawing | sleeping | ended => cases asks

end Session

/-! ### Calls and streams of the editor's files -/

namespace Mounts

open EditorFiles

variable {γ : Type} [ParserLibrary γ] {mounts : Mounts γ} {call : Call} {error : EditorError}

theorem ofEditor_eq_failed {α : Type} {answer : Except EditorError α} {reply : α → Reply × Mounts γ}
    (replies : ∀ value, (reply value).1 ≠ .editorFailed error)
    (failed : (mounts.ofEditor answer reply).1 = .editorFailed error) : answer = .error error := by
  cases answer with
  | ok value => exact absurd failed (replies value)
  | error cause =>
      cases failed
      rfl

theorem findsAbsent_of_failed (failed : (mounts.answer call).1 = .editorFailed error)
    (tells : error.tellsAbsence = true) : mounts.editor.FindsAbsent mounts.tree call error := by
  cases call with
  | listWindows =>
      rw [answer] at failed
      obtain ⟨missing, rfl⟩ := list_absence (ofEditor_eq_failed (by simp) failed) tells
      exact ⟨_, rfl, .inl missing⟩
  | watchWindows =>
      rw [answer] at failed
      obtain ⟨missing, rfl⟩ := watch_absence (ofEditor_eq_failed (by simp [watched]) failed) tells
      exact ⟨_, rfl, .inl missing⟩
  | openWindow window =>
      rw [answer] at failed
      obtain ⟨missing | ⟨key, found⟩, rfl⟩ :=
        openWindow_absence (ofEditor_eq_failed (by simp) failed) tells
      · exact ⟨_, rfl, .inl missing⟩
      · exact ⟨_, rfl, .inr ⟨window, key, rfl, found⟩⟩
  | readFirstLine window =>
      rw [answer] at failed
      obtain ⟨missing, rfl⟩ := readFirstLine_absence (ofEditor_eq_failed (by simp) failed) tells
      exact ⟨_, rfl, .inl missing⟩
  | subscribe window =>
      rw [answer] at failed
      obtain ⟨missing, rfl⟩ :=
        subscribe_absence (ofEditor_eq_failed (by simp [subscribed]) failed) tells
      exact ⟨_, rfl, .inl missing⟩
  | readText window =>
      rw [answer] at failed
      obtain ⟨missing, rfl⟩ := readText_absence (ofEditor_eq_failed (by simp) failed) tells
      exact ⟨_, rfl, .inl missing⟩
  | annotate window language text => cases failed
  | openLayer | apply | clear | delete =>
      simp only [answer, ofCompositor] at failed
      split at failed <;> cases failed

theorem failed_of_missing {path : String} {absence : EditorError}
    (needs : mounts.editor.needs? call = some (path, absence))
    (missing : mounts.tree.find path = .error .missing) :
    (mounts.answer call).1 = .editorFailed absence := by
  have unread := FileTree.read_missing_iff.mpr missing
  have unopened := (@FileTree.openNode_missing_iff mounts.tree .reading path).mpr missing
  have failed {α : Type} (reply : α → Reply × Mounts γ) :
      (mounts.ofEditor (.error absence) reply).1 = .editorFailed absence := rfl
  cases call with
  | listWindows =>
      obtain ⟨rfl, rfl⟩ := Prod.mk.inj (Option.some.inj needs)
      rw [answer]
      unfold list
      rw [FileTree.readText_missing_iff.mpr missing, failed]
  | watchWindows =>
      obtain ⟨rfl, rfl⟩ := Prod.mk.inj (Option.some.inj needs)
      rw [answer, watch, unopened, failed]
  | openWindow window =>
      obtain ⟨rfl, rfl⟩ := Prod.mk.inj (Option.some.inj needs)
      rw [answer]
      unfold openWindow
      rw [missing, failed]
  | readFirstLine window =>
      obtain ⟨rfl, rfl⟩ := Prod.mk.inj (Option.some.inj needs)
      rw [answer]
      unfold readFirstLine
      rw [unread, failed]
  | subscribe window =>
      obtain ⟨rfl, rfl⟩ := Prod.mk.inj (Option.some.inj needs)
      rw [answer]
      unfold subscribe
      rw [unopened, failed]
  | readText window =>
      obtain ⟨rfl, rfl⟩ := Prod.mk.inj (Option.some.inj needs)
      rw [answer, readText, unread, Except.mapError, failed]
  | annotate | openLayer | apply | clear | delete => cases needs

theorem failed_of_findsAbsent (finds : mounts.editor.FindsAbsent mounts.tree call error) :
    (mounts.answer call).1 = .editorFailed error ∧ error.tellsAbsence = true := by
  obtain ⟨path, needs, missing | ⟨window, key, rfl, file⟩⟩ := finds
  · exact ⟨failed_of_missing needs missing, tellsAbsence_of_needs needs⟩
  · obtain ⟨rfl, rfl⟩ := Prod.mk.inj (Option.some.inj needs)
    rw [answer]
    unfold openWindow
    rw [file]
    exact ⟨rfl, rfl⟩

/-- A window of an editor that is not mounted seems gone, and its session ends for good. Only the
calls on the editor itself say that the editor is not there. -/
theorem windows_seem_gone_when_unmounted (mounts : Mounts γ) :
    (∀ call error, ((mounts.answer call).1 = .editorFailed error ∧ error.tellsAbsence = true) ↔
      mounts.editor.FindsAbsent mounts.tree call error) ∧
    (∀ key error after, mounts.nextEdit key = some (.failed error, after) →
      error.tellsAbsence = false) ∧
    (∀ key error after, mounts.nextWindow key = some (.failed error, after) →
      error.tellsAbsence = false) ∧
    (mounts.tree.IsRooted → mounts.tree.IsMissing mounts.editor.root →
      (∀ call ∈ [Call.listWindows, .watchWindows], (mounts.answer call).1 =
        .editorFailed (.unavailable s!"acme not mounted at {mounts.editor.root}")) ∧
      (∀ window, ∀ call ∈ [Call.openWindow window, .readText window, .readFirstLine window,
        .subscribe window], (mounts.answer call).1 = .editorFailed (.windowGone window)) ∧
      (∀ (setup : Setup) (session : Session) (call : Call),
        session.request? setup = some (.call call) →
        (mounts.editor.needs? call).isSome = true → ∀ now, ∃ next : Session,
          session.step? setup now (.reply (mounts.answer call).1) = some next ∧
            ∀ (answers : List (Nat × Session.Answer)) (final : Session),
              next.answerAll? setup answers = some final → final.phase.closes = true)) := by
  refine ⟨fun call error => ⟨fun told => findsAbsent_of_failed told.1 told.2,
    failed_of_findsAbsent⟩, ?_, ?_, ?_⟩
  · intro key error after next
    obtain ⟨stream, _, same⟩ := Option.map_eq_some_iff.mp next
    cases edit : EditorFiles.nextEdit mounts.tree stream.window stream.lines with
    | mk item lines =>
        rw [edit] at same
        cases same
        exact tellsAbsence_of_nextEdit edit
  · intro key error after next
    obtain ⟨stream, _, same⟩ := Option.map_eq_some_iff.mp next
    cases arrived : nextArrival mounts.tree stream.lines with
    | mk arrival lines =>
        rw [arrived] at same
        cases same
        exact tellsAbsence_of_nextArrival arrived
  intro rooted unmounted
  have failed {call : Call} {path : String} {absence : EditorError}
      (needs : mounts.editor.needs? call = some (path, absence)) :
      (mounts.answer call).1 = .editorFailed absence :=
    failed_of_missing needs (needed_missing rooted unmounted needs)
  refine ⟨?_, ?_, ?_⟩
  · intro call member
    simp only [List.mem_cons, List.not_mem_nil, or_false] at member
    rcases member with rfl | rfl <;> exact failed rfl
  · intro window call member
    simp only [List.mem_cons, List.not_mem_nil, or_false] at member
    rcases member with rfl | rfl | rfl | rfl <;> exact failed rfl
  · intro setup session call asks needy now
    obtain ⟨⟨path, absence⟩, needs⟩ := Option.isSome_iff_exists.mp needy
    obtain ⟨next, stepped, closes⟩ := Session.closes_of_absence asks needs now
    rw [failed needs]
    exact ⟨next, stepped, fun _ _ => Session.closes_of_answerAll? closes⟩

def unmounted : Mounts Grammar :=
  ofHighlighter belowT (.empty "/t")

theorem isRooted_unmounted : unmounted.tree.IsRooted :=
  ⟨by decide, .inl rfl⟩

theorem isMissing_unmounted : unmounted.tree.IsMissing unmounted.editor.root :=
  ⟨by decide, by decide⟩

theorem windows_seem_gone_when_unmounted_belowT :
    unmounted.tree.IsRooted ∧ unmounted.tree.IsMissing "/t/acme" ∧
      (unmounted.answer .listWindows).1 =
        .editorFailed (.unavailable "acme not mounted at /t/acme") ∧
      (unmounted.answer (.openWindow 1)).1 = .editorFailed (.windowGone 1) := by
  obtain ⟨_, _, _, absent⟩ := windows_seem_gone_when_unmounted unmounted
  obtain ⟨ofEditor, ofWindow, _⟩ := absent isRooted_unmounted isMissing_unmounted
  exact ⟨isRooted_unmounted, isMissing_unmounted, ofEditor .listWindows (by simp),
    ofWindow 1 (.openWindow 1) (by simp)⟩

/-- Opening a window does not tell that the editor is unavailable. -/
theorem window_gone_without_editor :
    unmounted.tree.find unmounted.editor.root = .error .missing ∧
      (unmounted.answer (.openWindow 1)).1 = .editorFailed (.windowGone 1) ∧
      ∀ message, (unmounted.answer (.openWindow 1)).1 ≠ .editorFailed (.unavailable message) := by
  have gone : (unmounted.answer (.openWindow 1)).1 = .editorFailed (.windowGone 1) := by decide
  refine ⟨by decide, gone, fun message same => ?_⟩
  cases gone.symm.trans same

end Mounts
end LiveHighlight


import LiveHighlight.Text.Blank
import LiveHighlight.Text.Numeral
import LiveHighlight.Window

/-!
Lines of the editor's control files.
-/

namespace LiveHighlight.EditorFiles

def windowId? (field : List Char) : Option WindowId :=
  Text.u32? (Text.trim field)

/-- A line of the index: five columns of numbers, then the window's tag, whose first word is the
window's name. -/
def indexWindow (line : List Char) : Except EditorError Window :=
  let words := Text.words line
  match words.head?.bind windowId? with
  | some id => .ok ⟨id, String.ofList (words[5]?.getD [])⟩
  | none => .error (.malformed .index (String.ofList line))

def cutAtSpace : List Char → List Char × Option (List Char)
  | [] => ([], none)
  | c :: rest =>
    if c = ' ' then ([], some rest)
    else
      let (field, behind) := cutAtSpace rest
      (c :: field, behind)

/-- A line of the log: a window's number, what happened, and the window's name, with one space
between them. Only the opening of a window is of interest. -/
def openedWindow (line : List Char) : Except EditorError (Option Window) :=
  let malformed : EditorError := .malformed .log (String.ofList line)
  let (field, behind) := cutAtSpace line
  match windowId? field, behind with
  | some id, some rest =>
    let (event, name) := cutAtSpace rest
    if event = "new".toList then .ok (some ⟨id, String.ofList (Text.trim (name.getD []))⟩)
    else .ok none
  | _, _ => .error malformed

def edit? : List Char → Option EditKind
  | 'I' :: _ => some .insertion
  | 'D' :: _ => some .deletion
  | _ => none

end LiveHighlight.EditorFiles

import LiveHighlight.Files.Tree
import LiveHighlight.Style.Table

/-!
Palette files: one entry a line, whose first word is the kind name. Blank lines and lines that
start with `#` hold no entry; the words after the name belong to the compositor.
-/

namespace LiveHighlight.Palette

def entry? (line : List Char) : Option String :=
  match Text.words line with
  | [] => none
  | ('#' :: _) :: _ => none
  | kind :: _ => some (String.ofList kind)

def entries (text : String) : List String :=
  (Text.lines text.toList).filterMap entry?

def parse (text : String) : Except StyleTableError StyleTable :=
  StyleTable.ofNames (entries text)

def load (tree : FileTree) (path : String) : Except StyleTableError StyleTable :=
  match tree.readText path with
  | .ok text => parse text
  | .error cause => .error (.unreadable path cause.message)

end LiveHighlight.Palette

import LiveHighlight.Daemon
import LiveHighlight.EditorFiles.Lines
import LiveHighlight.Files.LineStream
import LiveHighlight.Session.Reader

/-!
The editor as a tree of files: `index` and `log` at the root, and a directory for each window with
its `body` and its `log`.

A file missing at the root means that the editor is not there; a file missing in a window's
directory means that the window is gone.
-/

namespace LiveHighlight

structure EditorFiles where
  root : String
  deriving DecidableEq, Repr

namespace EditorFiles

def defaultRoot : String := "/mnt/acme"

def rootError (files : EditorFiles) : FileError → EditorError
  | .missing => .unavailable s!"acme not mounted at {files.root}"
  | error => .io error.message

def windowError (window : WindowId) : FileError → EditorError
  | .missing => .windowGone window
  | error => .io error.message

def windowPath (files : EditorFiles) (window : WindowId) : String :=
  Path.join files.root (toString window)

def bodyPath (files : EditorFiles) (window : WindowId) : String :=
  Path.join (files.windowPath window) "body"

def editsPath (files : EditorFiles) (window : WindowId) : String :=
  Path.join (files.windowPath window) "log"

def isBlankLine (line : List Char) : Bool :=
  line.all Text.isBlank

def indexWindows (index : String) : Except EditorError (List Window) :=
  ((Text.lines index.toList).filter (!isBlankLine ·)).mapM indexWindow

def list (files : EditorFiles) (tree : FileTree) : Except EditorError (List Window) :=
  match tree.readText (Path.join files.root "index") with
  | .ok index => indexWindows index
  | .error error => .error (files.rootError error)

def watch (files : EditorFiles) (tree : FileTree) : Except EditorError LineStream :=
  match tree.openNode .reading (Path.join files.root "log") with
  | .ok node => .ok (.ofNode node)
  | .error error => .error (files.rootError error)

def openWindow (files : EditorFiles) (tree : FileTree) (window : WindowId) :
    Except EditorError Unit :=
  match tree.find (files.windowPath window) with
  | .ok .directory => .ok ()
  | .ok (.file _) => .error (.windowGone window)
  | .error error => .error (windowError window error)

def readText (files : EditorFiles) (tree : FileTree) (window : WindowId) :
    Except EditorError Utf8.Bytes :=
  (tree.read (files.bodyPath window)).mapError (windowError window)

def firstLineBytes : Utf8.Bytes → Utf8.Bytes
  | [] => []
  | byte :: rest => if byte = LineStream.lineFeed then [byte] else byte :: firstLineBytes rest

def withoutLineFeed (line : Utf8.Bytes) : Utf8.Bytes :=
  if line.getLast? = some LineStream.lineFeed then line.dropLast else line

def readFirstLine (files : EditorFiles) (tree : FileTree) (window : WindowId) :
    Except EditorError String :=
  match tree.read (files.bodyPath window) with
  | .ok body => .ok (String.ofList (Utf8.decodeLossy (withoutLineFeed (firstLineBytes body))))
  | .error error => .error (windowError window error)

def subscribe (files : EditorFiles) (tree : FileTree) (window : WindowId) :
    Except EditorError LineStream :=
  match tree.openNode .reading (files.editsPath window) with
  | .ok node => .ok (.ofNode node)
  | .error error => .error (windowError window error)

def nextArrivalWithin (tree : FileTree) : Nat → LineStream → Daemon.Arrival × LineStream
  | 0, stream => (.ended, stream)
  | fuel + 1, stream =>
    match stream.next tree with
    | (.error error, stream) => (.failed (.io error.message), stream)
    | (.ok none, stream) => (.ended, stream)
    | (.ok (some line), stream) =>
      match openedWindow line with
      | .error error => (.failed error, stream)
      | .ok (some window) => (.window window, stream)
      | .ok none => nextArrivalWithin tree fuel stream

def nextArrival (tree : FileTree) (stream : LineStream) : Daemon.Arrival × LineStream :=
  nextArrivalWithin tree (stream.remaining tree + 1) stream

def nextEditWithin (tree : FileTree) (window : WindowId) :
    Nat → LineStream → StreamItem × LineStream
  | 0, stream => (.ended, stream)
  | fuel + 1, stream =>
    match stream.next tree with
    | (.error error, stream) => (.failed (windowError window error), stream)
    | (.ok none, stream) => (.ended, stream)
    | (.ok (some line), stream) =>
      match edit? line with
      | some kind => (.edit kind, stream)
      | none => nextEditWithin tree window fuel stream

def nextEdit (tree : FileTree) (window : WindowId) (stream : LineStream) :
    StreamItem × LineStream :=
  nextEditWithin tree window (stream.remaining tree + 1) stream

end EditorFiles
end LiveHighlight

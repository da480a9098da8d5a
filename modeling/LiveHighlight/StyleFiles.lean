import LiveHighlight.Files.Storage
import LiveHighlight.Text.Blank
import LiveHighlight.Text.Numeral
import LiveHighlight.Window

/-!
The compositor as a tree of files: for each window a file `layers/new` that tells the next layer,
and a directory for each layer with the files `style`, `clear` and `ctl`.

Every operation opens its files anew. A layer whose style file is missing is allocated once more
when spans are applied, so that it outlives a compositor that starts anew. Operations that write are
given for any storage; those that are named without one write to a storage that takes everything.
-/

namespace LiveHighlight

structure StyleFiles where
  root : String
  deriving DecidableEq, Repr

structure FileLayer where
  window : WindowId
  id : UInt32
  deriving DecidableEq, Repr

namespace StyleFiles

def defaultRoot : String := "/mnt/acme-styles"

def allocationPath (files : StyleFiles) (window : WindowId) : String :=
  Path.joinAll files.root [toString window, "layers", "new"]

def layerPath (files : StyleFiles) (layer : FileLayer) (name : String) : String :=
  Path.joinAll files.root [toString layer.window, "layers", toString layer.id, name]

def ioError (error : FileError) : CompositorError :=
  .io error.message

def layerError (layer : FileLayer) : FileError → CompositorError
  | .missing => .layerGone layer.id
  | error => ioError error

def allocate (files : StyleFiles) (tree : FileTree) (window : WindowId) :
    Except CompositorError UInt32 :=
  let path := files.allocationPath window
  match tree.readText path with
  | .error .missing => .error (.absent window)
  | .error error => .error (ioError error)
  | .ok text =>
    let number := Text.trim text.toList
    match Text.u32? number with
    | some id => .ok id
    | none => .error (.malformed s!"layer id {Text.quoted (String.ofList number)} from {path}")

def openLayer (files : StyleFiles) (tree : FileTree) (window : WindowId) :
    Except CompositorError FileLayer :=
  match tree.exists? files.root with
  | .error error => .error (ioError error)
  | .ok false => .error (.absent window)
  | .ok true => (files.allocate tree window).map fun id => ⟨window, id⟩

def writeStyle (files : StyleFiles) (storage : Storage) (layer : FileLayer) (spans : List Span) :
    FileWork Unit :=
  FileWork.replace storage (files.layerPath layer "style")
    (Utf8.encode (Span.encode spans).toList)

structure Applied where
  result : Except CompositorError Unit
  layer : FileLayer
  tree : FileTree

def applyOn (files : StyleFiles) (storage : Storage) (tree : FileTree) (layer : FileLayer)
    (spans : List Span) : Applied :=
  match (files.writeStyle storage layer spans).runOn tree with
  | (.ok (), tree) => ⟨.ok (), layer, tree⟩
  | (.error .missing, tree) =>
    match files.allocate tree layer.window with
    | .error error => ⟨.error error, layer, tree⟩
    | .ok id =>
      let fresh : FileLayer := { layer with id := id }
      match (files.writeStyle storage fresh spans).runOn tree with
      | (.ok (), tree) => ⟨.ok (), fresh, tree⟩
      | (.error error, tree) => ⟨.error (layerError fresh error), fresh, tree⟩
  | (.error error, tree) => ⟨.error (ioError error), layer, tree⟩

def apply (files : StyleFiles) (tree : FileTree) (layer : FileLayer) (spans : List Span) :
    Applied :=
  files.applyOn .dependable tree layer spans

/-- Opening the file for writing clears the layer; the file itself is not changed. -/
def clear (files : StyleFiles) (tree : FileTree) (layer : FileLayer) :
    Except CompositorError Unit :=
  match tree.openFile .writing (files.layerPath layer "clear") with
  | .ok _ => .ok ()
  | .error error => .error (layerError layer error)

def deleteCommand : Utf8.Bytes :=
  Utf8.encode "delete\n".toList

def deleteOn (files : StyleFiles) (storage : Storage) (layer : FileLayer) : FileWork Unit :=
  FileWork.overwrite storage (files.layerPath layer "ctl") deleteCommand

def delete (files : StyleFiles) (tree : FileTree) (layer : FileLayer) :
    Except CompositorError FileTree :=
  match (files.deleteOn .dependable layer).runOn tree with
  | (.ok (), tree) => .ok tree
  | (.error error, _) => .error (layerError layer error)

end StyleFiles
end LiveHighlight

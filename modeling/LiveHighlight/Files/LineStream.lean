import LiveHighlight.Files.Tree
import LiveHighlight.Text.Blank

/-!
Files read line by line as they grow.

An opened file is read in pieces. A line ends at a line feed, and a carriage return before it
belongs to the line end; at the end of the file the rest counts as a line. Reading goes on from
there when the file has grown.
-/

namespace LiveHighlight

open Utf8 (Bytes)

structure LineStream where
  /-- `none` for a directory, which can be opened but not read. -/
  source : Option FileKey
  offset : Nat
  buffered : Bytes
  deriving DecidableEq, Repr

namespace LineStream

def pieceSize : Nat := 8192

def lineFeed : UInt8 := 0x0A

def carriageReturn : UInt8 := 0x0D

def ofFile (key : FileKey) : LineStream :=
  ⟨some key, 0, []⟩

def ofNode : FileNode → LineStream
  | .file key => ofFile key
  | .directory => ⟨none, 0, []⟩

def cut : Bytes → Bytes × Option Bytes
  | [] => ([], none)
  | byte :: rest =>
    if byte = lineFeed then ([], some rest)
    else
      let (line, behind) := cut rest
      (byte :: line, behind)

def withoutReturn (line : Bytes) : Bytes :=
  if line.getLast? = some carriageReturn then line.dropLast else line

def collect (content : Bytes) : Nat → Bytes → LineStream → Option Bytes × LineStream
  | 0, _, stream => (none, stream)
  | fuel + 1, begun, stream =>
    match cut stream.buffered with
    | (line, some behind) =>
      (some (withoutReturn (begun ++ line)), { stream with buffered := behind })
    | (part, none) =>
      let piece := (content.drop stream.offset).take pieceSize
      let begun := begun ++ part
      if piece.isEmpty then
        (if begun.isEmpty then none else some begun, { stream with buffered := [] })
      else
        collect content fuel begun
          { stream with offset := stream.offset + piece.length, buffered := piece }

/-- The next line, or `none` at the end of the file. A line that is not text is skipped over as an
error. -/
def next (stream : LineStream) (tree : FileTree) :
    Except FileError (Option (List Char)) × LineStream :=
  match stream.source with
  | none => (.error .isDirectory, stream)
  | some key =>
    let content := tree.content key
    match collect content (content.length + 2) [] stream with
    | (none, stream) => (.ok none, stream)
    | (some line, stream) =>
      match Utf8.decode? line with
      | some text => (.ok (some text), stream)
      | none => (.error .notText, stream)

def remaining (stream : LineStream) (tree : FileTree) : Nat :=
  match stream.source with
  | none => 0
  | some key => (tree.content key).length - stream.offset + stream.buffered.length

end LineStream
end LiveHighlight

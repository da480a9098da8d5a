import LiveHighlight.Proofs.Editor.Streams
import LiveHighlight.Rehearsal.Stage

/-!
The first line of a window.

A handle on a window can read the whole text and cut its first line from it. The editor's files stop
reading at the first line feed instead, in whatever pieces the body comes. Either way the line is
the same, and so is the error where there is none.
-/

namespace LiveHighlight

open Utf8 (Bytes)
open LineStream (cut cut_append cut_of_not_mem lineFeed)

namespace EditorFiles

def lineOfText (text : Bytes) : String :=
  String.ofList (Utf8.decodeLossy ((text.splitOn lineFeed).headD []))

/-- How the content of an opened file comes, piece by piece. -/
structure Delivery where
  pieces : Bytes → List Bytes
  flatten_pieces : ∀ content, (pieces content).flatten = content
  /-- A piece of no bytes would be the end of the file. -/
  solid : ∀ content, [] ∉ pieces content

instance : Inhabited Delivery where
  default :=
    { pieces := fun content => content.map fun byte => [byte]
      flatten_pieces := fun content => by simp [← List.flatMap_def]
      solid := fun content => by simp }

def gather : List Bytes → Bytes
  | [] => []
  | piece :: later =>
    if piece.isEmpty then []
    else
      match cut piece with
      | (line, some _) => line ++ [lineFeed]
      | (part, none) => part ++ gather later

/-- Opens the body of a window and reads on until a line has come. A directory can be opened, but
not read. -/
def readFirstLineBy (delivery : Delivery) (files : EditorFiles) (tree : FileTree)
    (window : WindowId) : Except EditorError String :=
  match tree.openNode .reading (files.bodyPath window) with
  | .error error => .error (windowError window error)
  | .ok .directory => .error (windowError window .isDirectory)
  | .ok (.file key) =>
    let line := gather (delivery.pieces (tree.content key))
    .ok (String.ofList (Utf8.decodeLossy (withoutLineFeed line)))

/-! ### Lines of bytes -/

theorem ended_or_whole (text : Bytes) :
    (∃ line rest, text = line ++ lineFeed :: rest ∧ lineFeed ∉ line) ∨ lineFeed ∉ text := by
  by_cases ended : lineFeed ∈ text
  · exact .inl (List.eq_append_cons_of_mem ended)
  · exact .inr ended

theorem firstLineBytes_append {line : Bytes} (whole : lineFeed ∉ line) (rest : Bytes) :
    firstLineBytes (line ++ rest) = line ++ firstLineBytes rest := by
  induction line with
  | nil => rfl
  | cons byte later ih =>
      simp only [List.mem_cons, not_or] at whole
      rw [List.cons_append, firstLineBytes, if_neg (Ne.symm whole.1), ih whole.2, List.cons_append]

theorem firstLineBytes_line {line : Bytes} (whole : lineFeed ∉ line) (rest : Bytes) :
    firstLineBytes (line ++ lineFeed :: rest) = line ++ [lineFeed] := by
  rw [firstLineBytes_append whole, firstLineBytes, if_pos rfl]

theorem firstLineBytes_of_not_mem {bytes : Bytes} (whole : lineFeed ∉ bytes) :
    firstLineBytes bytes = bytes := by
  have all := firstLineBytes_append whole []
  rwa [List.append_nil, firstLineBytes, List.append_nil] at all

theorem withoutLineFeed_firstLineBytes (text : Bytes) :
    withoutLineFeed (firstLineBytes text) = (text.splitOn lineFeed).headD [] := by
  rcases ended_or_whole text with ⟨line, rest, rfl, whole⟩ | whole
  · rw [firstLineBytes_line whole, withoutLineFeed, List.getLast?_concat, if_pos rfl,
      List.dropLast_concat, splitOn_line whole, List.headD_cons]
  · have open_end : text.getLast? ≠ some lineFeed := fun last => whole (List.mem_of_getLast? last)
    rw [firstLineBytes_of_not_mem whole, withoutLineFeed, if_neg open_end,
      List.splitOn_eq_singleton whole, List.headD_cons]

theorem gather_eq (pieces : List Bytes) (solid : [] ∉ pieces) :
    gather pieces = firstLineBytes pieces.flatten := by
  induction pieces with
  | nil => rfl
  | cons piece later ih =>
      simp only [List.mem_cons, not_or] at solid
      rw [gather, if_neg (by simpa using Ne.symm solid.1), List.flatten_cons]
      rcases ended_or_whole piece with ⟨line, rest, rfl, whole⟩ | whole
      · rw [cut_append whole, List.append_assoc, List.cons_append, firstLineBytes_line whole]
      · rw [cut_of_not_mem whole, firstLineBytes_append whole]
        simp only
        rw [ih solid.2]

/-! ### Bodies -/

variable {files : EditorFiles} {tree : FileTree} {window : WindowId}

theorem readFirstLineBy_eq (delivery : Delivery) :
    readFirstLineBy delivery files tree window = (files.readText tree window).map lineOfText := by
  unfold readFirstLineBy readText FileTree.read FileTree.openFile
  cases tree.openNode .reading (files.bodyPath window) with
  | error error => rfl
  | ok node =>
      cases node with
      | directory => rfl
      | file key =>
          have gathered := gather_eq _ (delivery.solid (tree.content key))
          rw [delivery.flatten_pieces] at gathered
          simp only [gathered, withoutLineFeed_firstLineBytes]
          rfl

theorem readFirstLine_eq :
    files.readFirstLine tree window = (files.readText tree window).map lineOfText := by
  unfold readFirstLine readText
  cases tree.read (files.bodyPath window) with
  | error error => rfl
  | ok body =>
      simp only [withoutLineFeed_firstLineBytes]
      rfl

theorem headD_splitOn (text : Bytes) :
    (text.splitOn lineFeed).headD [] = text.takeWhile (· != lineFeed) := by
  have kept {line : Bytes} (whole : lineFeed ∉ line) (byte : UInt8) (member : byte ∈ line) :
      (byte != lineFeed) = true :=
    bne_iff_ne.mpr fun same => whole (same ▸ member)
  rcases ended_or_whole text with ⟨line, rest, rfl, whole⟩ | whole
  · rw [splitOn_line whole, List.headD_cons, List.takeWhile_append_of_pos (kept whole),
      List.takeWhile_cons_of_neg (by simp), List.append_nil]
  · rw [List.splitOn_eq_singleton whole, List.headD_cons,
      List.takeWhile_eq_self_iff.mpr (kept whole)]

/-- The first line of a window is the one that is cut from its whole text, as the windows of a
rehearsal cut it, and where no text can be read it fails with the same error. This is so for any
body and in whatever pieces its bytes come. -/
theorem first_line_is_cut_from_text (files : EditorFiles) (tree : FileTree) (window : WindowId) :
    files.readFirstLine tree window = (files.readText tree window).map lineOfText ∧
    (∀ delivery, readFirstLineBy delivery files tree window =
      files.readFirstLine tree window) ∧
    ∀ stage : Rehearsal.Stage, stage.firstLineOf window = lineOfText (stage.textOf window) := by
  refine ⟨readFirstLine_eq, fun delivery => ?_, fun stage => ?_⟩
  · rw [readFirstLineBy_eq, readFirstLine_eq]
  · rw [lineOfText, headD_splitOn]
    rfl

/-- A character that the line feed cuts in two is decoded without its end. -/
example : lineOfText [0xC3, 0x0A, 0xA9] = "\uFFFD" := by decide

end EditorFiles
end LiveHighlight

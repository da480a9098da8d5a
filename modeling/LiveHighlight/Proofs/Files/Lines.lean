import LiveHighlight.EditorFiles.Basic
import LiveHighlight.Proofs.Text.Encoding

/-!
What a stream of lines has yet to read.

The pieces in which a file is read do not show: the next line is the first line of what is unread,
and what stands behind that line stays unread. Of a text, the lines are texts again.
-/

namespace LiveHighlight.LineStream

open Utf8 (Bytes)

/-! ### Lines of bytes -/

theorem cut_of_not_mem {bytes : Bytes} (whole : lineFeed ∉ bytes) : cut bytes = (bytes, none) := by
  induction bytes with
  | nil => rfl
  | cons byte rest ih =>
      simp only [List.mem_cons, not_or] at whole
      simp [cut, Ne.symm whole.1, ih whole.2]

theorem cut_append {line : Bytes} (whole : lineFeed ∉ line) (rest : Bytes) :
    cut (line ++ lineFeed :: rest) = (line, some rest) := by
  induction line with
  | nil => simp [cut]
  | cons byte later ih =>
      simp only [List.mem_cons, not_or] at whole
      simp [cut, Ne.symm whole.1, ih whole.2]

def firstLine? (begun bytes : Bytes) : Option Bytes :=
  match cut bytes with
  | (line, some _) => some (withoutReturn (begun ++ line))
  | (line, none) => if (begun ++ line).isEmpty then none else some (begun ++ line)

def behindLine (bytes : Bytes) : Bytes :=
  (cut bytes).2.getD []

theorem firstLine?_append {line : Bytes} (whole : lineFeed ∉ line) (begun rest : Bytes) :
    firstLine? begun (line ++ lineFeed :: rest) = some (withoutReturn (begun ++ line)) := by
  rw [firstLine?, cut_append whole]

theorem firstLine?_of_not_mem {bytes : Bytes} (whole : lineFeed ∉ bytes) (begun : Bytes) :
    firstLine? begun bytes = if (begun ++ bytes).isEmpty then none else some (begun ++ bytes) := by
  rw [firstLine?, cut_of_not_mem whole]

theorem behindLine_append {line : Bytes} (whole : lineFeed ∉ line) (rest : Bytes) :
    behindLine (line ++ lineFeed :: rest) = rest := by
  rw [behindLine, cut_append whole, Option.getD_some]

theorem behindLine_of_not_mem {bytes : Bytes} (whole : lineFeed ∉ bytes) :
    behindLine bytes = [] := by
  rw [behindLine, cut_of_not_mem whole, Option.getD_none]

theorem firstLine?_of_part {part : Bytes} (whole : lineFeed ∉ part) (begun rest : Bytes) :
    firstLine? begun (part ++ rest) = firstLine? (begun ++ part) rest ∧
      behindLine (part ++ rest) = behindLine rest := by
  by_cases more : lineFeed ∈ rest
  · obtain ⟨line, later, rfl, short⟩ := List.eq_append_cons_of_mem more
    have longer : lineFeed ∉ part ++ line := by simp [whole, short]
    rw [← List.append_assoc, firstLine?_append longer, firstLine?_append short,
      behindLine_append longer, behindLine_append short, List.append_assoc]
    exact ⟨rfl, rfl⟩
  · have longer : lineFeed ∉ part ++ rest := by simp [whole, more]
    rw [firstLine?_of_not_mem longer, firstLine?_of_not_mem more, behindLine_of_not_mem longer,
      behindLine_of_not_mem more, List.append_assoc]
    exact ⟨rfl, rfl⟩

/-! ### Reading on -/

def unread (content : Bytes) (stream : LineStream) : Bytes :=
  stream.buffered ++ content.drop stream.offset

theorem remaining_eq {tree : FileTree} {stream : LineStream} {key : FileKey}
    (source : stream.source = some key) :
    stream.remaining tree = (stream.unread (tree.content key)).length := by
  simp only [remaining, source, unread, List.length_append, List.length_drop]
  omega

/-- The fuel is enough, since every piece but the last brings the end of the file nearer. -/
theorem collect_eq (content : Bytes) : ∀ (fuel : Nat) (begun : Bytes) (stream : LineStream),
    content.length - stream.offset < fuel →
      ∃ later, collect content fuel begun stream =
          (firstLine? begun (stream.unread content), later) ∧
        later.source = stream.source ∧
        later.unread content = behindLine (stream.unread content) := by
  intro fuel
  induction fuel with
  | zero => omega
  | succ fuel ih =>
      intro begun stream enough
      by_cases ends : lineFeed ∈ stream.buffered
      · obtain ⟨line, rest, buffered, short⟩ := List.eq_append_cons_of_mem ends
        have split : stream.unread content =
            line ++ lineFeed :: (rest ++ content.drop stream.offset) := by
          simp [unread, buffered]
        refine ⟨{ stream with buffered := rest }, ?_, rfl, ?_⟩
        · rw [collect, buffered, cut_append short, split, firstLine?_append short]
        · rw [split, behindLine_append short]
          rfl
      · have part := firstLine?_of_part ends begun (content.drop stream.offset)
        rw [unread, part.1, part.2, collect, cut_of_not_mem ends]
        simp only
        split
        next empty =>
          have spent : content.drop stream.offset = [] := by
            simpa [pieceSize] using empty
          refine ⟨{ stream with buffered := [] }, ?_, rfl, ?_⟩
          · simp [spent, firstLine?, cut]
          · simp [unread, spent, behindLine, cut]
        next more =>
          have solid : content.drop stream.offset ≠ [] := by
            simpa [pieceSize] using more
          have left := List.length_pos_iff.mpr solid
          simp only [List.length_drop] at left
          generalize piece_eq : (content.drop stream.offset).take pieceSize = piece
          have size : piece.length = min pieceSize (content.length - stream.offset) := by
            rw [← piece_eq, List.length_take, List.length_drop]
          have pieces : piece ++ content.drop (stream.offset + piece.length) =
              content.drop stream.offset := by
            rw [← List.drop_drop]
            exact List.prefix_iff_eq_append.mp (piece_eq ▸ List.take_prefix ..)
          have goesOn : content.length - (stream.offset + piece.length) < fuel := by
            simp only [size, pieceSize]
            omega
          -- what was buffered is put aside, and the next piece takes its place
          obtain ⟨later, collected, source, unread⟩ := ih (begun ++ stream.buffered)
            { stream with offset := stream.offset + piece.length, buffered := piece } goesOn
          simp only [LineStream.unread, pieces] at collected unread
          exact ⟨later, collected, source, unread⟩

/-! ### Lines of a text -/

theorem lineFeed_mem_encode_iff (text : List Char) : lineFeed ∈ Utf8.encode text ↔ '\n' ∈ text :=
  @Utf8.mem_encode_iff '\n' (by decide) text

theorem encode_line (line rest : List Char) :
    Utf8.encode (line ++ '\n' :: rest) = Utf8.encode line ++ lineFeed :: Utf8.encode rest := by
  rw [Utf8.encode_append, Utf8.encode_cons, Utf8.encodeChar_of_ascii (by decide)]
  rfl

def trimReturn (line : List Char) : List Char :=
  if line.getLast? = some '\r' then line.dropLast else line

theorem withoutReturn_encode (line : List Char) :
    withoutReturn (Utf8.encode line) = Utf8.encode (trimReturn line) := by
  rcases line.eq_nil_or_concat with rfl | ⟨before, last, rfl⟩
  · rfl
  · have lastByte : (Utf8.encode (before ++ [last])).getLast? = some carriageReturn ↔
        last = '\r' := by
      constructor
      · intro ends
        have member : carriageReturn ∈ String.utf8EncodeChar last := by
          rw [Utf8.encode_append, List.getLast?_append_of_ne_nil _ (by simp [Utf8.encode])] at ends
          simpa [Utf8.encode] using List.mem_of_getLast? ends
        exact ((@Utf8.mem_encodeChar_iff '\r' last (by decide)).mp member).symm
      · rintro rfl
        rw [Utf8.encode_append]
        exact List.getLast?_concat
    simp only [withoutReturn, trimReturn, List.concat_eq_append, lastByte, List.getLast?_concat,
      Option.some.injEq]
    split
    next same =>
      rw [same, Utf8.encode_append, List.dropLast_concat]
      exact List.dropLast_concat
    next => rfl

/-! ### The next line -/

def answer (line : Option Bytes) : Except FileError (Option (List Char)) :=
  match line with
  | none => .ok none
  | some bytes =>
    match Utf8.decode? bytes with
    | some text => .ok (some text)
    | none => .error .notText

theorem next_eq {tree : FileTree} {stream : LineStream} {key : FileKey}
    (source : stream.source = some key) :
    ∃ later, stream.next tree = (answer (firstLine? [] (stream.unread (tree.content key))), later) ∧
      later.source = some key ∧
      later.unread (tree.content key) = behindLine (stream.unread (tree.content key)) := by
  obtain ⟨later, collected, same, unread⟩ := collect_eq (tree.content key)
    ((tree.content key).length + 2) [] stream (by omega)
  refine ⟨later, ?_, same.trans source, unread⟩
  simp only [next, source, collected, answer]
  cases firstLine? [] (stream.unread (tree.content key)) with
  | none => rfl
  | some bytes =>
      simp only
      cases Utf8.decode? bytes <;> rfl

/-- What a stream has yet to read of a file is a text. -/
structure ReadsText (tree : FileTree) (key : FileKey) (stream : LineStream) : Prop where
  source : stream.source = some key
  unread : ∃ text, stream.unread (tree.content key) = Utf8.encode text

theorem readsText_ofFile {tree : FileTree} {key : FileKey} {text : List Char}
    (content : tree.content key = Utf8.encode text) : (ofFile key).ReadsText tree key :=
  ⟨rfl, text, by simp [unread, ofFile, content]⟩

theorem remaining_congr {tree other : FileTree} {stream : LineStream} {key : FileKey}
    (source : stream.source = some key) (same : other.content key = tree.content key) :
    stream.remaining other = stream.remaining tree := by
  rw [remaining_eq source, remaining_eq source, same]

theorem ReadsText.congr {tree other : FileTree} {stream : LineStream} {key : FileKey}
    (reads : stream.ReadsText tree key) (same : other.content key = tree.content key) :
    stream.ReadsText other key :=
  ⟨reads.source, by rw [same]; exact reads.unread⟩

theorem ReadsText.next {tree : FileTree} {stream : LineStream} {key : FileKey}
    (reads : stream.ReadsText tree key) :
    ∃ line later, stream.next tree = (.ok line, later) ∧ later.ReadsText tree key ∧
      later.remaining tree ≤ stream.remaining tree ∧
      (line.isSome = true → later.remaining tree < stream.remaining tree) := by
  obtain ⟨text, unread⟩ := reads.unread
  obtain ⟨later, next, same, behind⟩ := @next_eq tree stream key reads.source
  have before : stream.remaining tree = (Utf8.encode text).length := by
    rw [remaining_eq reads.source, unread]
  have after : later.remaining tree = (behindLine (Utf8.encode text)).length := by
    rw [remaining_eq same, behind, unread]
  rw [unread] at next behind
  rw [before]
  by_cases more : '\n' ∈ text
  · obtain ⟨line, rest, rfl, short⟩ := List.eq_append_cons_of_mem more
    have whole : lineFeed ∉ Utf8.encode line := (lineFeed_mem_encode_iff line).not.mpr short
    rw [encode_line, firstLine?_append whole, List.nil_append, withoutReturn_encode] at next
    rw [encode_line, behindLine_append whole] at behind after
    have less : later.remaining tree < (Utf8.encode (line ++ '\n' :: rest)).length := by
      rw [after, encode_line, List.length_append, List.length_cons]
      omega
    refine ⟨some (trimReturn line), later, ?_, ⟨same, rest, behind⟩, less.le, fun _ => less⟩
    rw [next, answer, Utf8.decode?_encode]
  · have whole : lineFeed ∉ Utf8.encode text := (lineFeed_mem_encode_iff text).not.mpr more
    rw [firstLine?_of_not_mem whole, List.nil_append] at next
    rw [behindLine_of_not_mem whole] at behind after
    rw [List.length_nil] at after
    cases text with
    | nil => exact ⟨none, later, next, ⟨same, [], behind⟩, after.le.trans (Nat.zero_le _), by simp⟩
    | cons c rest =>
        have solid : (Utf8.encode (c :: rest)).isEmpty = false := by simp [Utf8.encode]
        have less : later.remaining tree < (Utf8.encode (c :: rest)).length := by
          rw [after, List.length_pos_iff, ← List.isEmpty_eq_false_iff]
          exact solid
        refine ⟨some (c :: rest), later, ?_, ⟨same, [], behind⟩, less.le, fun _ => less⟩
        rw [next, solid, if_neg (by simp), answer, Utf8.decode?_encode]

end LiveHighlight.LineStream

namespace LiveHighlight.EditorFiles

variable {tree : FileTree} {key : FileKey}

theorem nextEditWithin_of_text (window : WindowId) (fuel : Nat) :
    ∀ {stream : LineStream}, stream.ReadsText tree key →
      ∃ item later, nextEditWithin tree window fuel stream = (item, later) ∧
        later.ReadsText tree key ∧ later.remaining tree ≤ stream.remaining tree ∧
        (item = .ended ∨ (∃ kind, item = .edit kind) ∧
          later.remaining tree < stream.remaining tree) := by
  induction fuel with
  | zero => exact fun {stream} reads => ⟨.ended, stream, rfl, reads, Nat.le_refl _, .inl rfl⟩
  | succ fuel ih =>
      intro stream reads
      obtain ⟨line, between, next, readsOn, atMost, less⟩ := reads.next
      rw [nextEditWithin, next]
      cases line with
      | none => exact ⟨.ended, between, rfl, readsOn, atMost, .inl rfl⟩
      | some line =>
          cases told : edit? line with
          | some kind =>
              exact ⟨.edit kind, between, by simp [told], readsOn, atMost,
                .inr ⟨⟨kind, rfl⟩, less rfl⟩⟩
          | none =>
              obtain ⟨item, later, found, readsLater, further, fate⟩ := ih readsOn
              refine ⟨item, later, by simp [told, found], readsLater, further.trans atMost, ?_⟩
              exact fate.imp id fun ⟨isEdit, shorter⟩ => ⟨isEdit, shorter.trans (less rfl)⟩

theorem nextEdit_of_text (window : WindowId) {stream : LineStream}
    (reads : stream.ReadsText tree key) :
    ∃ item later, nextEdit tree window stream = (item, later) ∧ later.ReadsText tree key ∧
      later.remaining tree ≤ stream.remaining tree ∧
      (item = .ended ∨ (∃ kind, item = .edit kind) ∧
        later.remaining tree < stream.remaining tree) :=
  nextEditWithin_of_text window _ reads

end LiveHighlight.EditorFiles

import LiveHighlight.Proofs.Span.Composition
import LiveHighlight.Proofs.Text.Encoding

/-!
The units of a written text.

Each character of a text is a unit of the bytes in which it is written, so spans of a text count
its characters.
-/

namespace LiveHighlight

open Utf8 (Bytes)

namespace CharUnit

theorem isContinuation_eq (byte : UInt8) : isContinuation byte = Utf8.isTrail byte := by
  revert byte
  decide +kernel

theorem isContinuation_trailByte (value : Nat) :
    isContinuation (Utf8.trailByte value) = true := by
  rw [isContinuation_eq, Utf8.isTrail_trailByte]

theorem declaredWidth_of_toNat {lead : UInt8} :
    declaredWidth lead =
      if 0xC0 ≤ lead.toNat ∧ lead.toNat ≤ 0xDF then 2
      else if 0xE0 ≤ lead.toNat ∧ lead.toNat ≤ 0xEF then 3
      else if 0xF0 ≤ lead.toNat ∧ lead.toNat ≤ 0xF7 then 4
      else 1 := by
  simp only [declaredWidth, UInt8.le_iff_toNat_le, UInt8.reduceToNat]

theorem width_of_written {lead : UInt8} {trail : Bytes} {c : Char}
    (written : String.utf8EncodeChar c = lead :: trail) (rest : Bytes) :
    width lead (trail ++ rest) = trail.length + 1 := by
  have valid := Utf8.toNat_lt c
  have shape := Utf8.written_encodeChar c
  rw [written] at shape
  generalize c.toNat = value at valid shape
  cases shape with
  | one small first =>
      have one : declaredWidth lead = 1 := by
        rw [declaredWidth_of_toNat, first]
        grind
      simp [width, one]
  | two lower upper first =>
      have two : declaredWidth lead = 2 := by
        rw [declaredWidth_of_toNat, first]
        grind
      simp [width, two, isContinuation_trailByte]
  | three lower upper first =>
      have three : declaredWidth lead = 3 := by
        rw [declaredWidth_of_toNat, first]
        grind
      simp [width, three, isContinuation_trailByte]
  | four lower first =>
      have four : declaredWidth lead = 4 := by
        rw [declaredWidth_of_toNat, first]
        grind
      simp [width, four, isContinuation_trailByte]

end CharUnit

def charStarts (position : Nat) : List Char → List Nat
  | [] => []
  | c :: rest => position :: charStarts (position + (String.utf8EncodeChar c).length) rest

@[simp]
theorem length_charStarts (position : Nat) (text : List Char) :
    (charStarts position text).length = text.length := by
  induction text generalizing position with
  | nil => rfl
  | cons c rest ih => simp [charStarts, ih]

theorem charStarts_append (position : Nat) (first second : List Char) :
    charStarts position (first ++ second) =
      charStarts position first ++ charStarts (position + (Utf8.encode first).length) second := by
  induction first generalizing position with
  | nil => rfl
  | cons c rest ih =>
      simp only [List.cons_append, charStarts, ih, Utf8.encode_cons, List.length_append,
        Nat.add_assoc]

theorem mem_charStarts {position start : Nat} {text : List Char}
    (member : start ∈ charStarts position text) :
    position ≤ start ∧ start < position + (Utf8.encode text).length := by
  induction text generalizing position with
  | nil => cases member
  | cons c rest ih =>
      have positive : 0 < (String.utf8EncodeChar c).length := by
        simp [String.length_utf8EncodeChar, Char.utf8Size_pos]
      rw [Utf8.encode_cons, List.length_append]
      rcases List.mem_cons.mp member with rfl | later
      · omega
      · have bounds := ih later
        omega

theorem unitStarts_encode (position : Nat) (text : List Char) :
    Reference.unitStarts position (Utf8.encode text) = charStarts position text := by
  induction text generalizing position with
  | nil => rw [Utf8.encode_nil, Reference.unitStarts, charStarts]
  | cons c rest ih =>
      cases written : String.utf8EncodeChar c with
      | nil => exact absurd written String.utf8EncodeChar_ne_nil
      | cons lead trail =>
          have width := CharUnit.width_of_written written (Utf8.encode rest)
          rw [CharUnit.width_eq] at width
          rw [Utf8.encode_cons, written, List.cons_append, Reference.unitStarts, width,
            charStarts, written, List.length_cons, Nat.add_sub_cancel, List.drop_left, ih]

theorem compose_encode (captures : List Capture) (text : List Char) (table : StyleTable) :
    compose captures (Utf8.encode text) table =
      Compose.sweep ((charStarts 0 text).map fun position =>
        (Reference.styleAt table captures position).getD StyleId.unstyled) := by
  rw [compose, Compose.unitStyles_slots, unitStarts_encode]

end LiveHighlight

import LiveHighlight.Text.Utf8
import Mathlib.Data.UInt

/-!
Texts written as UTF-8.

A character is written in one to four bytes, which are read back as that character whatever comes
behind them. So a written text is read back whole, and a byte below 128 in it is a character.
-/

namespace LiveHighlight.Utf8

/-! ### Well-formed sequences -/

section

variable {lead second third fourth : UInt8} (rest : Bytes)

theorem scalars_one (isLead : lead < 0x80) :
    scalars (lead :: rest) = some (Char.ofNat lead.toNat) :: scalars rest := by
  rw [scalars.eq_def]
  simp only [isLead, if_true]

theorem scalars_two (lower : 0xC2 ≤ lead) (upper : lead < 0xE0) (trail : isTrail second = true) :
    scalars (lead :: second :: rest) =
      some (Char.ofNat ((lead.toNat - 0xC0) * 64 + payload second)) :: scalars rest := by
  have bounds : ¬lead < 0x80 ∧ ¬lead < 0xC2 := by
    simp only [UInt8.lt_iff_toNat_lt, UInt8.le_iff_toNat_le, UInt8.reduceToNat] at *
    omega
  rw [scalars.eq_def]
  simp only [bounds, upper, trail, if_true, if_false]

theorem scalars_three (lower : 0xE0 ≤ lead) (upper : lead < 0xF0)
    (allowed : allowsSecond lead second = true) (trail : isTrail third = true) :
    scalars (lead :: second :: third :: rest) =
      some (Char.ofNat (((lead.toNat - 0xE0) * 64 + payload second) * 64 + payload third)) ::
        scalars rest := by
  have bounds : ¬lead < 0x80 ∧ ¬lead < 0xC2 ∧ ¬lead < 0xE0 ∧ lead < 0xF5 := by
    simp only [UInt8.lt_iff_toNat_lt, UInt8.le_iff_toNat_le, UInt8.reduceToNat] at *
    omega
  rw [scalars.eq_def]
  simp only [bounds, upper, allowed, trail, if_true, if_false]

theorem scalars_four (lower : 0xF0 ≤ lead) (upper : lead < 0xF5)
    (allowed : allowsSecond lead second = true) (trail : isTrail third = true)
    (last : isTrail fourth = true) :
    scalars (lead :: second :: third :: fourth :: rest) =
      some (Char.ofNat ((((lead.toNat - 0xF0) * 64 + payload second) * 64 + payload third) * 64 +
        payload fourth)) :: scalars rest := by
  have bounds : ¬lead < 0x80 ∧ ¬lead < 0xC2 ∧ ¬lead < 0xE0 ∧ ¬lead < 0xF0 := by
    simp only [UInt8.lt_iff_toNat_lt, UInt8.le_iff_toNat_le, UInt8.reduceToNat] at *
    omega
  rw [scalars.eq_def]
  simp only [bounds, upper, allowed, trail, last, if_true, if_false]

end

/-! ### Characters -/

theorem toNat_ofNat {value : Nat} (bound : value < 256) : (UInt8.ofNat value).toNat = value := by
  simp [UInt8.toNat_ofNat', Nat.mod_eq_of_lt bound]

def trailByte (value : Nat) : UInt8 :=
  UInt8.ofNat (value % 64 + 128)

theorem toNat_trailByte (value : Nat) : (trailByte value).toNat = value % 64 + 128 :=
  toNat_ofNat (by omega)

theorem isTrail_trailByte (value : Nat) : isTrail (trailByte value) = true := by
  simp only [isTrail, Bool.and_eq_true, decide_eq_true_eq, UInt8.le_iff_toNat_le, toNat_trailByte,
    UInt8.reduceToNat]
  omega

theorem payload_trailByte (value : Nat) : payload (trailByte value) = value % 64 := by
  rw [payload, toNat_trailByte]
  omega

inductive Written (value : Nat) : Bytes → Prop
  | one {lead} (small : value < 0x80) (first : lead.toNat = value) : Written value [lead]
  | two {lead} (lower : 0x80 ≤ value) (upper : value < 0x800)
      (first : lead.toNat = value / 64 + 0xC0) : Written value [lead, trailByte value]
  | three {lead} (lower : 0x800 ≤ value) (upper : value < 0x10000)
      (first : lead.toNat = value / 4096 + 0xE0) :
      Written value [lead, trailByte (value / 64), trailByte value]
  | four {lead} (lower : 0x10000 ≤ value) (first : lead.toNat = value / 262144 + 0xF0) :
      Written value [lead, trailByte (value / 4096), trailByte (value / 64), trailByte value]

theorem toNat_lt (c : Char) :
    c.toNat < 0xD800 ∨ 0xDFFF < c.toNat ∧ c.toNat < 0x110000 :=
  c.valid

theorem written_encodeChar (c : Char) : Written c.toNat (String.utf8EncodeChar c) := by
  have valid := toNat_lt c
  simp only [String.utf8EncodeChar, Char.toNat_val]
  generalize c.toNat = value at valid
  split
  next small => exact .one (by omega) (toNat_ofNat (by omega))
  next =>
    split
    next =>
      refine .two (by omega) (by omega) ?_
      rw [toNat_ofNat (by omega)]
      omega
    next =>
      split
      next =>
        refine .three (by omega) (by omega) ?_
        rw [toNat_ofNat (by omega)]
        omega
      next =>
        refine .four (by omega) ?_
        rw [toNat_ofNat (by omega)]
        omega

theorem scalars_encodeChar_append (c : Char) (rest : Bytes) :
    scalars (String.utf8EncodeChar c ++ rest) = some c :: scalars rest := by
  have valid := toNat_lt c
  have same : Char.ofNat c.toNat = c := Char.ofNat_toNat c
  have written := written_encodeChar c
  generalize String.utf8EncodeChar c = bytes at written
  generalize c.toNat = value at valid same written
  cases written with
  | @one lead small first =>
      have isLead : lead < 0x80 := by
        simp only [UInt8.lt_iff_toNat_lt, first, UInt8.reduceToNat]
        exact small
      rw [List.singleton_append, scalars_one rest isLead, first, same]
  | @two lead lower upper first =>
      have bounds : 0xC2 ≤ lead ∧ lead < 0xE0 := by
        simp only [UInt8.lt_iff_toNat_lt, UInt8.le_iff_toNat_le, first, UInt8.reduceToNat]
        omega
      have total : (value / 64 + 0xC0 - 0xC0) * 64 + value % 64 = value := by omega
      simp only [List.cons_append, List.nil_append]
      rw [scalars_two rest bounds.1 bounds.2 (isTrail_trailByte value), first, payload_trailByte,
        total, same]
  | @three lead lower upper first =>
      have bounds : 0xE0 ≤ lead ∧ lead < 0xF0 := by
        simp only [UInt8.lt_iff_toNat_lt, UInt8.le_iff_toNat_le, first, UInt8.reduceToNat]
        omega
      have allowed : allowsSecond lead (trailByte (value / 64)) = true := by
        simp only [allowsSecond, isTrail, ← UInt8.toNat_inj, UInt8.le_iff_toNat_le, first,
          toNat_trailByte, UInt8.reduceToNat]
        grind
      have total : ((value / 4096 + 0xE0 - 0xE0) * 64 + value / 64 % 64) * 64 + value % 64 =
          value := by
        omega
      simp only [List.cons_append, List.nil_append]
      rw [scalars_three rest bounds.1 bounds.2 allowed (isTrail_trailByte value), first,
        payload_trailByte, payload_trailByte, total, same]
  | @four lead lower first =>
      have bounds : 0xF0 ≤ lead ∧ lead < 0xF5 := by
        simp only [UInt8.lt_iff_toNat_lt, UInt8.le_iff_toNat_le, first, UInt8.reduceToNat]
        omega
      have allowed : allowsSecond lead (trailByte (value / 4096)) = true := by
        simp only [allowsSecond, isTrail, ← UInt8.toNat_inj, UInt8.le_iff_toNat_le, first,
          toNat_trailByte, UInt8.reduceToNat]
        grind
      have total : (((value / 262144 + 0xF0 - 0xF0) * 64 + value / 4096 % 64) * 64 +
          value / 64 % 64) * 64 + value % 64 = value := by
        omega
      simp only [List.cons_append, List.nil_append]
      rw [scalars_four rest bounds.1 bounds.2 allowed (isTrail_trailByte _)
        (isTrail_trailByte value), first, payload_trailByte, payload_trailByte, payload_trailByte,
        total, same]

/-! ### Texts -/

@[simp]
theorem encode_nil : encode [] = [] := rfl

theorem encode_cons (c : Char) (rest : List Char) :
    encode (c :: rest) = String.utf8EncodeChar c ++ encode rest := by
  simp [encode]

@[simp]
theorem encode_append (first second : List Char) :
    encode (first ++ second) = encode first ++ encode second := by
  simp [encode]

theorem scalars_encode (text : List Char) : scalars (encode text) = text.map some := by
  induction text with
  | nil => rfl
  | cons c rest ih => rw [encode_cons, scalars_encodeChar_append, ih, List.map_cons]

theorem decode?_encode (text : List Char) : decode? (encode text) = some text := by
  rw [decode?, scalars_encode]
  induction text with
  | nil => rfl
  | cons c rest ih => simp [List.mapM_cons, ih]

/-! ### Bytes below 128 -/

theorem encodeChar_of_ascii {c : Char} (ascii : c.toNat < 0x80) :
    String.utf8EncodeChar c = [UInt8.ofNat c.toNat] := by
  have written := written_encodeChar c
  generalize String.utf8EncodeChar c = bytes at written ⊢
  cases written with
  | one small first => rw [← first, UInt8.ofNat_toNat]
  | two lower | three lower | four lower => omega

theorem mem_encodeChar_iff {a c : Char} (ascii : a.toNat < 0x80) :
    UInt8.ofNat a.toNat ∈ String.utf8EncodeChar c ↔ a = c := by
  have isByte : (UInt8.ofNat a.toNat).toNat = a.toNat := toNat_ofNat (by omega)
  have written := written_encodeChar c
  generalize String.utf8EncodeChar c = bytes at written ⊢
  cases written with
  | one small first =>
      rw [List.mem_singleton, ← UInt8.toNat_inj, isByte, first, Char.toNat_inj]
  | two lower _ first | three lower _ first | four lower first =>
      -- all these bytes are at least 128
      have different : a ≠ c := by
        rintro rfl
        omega
      simp only [List.mem_cons, List.not_mem_nil, or_false, ← UInt8.toNat_inj, isByte, first,
        toNat_trailByte, different, iff_false]
      omega

theorem mem_encode_iff {a : Char} (ascii : a.toNat < 0x80) (text : List Char) :
    UInt8.ofNat a.toNat ∈ encode text ↔ a ∈ text := by
  simp only [encode, List.mem_flatMap, mem_encodeChar_iff ascii, exists_eq_right']

end LiveHighlight.Utf8

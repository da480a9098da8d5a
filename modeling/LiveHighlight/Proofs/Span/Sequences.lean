import LiveHighlight.Proofs.Span.Characters

/-!
Units and well-formed sequences.

A decoder that is strict takes a byte for itself wherever no character begins as it is written. The
units are cut by declared widths and trail bytes alone. So a unit of several bytes may spell a
number for which the sequence is too long, a surrogate, or a number behind the last character, and
the units are those of the strict decoder just if none does.
-/

namespace LiveHighlight

open Utf8 (Bytes)

namespace Utf8

/-! ### A strict decoder -/

def char? (bytes : Bytes) : Option Char :=
  bytes.toByteArray.utf8DecodeChar? 0

theorem char?_eq_some_iff {bytes : Bytes} {c : Char} :
    char? bytes = some c ↔ String.utf8EncodeChar c <+: bytes := by
  constructor
  · intro found
    obtain ⟨rest, whole⟩ := ByteArray.exists_of_utf8DecodeChar?_eq_some found
    refine ⟨rest.data.toList, ?_⟩
    have data := congrArg (fun array => array.data.toList) whole
    simpa using data.symm
  · rintro ⟨rest, rfl⟩
    rw [char?, List.toByteArray_append]
    exact ByteArray.utf8DecodeChar?_utf8EncodeChar_append

/-- Bytes cut into characters as they are written, with each byte outside of them for itself. -/
def pieces : Bytes → List Bytes
  | [] => []
  | lead :: rest =>
    match char? (lead :: rest) with
    | some c => String.utf8EncodeChar c :: pieces (rest.drop (c.utf8Size - 1))
    | none => [lead] :: pieces rest
termination_by bytes => bytes.length

theorem pieces_nil : pieces [] = [] := by
  rw [pieces]

theorem pieces_of_char {lead : UInt8} {rest : Bytes} {c : Char}
    (begins : String.utf8EncodeChar c <+: lead :: rest) :
    pieces (lead :: rest) = String.utf8EncodeChar c :: pieces (rest.drop (c.utf8Size - 1)) := by
  rw [pieces, char?_eq_some_iff.mpr begins]

theorem pieces_of_bad {lead : UInt8} {rest : Bytes}
    (bad : ∀ c, ¬String.utf8EncodeChar c <+: lead :: rest) :
    pieces (lead :: rest) = [lead] :: pieces rest := by
  have none : char? (lead :: rest) = none := by
    rw [Option.eq_none_iff_forall_ne_some]
    exact fun c found => bad c (char?_eq_some_iff.mp found)
  rw [pieces, none]

/-! ### Spelled numbers -/

/-- The number that a sequence spells: what its lead byte carries, and six bits of each byte
behind it. -/
def spelled : Bytes → Nat
  | [] => 0
  | [byte] => byte.toNat
  | lead :: trail =>
    trail.foldl (fun value byte => value * 64 + payload byte) (lead.toNat % 2 ^ (6 - trail.length))

def leastSpelled : Nat → Nat
  | 2 => 0x80
  | 3 => 0x800
  | 4 => 0x10000
  | _ => 0

/-- A sequence spells a number that needs fewer bytes, or one that is no character's. -/
def IsMisspelled (bytes : Bytes) : Prop :=
  spelled bytes < leastSpelled bytes.length ∨
    (0xD800 ≤ spelled bytes ∧ spelled bytes ≤ 0xDFFF) ∨ 0x10FFFF < spelled bytes

theorem Written.unique {value : Nat} {first second : Bytes} (one : Written value first)
    (other : Written value second) : first = second := by
  cases one <;> cases other <;> first
    | omega
    | simp only [List.cons.injEq, and_true, ← UInt8.toNat_inj]; omega

theorem encodeChar_of_written {value : Nat} {bytes : Bytes} (written : Written value bytes)
    (valid : value < 0xD800 ∨ 0xDFFF < value ∧ value < 0x110000) :
    String.utf8EncodeChar (Char.ofNat value) = bytes := by
  have isChar : value.isValidChar := by
    simp only [Nat.isValidChar]
    omega
  have same : (Char.ofNat value).toNat = value := by
    rw [Char.ofNat, dif_pos isChar]
    rfl
  have canonical := written_encodeChar (Char.ofNat value)
  rw [same] at canonical
  exact canonical.unique written

theorem eq_trailByte {byte : UInt8} (trail : isTrail byte = true) {value : Nat}
    (carries : payload byte = value % 64) : byte = trailByte value := by
  rw [← UInt8.toNat_inj, toNat_trailByte]
  simp only [isTrail, payload, Bool.and_eq_true, decide_eq_true_eq, UInt8.le_iff_toNat_le,
    UInt8.reduceToNat] at trail carries
  omega

theorem spelled_of_written {value : Nat} {bytes : Bytes} (written : Written value bytes)
    (valid : value < 0x110000) : spelled bytes = value := by
  cases written with
  | one small first => exact first
  | two lower upper first =>
      simp only [spelled, List.foldl_cons, List.foldl_nil, List.length_cons, List.length_nil, first,
        payload_trailByte]
      omega
  | three lower upper first =>
      simp only [spelled, List.foldl_cons, List.foldl_nil, List.length_cons, List.length_nil, first,
        payload_trailByte]
      omega
  | four lower first =>
      simp only [spelled, List.foldl_cons, List.foldl_nil, List.length_cons, List.length_nil, first,
        payload_trailByte]
      omega

theorem not_isMisspelled_encodeChar (c : Char) : ¬IsMisspelled (String.utf8EncodeChar c) := by
  have valid := toNat_lt c
  have written := written_encodeChar c
  have spells := spelled_of_written written (by omega)
  generalize String.utf8EncodeChar c = bytes at written spells
  rw [IsMisspelled, spells]
  cases written <;> simp only [List.length_cons, List.length_nil, leastSpelled] <;> omega

section

variable {value : Nat} {lead second third fourth : UInt8}

theorem written_two (low : 0xC0 ≤ lead.toNat) (high : lead.toNat ≤ 0xDF)
    (trail : isTrail second = true) (spells : spelled [lead, second] = value)
    (least : 0x80 ≤ value) : Written value [lead, second] := by
  simp only [spelled, List.foldl_cons, List.foldl_nil, List.length_cons, List.length_nil] at spells
  have small : payload second < 64 := Nat.mod_lt _ (by decide)
  obtain rfl : second = trailByte value := eq_trailByte trail (by omega)
  exact .two least (by omega) (by omega)

theorem written_three (low : 0xE0 ≤ lead.toNat) (high : lead.toNat ≤ 0xEF)
    (trail : isTrail second = true) (trail' : isTrail third = true)
    (spells : spelled [lead, second, third] = value) (least : 0x800 ≤ value) :
    Written value [lead, second, third] := by
  simp only [spelled, List.foldl_cons, List.foldl_nil, List.length_cons, List.length_nil] at spells
  have small : payload second < 64 ∧ payload third < 64 :=
    ⟨Nat.mod_lt _ (by decide), Nat.mod_lt _ (by decide)⟩
  obtain rfl : second = trailByte (value / 64) := eq_trailByte trail (by omega)
  obtain rfl : third = trailByte value := eq_trailByte trail' (by omega)
  exact .three least (by omega) (by omega)

theorem written_four (low : 0xF0 ≤ lead.toNat) (high : lead.toNat ≤ 0xF7)
    (trail : isTrail second = true) (trail' : isTrail third = true)
    (trail'' : isTrail fourth = true) (spells : spelled [lead, second, third, fourth] = value)
    (least : 0x10000 ≤ value) : Written value [lead, second, third, fourth] := by
  simp only [spelled, List.foldl_cons, List.foldl_nil, List.length_cons, List.length_nil] at spells
  have small : payload second < 64 ∧ payload third < 64 ∧ payload fourth < 64 :=
    ⟨Nat.mod_lt _ (by decide), Nat.mod_lt _ (by decide), Nat.mod_lt _ (by decide)⟩
  obtain rfl : second = trailByte (value / 4096) := eq_trailByte trail (by omega)
  obtain rfl : third = trailByte (value / 64) := eq_trailByte trail' (by omega)
  obtain rfl : fourth = trailByte value := eq_trailByte trail'' (by omega)
  exact .four least (by omega)

end

end Utf8

namespace CharUnit

/-! ### Units -/

def units : Bytes → List Bytes
  | [] => []
  | lead :: rest =>
    (lead :: rest.take (width lead rest - 1)) :: units (rest.drop (width lead rest - 1))
termination_by bytes => bytes.length

theorem units_nil : units [] = [] := by
  rw [units]

theorem units_cons (lead : UInt8) (rest : Bytes) :
    units (lead :: rest) =
      (lead :: rest.take (width lead rest - 1)) :: units (rest.drop (width lead rest - 1)) := by
  rw [units]

theorem flatten_units (source : Bytes) : (units source).flatten = source := by
  fun_induction units source with
  | case1 => rfl
  | case2 lead rest ih => simp [ih]

theorem leadsFrom_eq (bytes : Bytes) : ∀ inside ≤ bytes.length,
    leadsFrom inside bytes = List.replicate inside false ++ leads (bytes.drop inside) := by
  induction bytes with
  | nil =>
      intro inside bound
      obtain rfl : inside = 0 := by simpa using bound
      rfl
  | cons lead rest ih =>
      intro inside bound
      cases inside with
      | zero => rfl
      | succ inside =>
          rw [leadsFrom, ih inside (by simpa using bound), List.replicate_succ, List.cons_append,
            List.drop_succ_cons]

theorem leads_eq (source : Bytes) :
    leads source =
      (units source).flatMap fun unit => true :: List.replicate (unit.length - 1) false := by
  fun_induction units source with
  | case1 => rfl
  | case2 lead rest ih =>
      have within := width_le lead rest
      have taken : (rest.take (width lead rest - 1)).length = width lead rest - 1 := by
        rw [List.length_take]
        omega
      rw [List.flatMap_cons, ← ih, List.length_cons, taken, leads, leadsFrom,
        leadsFrom_eq rest _ (by omega)]
      simp

structure IsComplete (lead : UInt8) (trail : Bytes) : Prop where
  declares : declaredWidth lead = trail.length + 1
  nonempty : trail ≠ []
  continues : ∀ byte ∈ trail, Utf8.isTrail byte = true

theorem unit_cases (lead : UInt8) (rest : Bytes) :
    rest.take (width lead rest - 1) = [] ∨ IsComplete lead (rest.take (width lead rest - 1)) := by
  by_cases alone : rest.take (width lead rest - 1) = []
  · exact .inl alone
  refine .inr ?_
  by_cases full : (rest.take (declaredWidth lead - 1)).length = declaredWidth lead - 1 ∧
      (rest.take (declaredWidth lead - 1)).all isContinuation = true
  · have same : width lead rest = declaredWidth lead := by
      simp only [width]
      rw [if_pos full]
    rw [same] at alone ⊢
    have positive := one_le_declaredWidth lead
    refine ⟨by omega, alone, ?_⟩
    simpa only [List.all_eq_true, isContinuation_eq] using full.2
  · have single : width lead rest = 1 := by
      simp only [width]
      rw [if_neg full]
    rw [single] at alone
    exact absurd rfl alone

theorem IsComplete.exists_char {lead : UInt8} {trail : Bytes} (complete : IsComplete lead trail)
    (spelledWell : ¬Utf8.IsMisspelled (lead :: trail)) :
    ∃ c, lead :: trail = String.utf8EncodeChar c := by
  have declares := complete.declares
  have continues := complete.continues
  simp only [Utf8.IsMisspelled, not_or, Nat.not_lt] at spelledWell
  obtain ⟨least, valid, below⟩ := spelledWell
  refine ⟨Char.ofNat (Utf8.spelled (lead :: trail)),
    (Utf8.encodeChar_of_written ?_ (by omega)).symm⟩
  rw [declaredWidth_of_toNat] at declares
  match trail with
  | [] => exact absurd rfl complete.nonempty
  | [second] =>
      simp only [List.length_cons, List.length_nil] at declares
      simp only [List.forall_mem_cons] at continues
      exact Utf8.written_two (by grind) (by grind) continues.1 rfl least
  | [second, third] =>
      simp only [List.length_cons, List.length_nil] at declares
      simp only [List.forall_mem_cons] at continues
      exact Utf8.written_three (by grind) (by grind) continues.1 continues.2.1 rfl least
  | [second, third, fourth] =>
      simp only [List.length_cons, List.length_nil] at declares
      simp only [List.forall_mem_cons] at continues
      exact Utf8.written_four (by grind) (by grind) continues.1 continues.2.1 continues.2.2.1 rfl
        least
  | _ :: _ :: _ :: _ :: _ =>
      simp only [List.length_cons] at declares
      grind

theorem unit_of_char {lead : UInt8} {rest : Bytes} {c : Char}
    (begins : String.utf8EncodeChar c <+: lead :: rest) :
    lead :: rest.take (width lead rest - 1) = String.utf8EncodeChar c ∧
      rest.drop (width lead rest - 1) = rest.drop (c.utf8Size - 1) := by
  obtain ⟨behind, whole⟩ := begins
  cases written : String.utf8EncodeChar c with
  | nil => exact absurd written String.utf8EncodeChar_ne_nil
  | cons first trail =>
      rw [written, List.cons_append, List.cons.injEq] at whole
      obtain ⟨rfl, rfl⟩ := whole
      have size : c.utf8Size = trail.length + 1 := by
        rw [← String.length_utf8EncodeChar, written, List.length_cons]
      rw [width_of_written written behind, size]
      simp

theorem unit_at {source : Bytes} {before : List Bytes} {unit : Bytes} {behind : List Bytes}
    (split : units source = before ++ unit :: behind) :
    ∃ lead rest, unit = lead :: rest.take (width lead rest - 1) ∧
      unit ++ behind.flatten = lead :: rest := by
  fun_induction units source generalizing before with
  | case1 => simp at split
  | case2 lead rest ih =>
      cases before with
      | nil =>
          rw [List.nil_append, List.cons.injEq] at split
          obtain ⟨rfl, rfl⟩ := split
          refine ⟨lead, rest, rfl, ?_⟩
          rw [flatten_units, List.cons_append, List.take_append_drop]
      | cons first later =>
          rw [List.cons_append, List.cons.injEq] at split
          exact ih split.2

/-! ### Against the strict decoder -/

theorem units_eq_pieces {source : Bytes}
    (spelledWell : ∀ unit ∈ units source, ¬Utf8.IsMisspelled unit) :
    units source = Utf8.pieces source := by
  fun_induction units source with
  | case1 => rw [Utf8.pieces_nil]
  | case2 lead rest ih =>
      simp only [List.forall_mem_cons] at spelledWell
      by_cases begins : ∃ c, String.utf8EncodeChar c <+: lead :: rest
      · obtain ⟨c, begins⟩ := begins
        obtain ⟨unit, behind⟩ := unit_of_char begins
        rw [Utf8.pieces_of_char begins, unit, ← behind, ih spelledWell.2]
      · have bad : ∀ c, ¬String.utf8EncodeChar c <+: lead :: rest := fun c here => begins ⟨c, here⟩
        -- the decoder takes one byte here; a complete unit would begin with a character after all
        rcases unit_cases lead rest with single | complete
        · have all : rest.drop (width lead rest - 1) = rest := by
            conv_rhs => rw [← List.take_append_drop (width lead rest - 1) rest, single]
            rfl
          rw [all] at ih spelledWell ⊢
          rw [Utf8.pieces_of_bad bad, single, ih spelledWell.2]
        · obtain ⟨c, written⟩ := complete.exists_char spelledWell.1
          refine absurd ?_ (bad c)
          rw [← written]
          exact List.prefix_cons_inj lead |>.mpr (List.take_prefix _ _)

theorem not_isMisspelled_of_mem_pieces {source : Bytes} :
    ∀ piece ∈ Utf8.pieces source, ¬Utf8.IsMisspelled piece := by
  fun_induction Utf8.pieces source with
  | case1 => simp
  | case2 lead rest c found ih =>
      rw [List.forall_mem_cons]
      exact ⟨Utf8.not_isMisspelled_encodeChar c, ih⟩
  | case3 lead rest none ih =>
      rw [List.forall_mem_cons]
      have byte := lead.toNat_lt
      refine ⟨?_, ih⟩
      simp only [Utf8.IsMisspelled, Utf8.spelled, List.length_cons, List.length_nil,
        Utf8.leastSpelled]
      omega

/-- The units, which begin where the sweep counts, take up the source. Each is a single byte, a
character as it is written, or a complete sequence that is misspelled, and no character's bytes are
ever cut. So the units are the pieces of the strict decoder exactly if none is misspelled. -/
theorem units_are_pieces_unless_misspelled (source : Bytes) :
    (units source).flatten = source ∧
    leads source =
      ((units source).flatMap fun unit => true :: List.replicate (unit.length - 1) false) ∧
    (∀ before unit behind, units source = before ++ unit :: behind →
      (unit.length = 1 ∨ (∃ c, unit = String.utf8EncodeChar c) ∨
        Utf8.IsMisspelled unit ∧ ∃ lead trail, unit = lead :: trail ∧ IsComplete lead trail) ∧
      ∀ c, String.utf8EncodeChar c <+: unit ++ behind.flatten →
        unit = String.utf8EncodeChar c) ∧
    (units source = Utf8.pieces source ↔ ∀ unit ∈ units source, ¬Utf8.IsMisspelled unit) := by
  refine ⟨flatten_units source, leads_eq source, ?_, ?_, units_eq_pieces⟩
  · intro before unit behind split
    obtain ⟨lead, rest, rfl, whole⟩ := unit_at split
    refine ⟨?_, fun c begins => (unit_of_char (whole ▸ begins)).1⟩
    rcases unit_cases lead rest with single | complete
    · exact .inl (by rw [single]; rfl)
    · by_cases misspelled : Utf8.IsMisspelled (lead :: rest.take (width lead rest - 1))
      · exact .inr (.inr ⟨misspelled, lead, _, rfl, complete⟩)
      · exact .inr (.inl (complete.exists_char misspelled))
  · intro same
    rw [same]
    exact not_isMisspelled_of_mem_pieces

/-- The two bytes of an overlong zero are one unit, and a span over both counts one character,
where the strict decoder finds two bad bytes. -/
theorem overlong_zero_is_one_unit :
    units [0xC0, 0x80] = [[0xC0, 0x80]] ∧ Utf8.pieces [0xC0, 0x80] = [[0xC0], [0x80]] ∧
      (¬∃ c, [0xC0, 0x80] = String.utf8EncodeChar c) ∧
      compose [⟨"keyword", 0, 2⟩] [0xC0, 0x80] .builtin = [⟨3, 0, 1⟩] := by
  have bad : Utf8.char? [0xC0, 0x80] = none ∧ Utf8.char? [0x80] = none := by decide +kernel
  refine ⟨?_, ?_, ?_, by decide +kernel⟩
  · simp [units_cons, units_nil, show width 0xC0 [0x80] = 2 by decide]
  · rw [Utf8.pieces, bad.1, Utf8.pieces, bad.2, Utf8.pieces_nil]
  · rintro ⟨c, written⟩
    refine Utf8.not_isMisspelled_encodeChar c ?_
    rw [← written]
    exact .inl (by decide)

end CharUnit
end LiveHighlight

import LiveHighlight.Text.Blank
import LiveHighlight.Text.Numeral
import Mathlib.Data.List.Induction
import Mathlib.Data.Nat.Digits.Defs

/-!
Numerals as they are written are read back: what a number is written as holds digits only, and the
reader of numerals returns the number. It reads nothing else but zeros in front, and a plus sign.
-/

namespace LiveHighlight.Text

theorem foldlM_digitValue? (digits : List Char) :
    ∀ value, (∀ c ∈ digits, c.isDigit = true) →
      digits.foldlM (fun value c => (digitValue? c).map (10 * value + ·)) value =
        some (Nat.ofDigitChars 10 digits value) := by
  induction digits with
  | nil => intro value _; rfl
  | cons first rest ih =>
      intro value allDigits
      have digit := allDigits first (by simp)
      have later := ih (10 * value + (first.toNat - '0'.toNat))
        (fun c member => allDigits c (by simp [member]))
      simpa [digitValue?, digit, Nat.ofDigitChars] using later

theorem digitsValue?_toDigits (number : Nat) :
    digitsValue? (Nat.toDigits 10 number) = some number := by
  have read := foldlM_digitValue? (Nat.toDigits 10 number) 0
    (fun c member => Nat.isDigit_of_mem_toDigits (by decide) (by decide) member)
  rw [Nat.ofDigitChars_toDigits (by decide) (by decide)] at read
  unfold digitsValue?
  split
  next empty => exact absurd empty Nat.toDigits_ne_nil
  next => exact read

theorem not_mem_toDigits {c : Char} (other : c.isDigit = false) (number : Nat) :
    c ∉ Nat.toDigits 10 number := by
  intro member
  have digit : c.isDigit = true := Nat.isDigit_of_mem_toDigits (by decide) (by decide) member
  rw [other] at digit
  cases digit

theorem toList_toString (number : UInt32) :
    (toString number).toList = Nat.toDigits 10 number.toNat :=
  String.toList_ofList

theorem isDigit_of_mem_toString {number : UInt32} {c : Char}
    (member : c ∈ (toString number).toList) : c.isDigit = true := by
  rw [toList_toString] at member
  exact Nat.isDigit_of_mem_toDigits (by decide) (by decide) member

theorem not_mem_toString {c : Char} (other : c.isDigit = false) (number : UInt32) :
    c ∉ (toString number).toList := by
  rw [toList_toString]
  exact not_mem_toDigits other _

theorem unsigned?_toDigits (bound number : Nat) (small : number ≤ bound) :
    unsigned? bound (Nat.toDigits 10 number) = some number := by
  unfold unsigned?
  split
  next rest sign =>
    have member : '+' ∈ Nat.toDigits 10 number := by simp [sign]
    exact absurd member (not_mem_toDigits (by decide) number)
  next => simp [digitsValue?_toDigits, small]

theorem u32?_toString (number : UInt32) : u32? (toString number).toList = some number := by
  have small : number.toNat ≤ UInt32.size - 1 := by
    have := number.toNat_lt
    simp only [UInt32.size]
    omega
  rw [u32?, toList_toString, unsigned?_toDigits _ _ small]
  simp

theorem toString_injective {first second : UInt32} (same : toString first = toString second) :
    first = second := by
  have read := u32?_toString first
  rw [same, u32?_toString] at read
  exact (Option.some.inj read).symm

theorem isBlank_of_isDigit {c : Char} (digit : c.isDigit = true) : isBlank c = false := by
  simp only [Char.isDigit, Bool.and_eq_true, decide_eq_true_eq, ge_iff_le,
    UInt32.le_iff_toNat_le] at digit
  have lower : 48 ≤ c.toNat := digit.1
  have upper : c.toNat ≤ 57 := digit.2
  simp only [isBlank, blankRanges, List.any_cons, List.any_nil, Bool.or_false, Bool.or_eq_false_iff,
    Bool.and_eq_false_iff, decide_eq_false_iff_not]
  omega

/-! ### Which texts are numerals -/

/-- Whether a text is a number in decimal, with any zeros in front of it and perhaps a plus sign in
front of these. -/
def Denotes (text : List Char) (number : Nat) : Prop :=
  ∃ sign zeros, (sign = [] ∨ sign = ['+']) ∧
    text = sign ++ (List.replicate zeros '0' ++ Nat.toDigits 10 number)

theorem digitChar_of_isDigit {c : Char} (digit : c.isDigit = true) :
    c.toNat - '0'.toNat < 10 ∧ Nat.digitChar (c.toNat - '0'.toNat) = c := by
  simp only [Char.isDigit, Bool.and_eq_true, decide_eq_true_eq, ge_iff_le,
    UInt32.le_iff_toNat_le] at digit
  have lower : 48 ≤ c.toNat := digit.1
  have upper : c.toNat ≤ 57 := digit.2
  have zero : '0'.toNat = 48 := rfl
  refine ⟨by omega, ?_⟩
  rw [← Char.toNat_inj, Nat.toNat_digitChar_of_lt_ten (by omega)]
  omega

theorem ofDigitChars_zeros (zeros : Nat) (digits : List Char) :
    Nat.ofDigitChars 10 (List.replicate zeros '0' ++ digits) 0 = Nat.ofDigitChars 10 digits 0 := by
  induction zeros with
  | zero => rfl
  | succ zeros ih => rw [List.replicate_succ, List.cons_append, Nat.ofDigitChars_cons]; exact ih

theorem exists_zeros {digits : List Char} (nonempty : digits ≠ [])
    (allDigits : ∀ c ∈ digits, c.isDigit = true) :
    ∃ zeros, digits =
      List.replicate zeros '0' ++ Nat.toDigits 10 (Nat.ofDigitChars 10 digits 0) := by
  induction digits using List.reverseRecOn with
  | nil => exact absurd rfl nonempty
  | append_singleton earlier last ih =>
      obtain ⟨small, digit⟩ := digitChar_of_isDigit (allDigits last (by simp))
      have single := Nat.toDigits_of_lt_base small
      rw [digit] at single
      have value : Nat.ofDigitChars 10 (earlier ++ [last]) 0 =
          10 * Nat.ofDigitChars 10 earlier 0 + (last.toNat - '0'.toNat) := by
        rw [Nat.ofDigitChars_append]
        rfl
      by_cases first : earlier = []
      · subst first
        exact ⟨0, by rw [value]; simpa [Nat.ofDigitChars] using single.symm⟩
      · obtain ⟨zeros, split⟩ := ih first fun c member => allDigits c (by simp [member])
        rw [value]
        rcases Nat.eq_zero_or_pos (Nat.ofDigitChars 10 earlier 0) with zero | positive
        · refine ⟨zeros + 1, ?_⟩
          rw [zero] at split ⊢
          rw [Nat.mul_zero, Nat.zero_add, single, List.replicate_succ', split]
          rfl
        · refine ⟨zeros, ?_⟩
          conv_lhs => rw [split]
          rw [List.append_assoc, ← single, Nat.toDigits_append_toDigits (by decide) positive small]

theorem isDigit_of_foldlM {digits : List Char} {start value : Nat}
    (read : digits.foldlM (fun value c => (digitValue? c).map (10 * value + ·)) start =
      some value) : ∀ c ∈ digits, c.isDigit = true := by
  induction digits generalizing start with
  | nil => simp
  | cons first rest ih =>
      simp only [List.foldlM_cons, bind, Option.bind_eq_some_iff, Option.map_eq_some_iff] at read
      obtain ⟨_, ⟨digit, isDigit, _⟩, later⟩ := read
      rw [List.forall_mem_cons]
      refine ⟨?_, ih later⟩
      unfold digitValue? at isDigit
      split at isDigit
      next yes => exact yes
      next => cases isDigit

theorem zeros_toDigits_ne_plus (zeros number : Nat) (rest : List Char) :
    List.replicate zeros '0' ++ Nat.toDigits 10 number ≠ '+' :: rest := by
  intro same
  have first : '+' ∈ List.replicate zeros '0' ++ Nat.toDigits 10 number := by simp [same]
  rcases List.mem_append.mp first with zero | digit
  · exact absurd (List.eq_of_mem_replicate zero) (by decide)
  · exact absurd digit (not_mem_toDigits (by decide) number)

theorem digitsValue?_eq_some_iff {digits : List Char} {number : Nat} :
    digitsValue? digits = some number ↔
      ∃ zeros, digits = List.replicate zeros '0' ++ Nat.toDigits 10 number := by
  constructor
  · intro read
    cases digits with
    | nil => cases read
    | cons first rest =>
        have allDigits := isDigit_of_foldlM read
        obtain ⟨zeros, split⟩ := exists_zeros (List.cons_ne_nil first rest) allDigits
        have value := (foldlM_digitValue? _ 0 allDigits).symm.trans read
        exact ⟨zeros, Option.some.inj value ▸ split⟩
  · rintro ⟨zeros, rfl⟩
    have allDigits : ∀ c ∈ List.replicate zeros '0' ++ Nat.toDigits 10 number,
        c.isDigit = true := by
      intro c member
      rcases List.mem_append.mp member with zero | digit
      · rw [List.eq_of_mem_replicate zero]
        rfl
      · exact Nat.isDigit_of_mem_toDigits (by decide) (by decide) digit
    have read := foldlM_digitValue? _ 0 allDigits
    rw [ofDigitChars_zeros, Nat.ofDigitChars_toDigits (by decide) (by decide)] at read
    unfold digitsValue?
    split
    next empty => exact absurd (List.append_eq_nil_iff.mp empty).2 Nat.toDigits_ne_nil
    next => exact read

theorem unsigned?_eq_some_iff {bound number : Nat} {text : List Char} :
    unsigned? bound text = some number ↔ Denotes text number ∧ number ≤ bound := by
  simp only [unsigned?, Option.filter_eq_some_iff, decide_eq_true_eq, digitsValue?_eq_some_iff]
  refine and_congr_left fun _ => ?_
  split
  next rest =>
    constructor
    · rintro ⟨zeros, rfl⟩
      exact ⟨['+'], zeros, .inr rfl, rfl⟩
    · rintro ⟨sign, zeros, rfl | rfl, same⟩
      · exact absurd same.symm (zeros_toDigits_ne_plus zeros number rest)
      · exact ⟨zeros, (List.cons.inj same).2⟩
  next unsigned =>
    constructor
    · rintro ⟨zeros, rfl⟩
      exact ⟨[], zeros, .inl rfl, rfl⟩
    · rintro ⟨sign, zeros, rfl | rfl, rfl⟩
      · exact ⟨zeros, rfl⟩
      · exact absurd rfl (unsigned _)

theorem u32?_eq_some_iff {text : List Char} {number : UInt32} :
    u32? text = some number ↔ Denotes text number.toNat := by
  have small : number.toNat ≤ UInt32.size - 1 := by
    have := number.toNat_lt
    simp only [UInt32.size]
    omega
  simp only [u32?, Option.map_eq_some_iff, unsigned?_eq_some_iff]
  constructor
  · rintro ⟨value, ⟨denotes, within⟩, rfl⟩
    have fits : value < 2 ^ 32 := by
      simp only [UInt32.size] at within
      omega
    rwa [UInt32.toNat_ofNat', Nat.mod_eq_of_lt fits]
  · intro denotes
    exact ⟨number.toNat, ⟨denotes, small⟩, UInt32.ofNat_toNat⟩

theorem solid_of_denotes {text : List Char} {number : Nat} (denotes : Denotes text number) :
    text ≠ [] ∧ ∀ c ∈ text, isBlank c = false := by
  obtain ⟨sign, zeros, plus, rfl⟩ := denotes
  refine ⟨by simp [Nat.toDigits_ne_nil], ?_⟩
  intro c member
  rcases List.mem_append.mp member with signed | member
  · rcases plus with rfl | rfl
    · cases signed
    · rw [List.mem_singleton.mp signed]
      decide
  · rcases List.mem_append.mp member with zero | digit
    · rw [List.eq_of_mem_replicate zero]
      decide
    · exact isBlank_of_isDigit (Nat.isDigit_of_mem_toDigits (by decide) (by decide) digit)

end LiveHighlight.Text

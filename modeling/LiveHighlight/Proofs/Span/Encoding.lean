import LiveHighlight.Proofs.Text.Numeral
import LiveHighlight.Span.Basic
import Mathlib.Data.List.Basic

/-!
Spans as the compositor reads them.

A span is written as a line of three numbers with one space between them. A number is written
without a sign and without zeros in front, so there is one way to write it, and it holds neither a
space nor a line end. What is encoded can therefore be cut apart again, and is read back.
-/

namespace LiveHighlight

/-! ### Numbers -/

namespace Text

def decimal? : List Char → Option Nat
  | '0' :: _ :: _ => none
  | digits => digitsValue? digits

theorem toDigits_ne_zero_cons {number : Nat} {next : Char} {rest : List Char} :
    Nat.toDigits 10 number ≠ '0' :: next :: rest := by
  intro same
  have allDigits : ∀ c ∈ next :: rest, c.isDigit = true := by
    intro c member
    refine Nat.isDigit_of_mem_toDigits (b := 10) (n := number) (by decide) (by decide) ?_
    rw [same]
    exact List.mem_cons_of_mem _ member
  have value : Nat.ofDigitChars 10 (next :: rest) 0 = number := by
    rw [← ofDigitChars_zeros 1, List.replicate_one, List.singleton_append, ← same,
      Nat.ofDigitChars_toDigits (by decide) (by decide)]
  -- without its zero the numeral has the same value, and would be no shorter
  obtain ⟨zeros, split⟩ := exists_zeros (List.cons_ne_nil next rest) allDigits
  have length := congrArg List.length split
  rw [value, same, List.length_append, List.length_cons (a := '0')] at length
  omega

theorem decimal?_eq_some_iff {digits : List Char} {number : Nat} :
    decimal? digits = some number ↔ digits = Nat.toDigits 10 number := by
  unfold decimal?
  split
  next =>
    constructor
    · intro read
      cases read
    · intro same
      exact absurd same.symm toDigits_ne_zero_cons
  next other =>
    rw [digitsValue?_eq_some_iff]
    constructor
    · rintro ⟨zeros, split⟩
      cases zeros with
      | zero => exact split
      | succ zeros =>
          obtain ⟨c, rest, behind⟩ := List.exists_cons_of_ne_nil
            (List.append_ne_nil_of_right_ne_nil (List.replicate zeros '0')
              (Nat.toDigits_ne_nil (b := 10) (n := number)))
          rw [List.replicate_succ, List.cons_append, behind] at split
          exact absurd split (other c rest)
    · rintro rfl
      exact ⟨0, rfl⟩

end Text

namespace Span

/-! ### Lines -/

def fields (span : Span) : List (List Char) :=
  [Nat.toDigits 10 span.style.toNat, Nat.toDigits 10 span.start, Nat.toDigits 10 span.stop]

def ofFields? : List (List Char) → Option Span
  | [style, start, stop] => do
    let style ← (Text.decimal? style).filter (· < UInt8.size)
    let start ← Text.decimal? start
    let stop ← Text.decimal? stop
    return ⟨UInt8.ofNat style, start, stop⟩
  | _ => none

def ofLine? (line : List Char) : Option Span :=
  ofFields? (line.splitOn ' ')

theorem not_mem_of_mem_fields {span : Span} {c : Char} (other : c.isDigit = false) :
    ∀ field ∈ span.fields, c ∉ field := by
  simp [fields, Text.not_mem_toDigits other]

theorem ofFields?_eq_some_iff {fields : List (List Char)} {span : Span} :
    ofFields? fields = some span ↔ fields = span.fields := by
  constructor
  · intro read
    unfold ofFields? at read
    split at read
    next style start stop =>
      simp only [bind, pure, Option.bind_eq_some_iff, Option.filter_eq_some_iff,
        Text.decimal?_eq_some_iff, decide_eq_true_eq, Option.some.injEq] at read
      obtain ⟨_, ⟨rfl, small⟩, _, rfl, _, rfl, rfl⟩ := read
      simp [Span.fields, UInt8.toNat_ofNat', Nat.mod_eq_of_lt small]
    next => cases read
  · rintro rfl
    have small : span.style.toNat < UInt8.size := span.style.toNat_lt
    simp [ofFields?, Span.fields, Text.decimal?_eq_some_iff.mpr rfl, Option.filter_some, small]

theorem toList_render (span : Span) : span.render.toList = [' '].intercalate span.fields := by
  have space : (toString " ").toList = [' '] := rfl
  simp [render, fields, space]

theorem ofLine?_eq_some_iff {line : List Char} {span : Span} :
    ofLine? line = some span ↔ line = span.render.toList := by
  rw [ofLine?, ofFields?_eq_some_iff, toList_render]
  constructor
  · intro same
    rw [← same, List.intercalate_splitOn]
  · rintro rfl
    exact List.splitOn_intercalate ' ' (not_mem_of_mem_fields (by decide)) (List.cons_ne_nil _ _)

/-! ### Texts -/

/-- Reads what spans are encoded as: lines, each with its end. -/
def decode? (text : String) : Option (List Span) :=
  let lines := text.toList.splitOn '\n'
  if lines.getLast? = some [] then lines.dropLast.mapM ofLine? else none

theorem mapM_ofLine?_eq_some_iff {lines : List (List Char)} {spans : List Span} :
    lines.mapM ofLine? = some spans ↔ lines = spans.map (·.render.toList) := by
  induction lines generalizing spans with
  | nil => cases spans <;> simp
  | cons line rest ih =>
      cases spans with
      | nil => simp [Option.bind_eq_some_iff]
      | cons span spans => simp [Option.bind_eq_some_iff, ofLine?_eq_some_iff, ih]

theorem encode_append (first second : List Span) :
    encode (first ++ second) = encode first ++ encode second := by
  simp [encode]

theorem toList_encode (spans : List Span) :
    (encode spans).toList = ['\n'].intercalate (spans.map (·.render.toList) ++ [[]]) := by
  induction spans with
  | nil => rfl
  | cons span spans ih =>
      have front : encode [span] = span.render ++ "\n" := by simp [encode]
      rw [← List.singleton_append, encode_append, String.toList_append, ih, front]
      cases spans <;> simp

theorem lineEnd_not_mem_render (span : Span) : '\n' ∉ span.render.toList := by
  rw [toList_render]
  simp [fields, Text.not_mem_toDigits]

theorem decode?_eq_some_iff {text : String} {spans : List Span} :
    decode? text = some spans ↔ text = encode spans := by
  rw [← String.toList_inj, toList_encode, decode?]
  constructor
  · intro read
    obtain ⟨ended, read⟩ := Option.ite_none_right_eq_some.mp read
    rw [mapM_ofLine?_eq_some_iff] at read
    rw [← read, List.dropLast_append_getLast? [] ended, List.intercalate_splitOn]
  · intro same
    have whole : ∀ line ∈ spans.map (·.render.toList) ++ [[]], '\n' ∉ line := by
      simp [or_imp, forall_and, lineEnd_not_mem_render]
    rw [same, List.splitOn_intercalate '\n' whole (by simp), List.dropLast_concat,
      mapM_ofLine?_eq_some_iff.mpr rfl]
    simp

/-- What spans are encoded as is read back as these spans, and nothing else is read: lists of spans
are encoded alike only if they are the same. Lists one after the other are encoded as one list. -/
theorem encode_tells_spans :
    (∀ text spans, decode? text = some spans ↔ text = encode spans) ∧
    (∀ first second, encode first = encode second ↔ first = second) ∧
    ∀ first second, encode (first ++ second) = encode first ++ encode second := by
  refine ⟨fun text spans => decode?_eq_some_iff, ?_, encode_append⟩
  intro first second
  constructor
  · intro same
    have read := decode?_eq_some_iff.mpr same
    rw [decode?_eq_some_iff.mpr rfl] at read
    exact Option.some.inj read
  · exact congrArg encode

example : decode? "3 0 3\n2 5 9\n" = some [⟨3, 0, 3⟩, ⟨2, 5, 9⟩] :=
  by decide +kernel

end Span
end LiveHighlight

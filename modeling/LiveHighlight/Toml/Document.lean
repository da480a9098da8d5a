import LiveHighlight.Toml.Literal

/-!
Whole documents.

A document is a sequence of lines: entries, which belong to the table whose header stands last
before them, and headers. A byte order mark in front is skipped.
-/

namespace LiveHighlight.Toml

/-- The tables that were read so far, and the path to the one that entries belong to. -/
structure Draft where
  header : List String
  entries : Entries

namespace Draft

def empty : Draft :=
  ⟨[], []⟩

def openWith? (draft : Draft) (path : List String) (change : String → Entries → Option Entries) :
    Option Draft := do
  let key ← path.getLast?
  let entries ← draft.entries.within? (change key) path.dropLast
  return ⟨path, entries⟩

def set? (draft : Draft) (keys : List String) (value : Value) : Option Draft := do
  let entries ← draft.entries.within? (Entries.set? value keys) draft.header
  return { draft with entries := entries }

def statement? (draft : Draft) (fuel : Nat) : List Char → Option (Draft × List Char)
  | '[' :: '[' :: text => do
    let (path, rest) ← dottedKey? fuel (skipBlanks text)
    let rest ← behind? ']' (← behind? ']' rest)
    return (← draft.openWith? path Entries.openElement?, rest)
  | '[' :: text => do
    let (path, rest) ← dottedKey? fuel (skipBlanks text)
    let rest ← behind? ']' rest
    return (← draft.openWith? path Entries.openTable?, rest)
  | text => do
    let (keys, rest) ← dottedKey? fuel text
    let rest ← behind? '=' rest
    let (value, rest) ← value? fuel (skipBlanks rest)
    return (← draft.set? keys value, rest)

def statements? : Nat → Draft → List Char → Option Draft
  | 0, _, _ => none
  | fuel + 1, draft, text =>
    match skipGap false text with
    | [] => some draft
    | text => do
      let (draft, rest) ← draft.statement? fuel text
      statements? fuel draft (← emptyLine? rest)

end Draft

def withoutMark : List Char → List Char
  | '\uFEFF' :: text => text
  | text => text

def read? (text : String) : Option (List (String × Value)) :=
  let text := withoutMark text.toList
  (Draft.statements? (2 * text.length + 2) .empty text).map fun draft => entryValues draft.entries

end LiveHighlight.Toml

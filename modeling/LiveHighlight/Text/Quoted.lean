import LiveHighlight.Text.Unprintable

/-!
Quoted text in messages. A quote and a backslash are escaped by a backslash, the usual controls by
their letter, every other unprintable character by its number in braces.
-/

namespace LiveHighlight.Text

def hexDigits (value : Nat) : List Char :=
  Nat.toDigits 16 value

def escapeChar (c : Char) : List Char :=
  if c = '"' then ['\\', '"']
  else if c = '\\' then ['\\', '\\']
  else if c = '\t' then ['\\', 't']
  else if c = '\r' then ['\\', 'r']
  else if c = '\n' then ['\\', 'n']
  else if c = '\x00' then ['\\', '0']
  else if isUnprintable c then "\\u\x7b".toList ++ hexDigits c.toNat ++ ['\x7d']
  else [c]

def quoted (text : String) : String :=
  String.ofList (['"'] ++ text.toList.flatMap escapeChar ++ ['"'])

end LiveHighlight.Text

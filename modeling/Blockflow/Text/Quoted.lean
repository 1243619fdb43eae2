import Blockflow.Text.Unseen

/-!
# Texts shown in diagnostics

A message that shows a text back puts it in double quotes and writes out what a reader could not
see: line breaks and tabs by their letter, other control characters, odd blanks and combining
marks by their code in braces.

* `Text.shownChar` — a character inside the quotes.
* **`Text.shown`** — the quoted text.
-/

namespace Blockflow.Text

/-- A character inside the quotes. -/
def shownChar (c : Char) : List Char :=
  if c = '"' then ['\\', '"']
  else if c = '\\' then ['\\', '\\']
  else if c = '\n' then ['\\', 'n']
  else if c = '\r' then ['\\', 'r']
  else if c = '\t' then ['\\', 't']
  else if c.toNat = 0 then ['\\', '0']
  else if unseen c then '\\' :: 'u' :: '\x7b' :: (Nat.toDigits 16 c.toNat ++ ['\x7d'])
  else [c]

/-- **A text in quotes, everything in it visible.** -/
def shown (s : String) : String := String.ofList ('"' :: (s.toList.flatMap shownChar ++ ['"']))

end Blockflow.Text

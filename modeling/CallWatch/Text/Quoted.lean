import CallWatch.Text.Hidden
import CallWatch.Text.Numeral

/-!
Texts shown in quotes.

A quote and a backslash take a backslash, four controls have a letter of their own, and every
other hidden character is named by its number in braces, so that a quoted text can be read
on one line whatever it holds.
-/

namespace CallWatch.Text

def quotedChar (c : Char) : List Char :=
  if c = '"' then ['\\', '"']
  else if c = '\\' then ['\\', '\\']
  else if c = '\n' then ['\\', 'n']
  else if c = '\r' then ['\\', 'r']
  else if c = '\t' then ['\\', 't']
  else if c.toNat = 0 then ['\\', '0']
  else if isHidden c then ['\\', 'u', '\x7b'] ++ Numeral.hexDigits c.toNat ++ ['\x7d']
  else [c]

def quoted (s : String) : String :=
  String.ofList ('"' :: s.toList.flatMap quotedChar ++ ['"'])

end CallWatch.Text

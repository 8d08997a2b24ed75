/-
Text in double quotes as it appears in diagnostic output: quotes, backslashes and the common control
characters with a backslash, characters that would not show as themselves by their code, all else
as it is.
-/
import EventRules.Text.Case
import EventRules.Text.PrintTable
namespace EventRules.Text

/-- Whether a character shows as itself. -/
def isShown (c : Char) : Bool :=
  if c.toNat < 127 then 32 ≤ c.toNat
  else !inRanges extendingRanges c && !inRanges unprintableRanges c

/-- A character as it stands between the quotes. -/
def quotedChar (c : Char) : List Char :=
  if c = '"' then ['\\', '"']
  else if c = '\\' then ['\\', '\\']
  else if c = '\t' then ['\\', 't']
  else if c = '\r' then ['\\', 'r']
  else if c = '\n' then ['\\', 'n']
  else if c.toNat = 0 then ['\\', '0']
  else if isShown c then [c]
  else ['\\', 'u', '\x7b'] ++ Nat.toDigits 16 c.toNat ++ ['\x7d']

/-- A text in quotes. -/
def quoted (s : String) : String :=
  String.ofList ('"' :: (s.toList.flatMap quotedChar ++ ['"']))

end EventRules.Text

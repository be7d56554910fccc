import RecordRules.Text.Formless

/-!
# Quoted text

Messages show a text between double quotes, so that its ends and every character in it can be
seen. A quote or a backslash follows a backslash, the usual controls have letters, and every
other character without a form of its own is written by its code point.
-/

namespace RecordRules.Text

/-- A character by its code point, in hexadecimal between braces. -/
def codePoint (char : Char) : List Char :=
  ['\\', 'u', '\x7b'] ++ Nat.toDigits 16 char.toNat ++ ['\x7d']

/-- What stands for a character between the quotes. -/
def quoteChar (char : Char) : List Char :=
  if char = '"' then ['\\', '"']
  else if char = '\\' then ['\\', '\\']
  else if char = '\n' then ['\\', 'n']
  else if char = '\r' then ['\\', 'r']
  else if char = '\t' then ['\\', 't']
  else if char = '\x00' then ['\\', '0']
  else if isFormless char then codePoint char
  else [char]

/-- The text between double quotes. -/
def quoted (text : String) : String :=
  String.ofList ('"' :: text.toList.flatMap quoteChar ++ ['"'])

example : quoted "a\n\"\x7f" = "\"a\\n\\\"\\u\x7b7f\x7d\"" := by decide +kernel

end RecordRules.Text

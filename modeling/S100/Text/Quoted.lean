import S100.Text.Graphic
import S100.Text.Hex

/-!
# Quoted text

How messages quote what they were given: between double quotes, with
quotes and backslashes escaped, and with what cannot be shown written as
an escape.
-/

namespace S100.Text

def escape (c : Char) : List Char :=
  if c = '"' then ['\\', '"']
  else if c = '\\' then ['\\', '\\']
  else if c = '\n' then ['\\', 'n']
  else if c = '\r' then ['\\', 'r']
  else if c = '\t' then ['\\', 't']
  else if c = '\x00' then ['\\', '0']
  else if isGraphic c then [c]
  else "\\u\x7b".toList ++ (hexDigits c.toNat).toList ++ ['\x7d']

def quoted (text : String) : String :=
  String.ofList ('"' :: text.toList.flatMap escape ++ ['"'])

end S100.Text

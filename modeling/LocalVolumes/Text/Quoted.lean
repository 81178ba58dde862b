import LocalVolumes.Text.Digits
import LocalVolumes.Text.Unprintable

/-!
# LocalVolumes.Text.Quoted — texts in quotes, as messages show them

A quoted text stands between double quotes.  The double quote and the backslash are escaped by a backslash,
four controls have letters, and every other unprintable character is written as its code point in
hexadecimal digits, such as `\u{7f}`.
-/

namespace LocalVolumes.Text

/-- One character between the quotes. -/
def quotedChar (c : Char) : List Char :=
  if c = '"' then ['\\', '"']
  else if c = '\\' then ['\\', '\\']
  else if c = '\n' then ['\\', 'n']
  else if c = '\t' then ['\\', 't']
  else if c = '\r' then ['\\', 'r']
  else if c = '\x00' then ['\\', '0']
  else if isUnprintable c then ['\\', 'u', '\x7b'] ++ hexDigits c.toNat ++ ['\x7d']
  else [c]

/-- The text in quotes. -/
def quoted (s : String) : String :=
  String.ofList ('"' :: (s.toList.flatMap quotedChar ++ ['"']))

end LocalVolumes.Text

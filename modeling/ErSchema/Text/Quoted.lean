import ErSchema.Unicode.Visible

/-!
# Quoted text in messages

A message shows a text it quotes between double quotes.  Quotes and backslashes are escaped by a
backslash, the usual controls by a letter, and every other character that cannot be shown on its
own by its code point in lower-case hexadecimal digits.
-/

set_option autoImplicit false

namespace ErSchema.Text.Quoted

/-- One character inside the quotes. -/
def encodeChar (c : Char) : List Char :=
  if c = '"' then ['\\', '"']
  else if c = '\\' then ['\\', '\\']
  else if c = '\n' then ['\\', 'n']
  else if c = '\r' then ['\\', 'r']
  else if c = '\t' then ['\\', 't']
  else if c = Char.ofNat 0 then ['\\', '0']
  else if Unicode.isVisible c then [c]
  else "\\u\x7b".toList ++ Nat.toDigits 16 c.toNat ++ ['}']

/-- A text between double quotes. -/
def encode (text : String) : String :=
  String.ofList (['"'] ++ text.toList.flatMap encodeChar ++ ['"'])

end ErSchema.Text.Quoted

import BoschBle.Foundation.Bytes
import BoschBle.Foundation.Text

/-!
# The representation of texts and bytes

`repr` puts a text in quotes and writes the characters that cannot be printed as
escapes.  Which characters outside of ASCII can be printed is a table of Unicode and
a parameter here.
-/

namespace BoschBle
namespace Foundation
namespace Repr

/-- The quotes around a text: double ones where that saves an escape. -/
def quoteOf (text : Text) : Char :=
  if '\'' ∈ text ∧ '\"' ∉ text then '\"' else '\''

/-- An escape with a number of hexadecimal digits. -/
def hexEscape (letter : Char) (width : Nat) (code : Nat) : Text :=
  '\\' :: letter :: (Bytes.formatHex width code).toList

/-- A character of ASCII between quotes. -/
def escapeAscii (quote char : Char) : Text :=
  if char = quote ∨ char = '\\' then ['\\', char]
  else if char = '\t' then ['\\', 't']
  else if char = '\n' then ['\\', 'n']
  else if char = '\r' then ['\\', 'r']
  else if char.toNat < 0x20 ∨ 0x7f ≤ char.toNat then hexEscape 'x' 2 char.toNat
  else [char]

/-- A character between quotes. -/
def escape (printable : Char -> Bool) (quote char : Char) : Text :=
  if char.toNat ≤ 0x7f then escapeAscii quote char
  else if printable char then [char]
  else if char.toNat ≤ 0xff then hexEscape 'x' 2 char.toNat
  else if char.toNat ≤ 0xffff then hexEscape 'u' 4 char.toNat
  else hexEscape 'U' 8 char.toNat

/-- `repr` of a text. -/
def ofText (printable : Char -> Bool) (text : Text) : Text :=
  let quote := quoteOf text
  quote :: text.flatMap (escape printable quote) ++ [quote]

/-- `repr` of a byte string. -/
def ofBytes (data : Bytes) : Text :=
  let text := data.map fun byte => Char.ofNat byte.toNat
  let quote := quoteOf text
  'b' :: quote :: text.flatMap (escapeAscii quote) ++ [quote]

example : ofBytes [0x68, 0x27, 0x0a, 0x5c, 0xff] = "b\"h'\\n\\\\\\xff\"".toList := by
  decide

end Repr
end Foundation
end BoschBle

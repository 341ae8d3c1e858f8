import InterfaceSchema.Text.Printable

/-!
# Quoted text

A text is shown between double quotes, on one line and in visible characters only. What cannot stand
for itself is escaped by a backslash: by a letter, or by its code point in braces.
-/

namespace InterfaceSchema.Text

/-- The escape of a character by its code point. -/
def codeEscape (c : Char) : List Char :=
  ['\\', 'u', '\x7b'] ++ Nat.toDigits 16 c.toNat ++ ['\x7d']

/-- The character as it is shown. A single quote needs no escape between double quotes. -/
def quoteChar (c : Char) : List Char :=
  match c with
  | '\x00' => ['\\', '0']
  | '\t' => ['\\', 't']
  | '\r' => ['\\', 'r']
  | '\n' => ['\\', 'n']
  | '\\' => ['\\', '\\']
  | '\x22' => ['\\', '\x22']
  | _ => if isExtending c || !isVisible c then codeEscape c else [c]

/-- The text between double quotes. -/
def quoted (text : String) : String :=
  String.ofList ('\x22' :: text.toList.flatMap quoteChar ++ ['\x22'])

end InterfaceSchema.Text

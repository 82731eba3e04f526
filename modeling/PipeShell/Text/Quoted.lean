import PipeShell.Text.Printable

/-! # Quoted texts

How a text is shown in a log: between double quotes, with everything that could
not be read off the page written as an escape. -/

set_option autoImplicit false

namespace PipeShell.Text

/-- The digits of a number in base 16, without leading zeros. -/
def hexDigits (number : Nat) : List Char := Nat.toDigits 16 number

def quoteChar (c : Char) : List Char :=
  match c with
  | '\x00' => ['\\', '0']
  | '\t' => ['\\', 't']
  | '\r' => ['\\', 'r']
  | '\n' => ['\\', 'n']
  | '\\' => ['\\', '\\']
  | '"' => ['\\', '"']
  | c => if isPrintable c then [c] else ['\\', 'u', '\x7b'] ++ hexDigits c.toNat ++ ['\x7d']

def quoted (text : String) : String :=
  String.ofList ('"' :: text.toList.flatMap quoteChar ++ ['"'])

/-- A list of texts, each quoted, between brackets. -/
def quotedList (texts : List String) : String :=
  "[" ++ String.intercalate ", " (texts.map quoted) ++ "]"

end PipeShell.Text

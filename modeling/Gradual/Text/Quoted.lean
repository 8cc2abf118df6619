import Gradual.Text.Printable

/-! Quotation of arbitrary text. A quotation is enclosed in apostrophes, or in double quotes when the
text has an apostrophe and no double quote; inside it the enclosing mark, the backslash and every
unprintable character are written as escapes. -/
namespace Gradual.Text

def enclosing (text : List Char) : Char :=
  if '\'' ∈ text ∧ '"' ∉ text then '"' else '\''

/-- Lower-case hexadecimal digits, filled with zeros up to `width`. -/
def hexadecimal (width n : Nat) : List Char :=
  let digits := Nat.toDigits 16 n
  List.replicate (width - digits.length) '0' ++ digits

/-- The least of the three escapes that holds the code point of `c`. -/
def numericEscape (c : Char) : List Char :=
  if c.toNat < 0x100 then '\\' :: 'x' :: hexadecimal 2 c.toNat
  else if c.toNat < 0x10000 then '\\' :: 'u' :: hexadecimal 4 c.toNat
  else '\\' :: 'U' :: hexadecimal 8 c.toNat

def escapeIn (mark c : Char) : List Char :=
  if c = mark ∨ c = '\\' then ['\\', c]
  else if c = '\n' then ['\\', 'n']
  else if c = '\r' then ['\\', 'r']
  else if c = '\t' then ['\\', 't']
  else if isPrintable c then [c]
  else numericEscape c

def quote (text : String) : String :=
  let mark := enclosing text.toList
  String.ofList (mark :: text.toList.flatMap (escapeIn mark) ++ [mark])

end Gradual.Text

import Sidekick.Text.Printable

/-!
# Quoted texts

A quoted text stands between apostrophes, or between double quotes if it holds an apostrophe and no
double quote. The mark in use, the backslash and every unprintable character are escaped, so that a
quoted text is one line whatever it holds.
-/

namespace Sidekick.Text

/-- The last `width` hexadecimal digits of `n`, in small letters. -/
def hexDigits (width n : Nat) : List Char :=
  let digits := Nat.toDigits 16 n
  List.replicate (width - digits.length) '0' ++ digits

/-- The escape of an unprintable character: the shortest of three widths that holds it. -/
def hexEscape (n : Nat) : List Char :=
  if n < 0x100 then '\\' :: 'x' :: hexDigits 2 n
  else if n < 0x10000 then '\\' :: 'u' :: hexDigits 4 n
  else '\\' :: 'U' :: hexDigits 8 n

def quotedChar (mark c : Char) : List Char :=
  if c = mark ∨ c = '\\' then ['\\', c]
  else if c = '\n' then ['\\', 'n']
  else if c = '\r' then ['\\', 'r']
  else if c = '\t' then ['\\', 't']
  else if isPrintable c then [c]
  else hexEscape c.toNat

def quotationMark (s : List Char) : Char :=
  if '\x27' ∈ s ∧ '\x22' ∉ s then '\x22' else '\x27'

def quoteChars (s : List Char) : List Char :=
  let mark := quotationMark s
  mark :: (s.flatMap (quotedChar mark) ++ [mark])

def quote (s : String) : String := String.ofList (quoteChars s.toList)

end Sidekick.Text

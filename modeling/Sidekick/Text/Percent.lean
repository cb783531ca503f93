/-!
# Query texts

In a query a letter, a digit and each of `_ . - ~` stands for itself, a space is a plus sign, and
every other byte is a percent sign and two capital hexadecimal digits.
-/

namespace Sidekick.Text

def capitalHexDigit (n : Nat) : Char := (Nat.digitChar n).toUpper

def percentByte (b : UInt8) : List Char :=
  let c := Char.ofNat b.toNat
  if c.isAlphanum ∨ c = '_' ∨ c = '.' ∨ c = '-' ∨ c = '~' then [c]
  else if c = ' ' then ['+']
  else ['%', capitalHexDigit (b.toNat / 16), capitalHexDigit (b.toNat % 16)]

def percentEncode (s : String) : String := String.ofList (s.toUTF8.toList.flatMap percentByte)

def query (parameters : List (String × String)) : String :=
  "&".intercalate (parameters.map fun (name, value) => percentEncode name ++ "=" ++ percentEncode value)

end Sidekick.Text

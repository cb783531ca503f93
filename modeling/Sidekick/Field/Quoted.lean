import Sidekick.Fault
import Sidekick.Number.Hexadecimal

/-!
# Quoted values

The text behind an opening quote is cut into items, up to the closing quote: plain characters,
characters behind a backslash, and code units. The items are then read, two code units that form a
pair as one character. A code unit takes the four characters behind it whatever they are; one that
four hexadecimal figures do not write stands for a question mark.
-/

namespace Sidekick.Field
open Number

inductive Item where
  | plain (c : Char)
  | escaped (c : Char)
  | unit (figures : List Char)
  deriving DecidableEq

/-- The items of a value whose opening quote has been read, and the text from its closing quote on.
A backslash at the end of the text, and a code unit cut short there, are no items. -/
def items : List Char → List Item × List Char
  | [] => ([], [])
  | '\x22' :: s => ([], '\x22' :: s)
  | ['\\'] => ([], [])
  | '\\' :: 'u' :: a :: b :: c :: d :: s =>
    let (found, rest) := items s
    (.unit [a, b, c, d] :: found, rest)
  | '\\' :: 'u' :: s => items s
  | '\\' :: c :: s =>
    let (found, rest) := items s
    (.escaped c :: found, rest)
  | c :: s =>
    let (found, rest) := items s
    (.plain c :: found, rest)

theorem length_items (s : List Char) : (items s).2.length ≤ s.length := by
  fun_induction items s <;> simp_all <;> omega

def unescape (c : Char) : Char :=
  match c with
  | 'b' => '\x08'
  | 'f' => '\x0C'
  | 'n' => '\n'
  | 'r' => '\r'
  | 't' => '\t'
  | c => c

def unitValue (figures : List Char) : Int := (readHex? figures).getD ('?'.toNat : Int)

def isHighSurrogate (n : Int) : Bool := 0xD800 ≤ n && n ≤ 0xDBFF

def isLowSurrogate (n : Int) : Bool := 0xDC00 ≤ n && n ≤ 0xDFFF

def joined (high low : Int) : Char :=
  Char.ofNat (0x10000 + (high - 0xD800) * 0x400 + (low - 0xDC00)).toNat

/-- The character of a code unit on its own: half a pair has none. -/
def single (n : Int) : Char :=
  if isHighSurrogate n || isLowSurrogate n then '\uFFFD' else Char.ofNat n.toNat

def decodeItems : List Item → Except Fault (List Char)
  | [] => .ok []
  | .plain c :: rest => do return c :: (← decodeItems rest)
  | .escaped c :: rest => do return unescape c :: (← decodeItems rest)
  | .unit high :: .unit low :: rest =>
    if isHighSurrogate (unitValue high) && isLowSurrogate (unitValue low) then do
      return joined (unitValue high) (unitValue low) :: (← decodeItems rest)
    else if unitValue high < 0 then .error .negativeCharacter
    else do return single (unitValue high) :: (← decodeItems (.unit low :: rest))
  | .unit figures :: rest =>
    if unitValue figures < 0 then .error .negativeCharacter
    else do return single (unitValue figures) :: (← decodeItems rest)

/-- The text of a value whose opening quote has been read. -/
def decode (s : List Char) : Except Fault (List Char) := decodeItems (items s).1

end Sidekick.Field

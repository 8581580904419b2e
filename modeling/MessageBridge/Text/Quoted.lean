import MessageBridge.Text.Printable

/-!
# Quoted text

A text between double quotes, in which the quote, the backslash, the usual control characters and
every character without a printed form are written as escapes.

## Main definitions

* `Text.escape` : the written form of one character.
* `Text.quote` : the quoted text.
-/

namespace MessageBridge.Text

/-- The digits of `n` in base sixteen, lower case, without leading zeros. -/
def hexDigits (n : Nat) : List Char := Nat.toDigits 16 n

/-- The written form of one character inside quotes: a letter escape where there is one, the number
of a character without a printed form, and the character itself otherwise. -/
def escape (c : Char) : List Char :=
  if c = '\x00' then ['\\', '0']
  else if c = '\t' then ['\\', 't']
  else if c = '\n' then ['\\', 'n']
  else if c = '\r' then ['\\', 'r']
  else if c = '"' || c = '\\' then ['\\', c]
  else if isUnprinted c then ['\\', 'u', '\x7b'] ++ hexDigits c.toNat ++ ['\x7d']
  else [c]

/-- The text between double quotes, with every character in its written form. -/
def quote (s : String) : String :=
  String.ofList ('"' :: (s.toList.flatMap escape ++ ['"']))

end MessageBridge.Text

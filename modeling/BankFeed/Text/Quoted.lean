import BankFeed.Text.HiddenTable

/-!
# Quoted texts

How a text is shown inside a message: between quotation marks, with a backslash before
quotation marks and backslashes, the usual short forms for the common controls, and the
code point in hexadecimal for every character that has no shape of its own.
-/

namespace BankFeed
namespace Text

def hexDigits (n : Nat) : List Char :=
  Nat.toDigits 16 n

def isHidden (c : Char) : Bool :=
  inRanges hiddenRanges c

def quoteChar (c : Char) : List Char :=
  if c = Char.ofNat 0 then ['\\', '0']
  else if c = '\t' then ['\\', 't']
  else if c = '\r' then ['\\', 'r']
  else if c = '\n' then ['\\', 'n']
  else if c = '\\' then ['\\', '\\']
  else if c = '"' then ['\\', '"']
  else if isHidden c then ['\\', 'u', '\x7b'] ++ hexDigits c.toNat ++ ['\x7d']
  else [c]

def quote (cs : List Char) : List Char :=
  ['"'] ++ cs.flatMap quoteChar ++ ['"']

end Text
end BankFeed

import BankFeed.Json.Basic
import BankFeed.Binary.Printer
import BankFeed.Text.Quoted

/-!
# Writing JSON

The compact form: no spaces, members in their order. Inside strings only quotation marks,
backslashes and control characters are escaped. What is not whole has no text of its own and
is written as null.
-/

namespace BankFeed
namespace Json

def controlText (c : Char) : List Char :=
  let digits := Text.hexDigits c.toNat
  ['\\', 'u'] ++ List.replicate (4 - digits.length) '0' ++ digits

def escapeChar (c : Char) : List Char :=
  if c = '"' then ['\\', '"']
  else if c = '\\' then ['\\', '\\']
  else if c = '\x08' then ['\\', 'b']
  else if c = '\x0c' then ['\\', 'f']
  else if c = '\n' then ['\\', 'n']
  else if c = '\r' then ['\\', 'r']
  else if c = '\t' then ['\\', 't']
  else if c.toNat < 0x20 then controlText c
  else [c]

def stringText (s : String) : List Char :=
  '"' :: (s.toList.flatMap escapeChar ++ ['"'])

mutual

def render : Json → List Char
  | .null => ['n', 'u', 'l', 'l']
  | .flag true => ['t', 'r', 'u', 'e']
  | .flag false => ['f', 'a', 'l', 's', 'e']
  | .integer n => integerText n
  | .double x => x.messageText
  | .text s => stringText s
  | .array .closed => ['[', ']']
  | .array (.item first rest) => '[' :: (render first ++ renderItems rest)
  | .array .broken => ['n', 'u', 'l', 'l']
  | .object .closed => ['\x7b', '\x7d']
  | .object (.member name value rest) =>
      '\x7b' :: (stringText (name.text?.getD "") ++ ':' :: (render value ++ renderMembers rest))
  | .object _ => ['n', 'u', 'l', 'l']
  | .unreadable => ['n', 'u', 'l', 'l']
  | .broken => ['n', 'u', 'l', 'l']

def renderItems : Items → List Char
  | .item first rest => ',' :: (render first ++ renderItems rest)
  | _ => [']']

def renderMembers : Members → List Char
  | .member name value rest =>
      ',' :: (stringText (name.text?.getD "") ++ ':' :: (render value ++ renderMembers rest))
  | _ => ['\x7d']

end

end Json
end BankFeed

import StrategyDesk.Text.Classes
import StrategyDesk.Text.Invisible

/-!
# Quoted texts

A text as messages quote it: between double quotes, with escapes for what would end the quotation
or could not be seen in it.
-/

set_option autoImplicit false

namespace StrategyDesk.Text

def quoteChar (c : Char) : List Char :=
  if c = '"' then ['\\', '"']
  else if c = '\\' then ['\\', '\\']
  else if c = '\n' then ['\\', 'n']
  else if c = '\r' then ['\\', 'r']
  else if c = '\t' then ['\\', 't']
  else if c.toNat = 0 then ['\\', '0']
  else if covers invisibleRanges c.toNat then
    "\\u\x7b".toList ++ Nat.toDigits 16 c.toNat ++ ['\x7d']
  else [c]

def quote (text : String) : String :=
  String.ofList ('"' :: (text.toList.flatMap quoteChar ++ ['"']))

end StrategyDesk.Text

import PathCall.Text.MarkTable
import PathCall.Text.PrintTable

/-!
Texts in double quotes, as diagnostics show them. Quotes and backslashes are escaped, as is
every character that would not be visible on its own.
-/

namespace PathCall.Text

def hexDigits (n : Nat) : List Char := Nat.toDigits 16 n

def isHidden (c : Char) : Bool :=
  if c.toNat < 128 then c.toNat < 32 || c.toNat == 127
  else
    nonspacingRanges.contains c.toNat || extendingRanges.contains c.toNat ||
      invisibleRanges.contains c.toNat

def quoteChar (c : Char) : List Char :=
  if c = '\x00' then ['\\', '0']
  else if c = '\t' then ['\\', 't']
  else if c = '\n' then ['\\', 'n']
  else if c = '\r' then ['\\', 'r']
  else if c = '"' then ['\\', '"']
  else if c = '\\' then ['\\', '\\']
  else if isHidden c then ['\\', 'u', '\x7b'] ++ hexDigits c.toNat ++ ['\x7d']
  else [c]

def quoted (text : String) : String :=
  String.ofList ('"' :: text.toList.flatMap quoteChar ++ ['"'])

end PathCall.Text

import Telemetry.Text.Hex
import Telemetry.Text.Printable

/-!
# Quoted texts for diagnostics

A text between quotes in which every character is either shown as it is or escaped, so that different
texts look different.
-/
namespace Telemetry.Text

/-- The characters that stand for one inside a quoted text. -/
def shownChar (c : Char) : List Char :=
  if c = '"' then ['\\', '"']
  else if c = '\\' then ['\\', '\\']
  else if c = '\n' then ['\\', 'n']
  else if c = '\r' then ['\\', 'r']
  else if c = '\t' then ['\\', 't']
  else if c.toNat = 0 then ['\\', '0']
  else if isPrintable c then [c]
  else '\\' :: 'u' :: '\x7b' :: (Hex.digits c.toNat ++ ['\x7d'])

def quoted (s : String) : List Char := '"' :: (s.toList.flatMap shownChar ++ ['"'])

end Telemetry.Text

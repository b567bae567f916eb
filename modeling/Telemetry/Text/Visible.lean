import Telemetry.Text.Utf8

/-!
# The visible part of a text

What a terminal would show of a text when it does not obey it: control sequences and control characters
other than white space are left out. A sequence that is not complete goes on to the end of the text.
-/
namespace Telemetry.Text

namespace Visible

/-- Where in a control sequence a text is. -/
inductive Mode where
  /-- Outside of any sequence. -/
  | ground
  | escape
  | intermediate
  | control
  /-- In the head of a string for the device. -/
  | deviceHead
  | deviceParameter
  | deviceIntermediate
  /-- In a string that a string terminator ends. -/
  | message
  /-- In a string that a bell ends. -/
  | command
  deriving DecidableEq

def isShownControl (c : Char) : Bool := c = '\t' || c = '\n' || c = '\x0c' || c = '\r'

/-- Whether white space ends a sequence in this mode, and is shown. -/
def Mode.yieldsToBlank : Mode → Bool
  | ground | escape | intermediate | control => true
  | _ => false

def Mode.ofEscaped (n : Nat) : Mode :=
  if n = 0x5B then control
  else if n = 0x5D then command
  else if n = 0x50 then deviceHead
  else if n = 0x58 ∨ n = 0x5E ∨ n = 0x5F then message
  else if 0x20 ≤ n ∧ n < 0x30 then intermediate
  else if 0x30 ≤ n ∧ n < 0x7F then ground
  else escape

/-- The mode after a character of the head of a string for the device. The head ends with a letter, and
also with a parameter out of place: a private one that is not the first, or any after an intermediate
character. -/
def Mode.ofDevice (m : Mode) (n : Nat) : Mode :=
  if 0x40 ≤ n ∧ n < 0x7F then message
  else if 0x20 ≤ n ∧ n < 0x30 then deviceIntermediate
  else if 0x30 ≤ n ∧ n < 0x40 then
    if m = deviceHead ∨ (m = deviceParameter ∧ n < 0x3C) then deviceParameter else message
  else m

/-- The mode after a character in a mode other than the ground, where the character neither begins a
sequence nor ends every sequence. -/
def Mode.step (n : Nat) : Mode → Mode
  | ground => ground
  | escape => ofEscaped n
  | intermediate => if 0x30 ≤ n ∧ n < 0x7F then ground else intermediate
  | control => if 0x40 ≤ n ∧ n < 0x7F then ground else control
  | deviceHead => ofDevice deviceHead n
  | deviceParameter => ofDevice deviceParameter n
  | deviceIntermediate => ofDevice deviceIntermediate n
  | message => message
  | command => if n = 7 then ground else command

/-- Whether a character has the string terminator among its bytes. -/
def hasTerminator (c : Char) : Bool := (utf8 (String.singleton c)).contains 0x9C

/-- The mode after a character, and whether it is shown. -/
def step (m : Mode) (c : Char) : Mode × Bool :=
  let n := c.toNat
  if n = 0x1B then (.escape, false)
  else if n = 0x18 ∨ n = 0x1A then (.ground, false)
  else if 0x80 ≤ n then
    if m = .ground then (.ground, true)
    else (if m = .message ∧ hasTerminator c then .ground else m, false)
  else if isShownControl c && m.yieldsToBlank then (.ground, true)
  else if m = .ground then (.ground, decide (0x20 ≤ n ∧ n < 0x7F))
  else (m.step n, false)

def after (m : Mode) : List Char → List Char
  | [] => []
  | c :: cs =>
    let (m, shown) := step m c
    if shown then c :: after m cs else after m cs

end Visible

def visible (cs : List Char) : List Char := Visible.after .ground cs

end Telemetry.Text

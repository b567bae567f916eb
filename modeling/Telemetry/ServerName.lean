import Telemetry.Decimal

/-!
# Server names

The names that a server can prove to be its own: domain names and addresses of four octets. An address
with colons stands between brackets in an identifier, and brackets are part of no name.
-/
namespace Telemetry

namespace ServerName

/-- The parts of a text between separators. -/
def splitOn (separator : Char) : List Char → List (List Char)
  | [] => [[]]
  | c :: cs =>
    if c = separator then [] :: splitOn separator cs
    else
      match splitOn separator cs with
      | [] => [[c]]
      | part :: parts => (c :: part) :: parts

def isLabelChar (c : Char) : Bool := c.isAlphanum || c = '_' || c = '-'

def isLabel (cs : List Char) : Bool :=
  decide (1 ≤ cs.length ∧ cs.length ≤ 63) && cs.all isLabelChar &&
    decide (cs.head? ≠ some '-' ∧ cs.getLast? ≠ some '-')

/-- The labels of a name; a point at its end adds none. -/
def labels (cs : List Char) : List (List Char) :=
  let parts := splitOn '.' cs
  if 1 < parts.length ∧ parts.getLast? = some [] then parts.dropLast else parts

def isDomainName (cs : List Char) : Bool :=
  decide (cs.length ≤ 253) && (labels cs).all isLabel &&
    !((labels cs).getLast?.any fun label => label.all Char.isDigit)

def isOctet (cs : List Char) : Bool :=
  decide (1 ≤ cs.length ∧ cs.length ≤ 3) && cs.all Char.isDigit &&
    decide (cs.length = 1 ∨ cs.head? ≠ some '0') && decide (Decimal.ofDigits cs ≤ 255)

def isFourOctets (cs : List Char) : Bool :=
  let parts := splitOn '.' cs
  decide (parts.length = 4) && parts.all isOctet

end ServerName

/-- Whether a host can be a server's name. -/
def isServerName (host : List Char) : Bool :=
  ServerName.isDomainName host || ServerName.isFourOctets host

end Telemetry

/-!
# Terminal styles

A styled text stands between the sequence that opens its style and the reset. A reset inside the text
would end the style early, so the style is opened again after it.
-/
namespace Telemetry

inductive Style where
  | bold
  | dimmed
  | green
  | red
  deriving DecidableEq

namespace Style

def escape : Char := '\x1b'

/-- The sequence that ends every style. -/
def reset : List Char := [escape, '[', '0', 'm']

def opening : Style → List Char
  | bold => [escape, '[', '1', 'm']
  | dimmed => [escape, '[', '2', 'm']
  | green => [escape, '[', '3', '2', 'm']
  | red => [escape, '[', '3', '1', 'm']

/-- Opens a style again after each reset. -/
def reopen (opening : List Char) : List Char → List Char
  | '\x1b' :: '[' :: '0' :: 'm' :: rest => reset ++ (opening ++ reopen opening rest)
  | c :: rest => c :: reopen opening rest
  | [] => []

/-- A text in a style, or as it is without colour. -/
def paint (color : Bool) (style : Style) (text : List Char) : List Char :=
  if color then style.opening ++ (reopen style.opening text ++ reset) else text

end Style
end Telemetry

import Telemetry.Json.Literal
import Telemetry.Proofs.Binary64.Nearest
import Telemetry.Text.Hex

/-!
# What a JSON text says

The grammar of RFC 8259 as relations between texts and what they say, apart from the reader and the printer.
A number says the double that is nearest to its exact decimal value. Texts that have the form of a document
but say nothing are those with a number beyond the largest double, and those with half of a surrogate pair.
-/
namespace Telemetry

/-- The exact decimal value, without the sign. -/
def Literal.magnitude (l : Literal) : ℚ :=
  Decimal.ofDigits (l.whole ++ l.fraction.getD []) *
    10 ^ (l.exponent.getD 0 - (l.fraction.getD []).length)

/-- The finite double with the sign of a literal that is nearest to its exact value, half-way between two
of them the even one. -/
structure Literal.Denotes (l : Literal) (x : Binary64) : Prop where
  finite : x.isFinite = true
  isNegative_eq : x.isNegative = l.negative
  rounds : Binary64.Rounds (l.magnitude * Binary64.stepsPerOne) x.word

namespace Json

structure IsDigits (ds : List Char) : Prop where
  isDigit : ∀ c ∈ ds, c.isDigit = true
  ne_nil : ds ≠ []

/-- The digits before the point. Only zero itself starts with zero. -/
structure IsWhole (ds : List Char) : Prop extends IsDigits ds where
  eq_zero : ds.head? = some '0' → ds = ['0']

inductive IsFraction : List Char → Option (List Char) → Prop
  | absent : IsFraction [] none
  | present {ds : List Char} (hds : IsDigits ds) : IsFraction ('.' :: ds) (some ds)

inductive IsExponent : List Char → Option Int → Prop
  | absent : IsExponent [] none
  | unsigned {mark : Char} {ds : List Char} (hmark : mark = 'e' ∨ mark = 'E') (hds : IsDigits ds) :
    IsExponent (mark :: ds) (some (Decimal.ofDigits ds))
  | plus {mark : Char} {ds : List Char} (hmark : mark = 'e' ∨ mark = 'E') (hds : IsDigits ds) :
    IsExponent (mark :: '+' :: ds) (some (Decimal.ofDigits ds))
  | minus {mark : Char} {ds : List Char} (hmark : mark = 'e' ∨ mark = 'E') (hds : IsDigits ds) :
    IsExponent (mark :: '-' :: ds) (some (-Decimal.ofDigits ds))

/-- A number after its sign. -/
inductive IsUnsigned (negative : Bool) : List Char → Literal → Prop
  | mk {whole fractionText exponentText : List Char} {fraction : Option (List Char)}
    {exponent : Option Int} (hwhole : IsWhole whole) (hfraction : IsFraction fractionText fraction)
    (hexponent : IsExponent exponentText exponent) :
    IsUnsigned negative (whole ++ (fractionText ++ exponentText)) ⟨negative, whole, fraction, exponent⟩

theorem IsUnsigned.negative_eq {negative : Bool} {text : List Char} {l : Literal}
    (h : IsUnsigned negative text l) : l.negative = negative := by
  cases h
  rfl

inductive IsLiteral : List Char → Literal → Prop
  | plain {text : List Char} {l : Literal} (h : IsUnsigned false text l) : IsLiteral text l
  | minus {text : List Char} {l : Literal} (h : IsUnsigned true text l) : IsLiteral ('-' :: text) l

/-- The letters that may follow a backslash, with the characters they stand for. -/
def escapes : List (Char × Char) :=
  [('"', '"'), ('\\', '\\'), ('/', '/'), ('b', Char.ofNat 8), ('f', Char.ofNat 12), ('n', '\n'),
    ('r', '\r'), ('t', '\t')]

/-- Four hexadecimal digits. -/
structure IsCodeUnit (ds : List Char) (u : Nat) : Prop where
  length_eq : ds.length = 4
  value_eq : Text.Hex.value? ds = some u

/-- The texts that stand for a character inside a string. -/
inductive StandsFor : List Char → Char → Prop
  | plain {c : Char} (hcontrol : 32 ≤ c.toNat) (hquote : c ≠ '"') (hbackslash : c ≠ '\\') :
    StandsFor [c] c
  | escape {letter c : Char} (h : (letter, c) ∈ escapes) : StandsFor ['\\', letter] c
  | codeUnit {ds : List Char} {c : Char} (h : IsCodeUnit ds c.toNat) : StandsFor ('\\' :: 'u' :: ds) c
  | surrogates {high low : List Char} {h l : Nat} {c : Char} (hhigh : IsCodeUnit high (0xD800 + h))
    (hlow : IsCodeUnit low (0xDC00 + l)) (hh : h < 0x400) (hl : l < 0x400)
    (hc : c.toNat = 0x10000 + h * 0x400 + l) :
    StandsFor ('\\' :: 'u' :: (high ++ '\\' :: 'u' :: low)) c

inductive IsBody : List Char → List Char → Prop
  | nil : IsBody [] []
  | cons {piece text : List Char} {c : Char} {cs : List Char} (hpiece : StandsFor piece c)
    (htext : IsBody text cs) : IsBody (piece ++ text) (c :: cs)

inductive IsQuoted : List Char → String → Prop
  | mk {body : List Char} {s : String} (h : IsBody body s.toList) : IsQuoted ('"' :: (body ++ ['"'])) s

def Blanks (cs : List Char) : Prop := ∀ c ∈ cs, c = ' ' ∨ c = '\t' ∨ c = '\n' ∨ c = '\r'

/-- A text with blanks on both sides, and the document that it is meant to say. -/
structure Spaced where
  before : List Char
  text : List Char
  after : List Char
  value : Json
  blanks_before : Blanks before
  blanks_after : Blanks after

def Spaced.whole (v : Spaced) : List Char := v.before ++ (v.text ++ v.after)

/-- A quoted key, a colon and the text of a document. -/
structure Member where
  before : List Char
  name : List Char
  key : String
  gap : List Char
  item : Spaced
  blanks_before : Blanks before
  isQuoted : IsQuoted name key
  blanks_gap : Blanks gap

def Member.whole (m : Member) : List Char := m.before ++ (m.name ++ (m.gap ++ ':' :: m.item.whole))

/-- What the text of a document says. -/
inductive Denotes : List Char → Json → Prop
  | null : Denotes ['n', 'u', 'l', 'l'] .null
  | boolTrue : Denotes ['t', 'r', 'u', 'e'] (.bool true)
  | boolFalse : Denotes ['f', 'a', 'l', 's', 'e'] (.bool false)
  | number {text : List Char} {l : Literal} {x : Binary64} (hl : IsLiteral text l) (hx : l.Denotes x) :
    Denotes text (.number (.double x hx.finite))
  | string {text : List Char} {s : String} (h : IsQuoted text s) : Denotes text (.string s)
  | array {items : List Spaced} {closing : List Char} (hitems : ∀ v ∈ items, Denotes v.text v.value)
    (hclosing : Blanks closing) :
    Denotes ('[' :: (List.intercalate [','] (items.map Spaced.whole) ++ (closing ++ [']'])))
      (.array (items.map Spaced.value))
  | object {members : List Member} {closing : List Char}
    (hmembers : ∀ m ∈ members, Denotes m.item.text m.item.value) (hclosing : Blanks closing) :
    Denotes ('\x7b' :: (List.intercalate [','] (members.map Member.whole) ++ (closing ++ ['\x7d'])))
      (.object (members.map fun m => (m.key, m.item.value)))

/-- A whole text says a document, with blanks around it. -/
def Says (text : String) (j : Json) : Prop :=
  ∃ v : Spaced, text.toList = v.whole ∧ v.value = j ∧ Denotes v.text v.value

end Json
end Telemetry

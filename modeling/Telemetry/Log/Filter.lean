import Telemetry.Log.Directive

/-!
# Log filters

A filter is made from the directives that the environment gives, one for everything, and one for each
part of the program that is to be heard at a level of its own. A later directive replaces an earlier one
about the same.
-/
namespace Telemetry.Log

/-- The directives in their order. Those that look at single spans or at values of fields are kept
apart. -/
structure Filter where
  directives : List Directive
  narrow : List Directive
  deriving DecidableEq

namespace Filter

def empty : Filter := ⟨[], []⟩

/-- Whether a directive can be decided without looking at what a span holds. -/
def isStatic (d : Directive) : Bool := d.span.isNone && d.fields.all (·.value.isNone)

def isNarrow (d : Directive) : Bool := d.span.isSome || !d.fields.isEmpty

def add (d : Directive) (f : Filter) : Filter :=
  if isStatic d then { f with directives := d.put f.directives }
  else { f with narrow := d.put f.narrow }

/-- The parts of a text between commas. -/
def splitCommas : List Char → List (List Char)
  | [] => [[]]
  | c :: cs =>
    if c = ',' then [] :: splitCommas cs
    else
      match splitCommas cs with
      | [] => [[c]]
      | part :: parts => (c :: part) :: parts

/-- The directives of the environment that are not empty, with what is wrong with some. -/
def readings (environment : Option String) : List (List Char × Except Directive.Fault Directive) :=
  ((splitCommas (environment.getD "").toList).filter (!·.isEmpty)).map fun cs =>
    (cs, Directive.parse cs)

def valid (environment : Option String) : List Directive :=
  (readings environment).filterMap fun r => r.2.toOption

/-- The filter that the environment gives. A directive about fields without values stands in both
places. -/
def ofEnvironment (environment : Option String) : Filter :=
  let all := valid environment
  let narrow := all.filter isNarrow
  let directives := all.filter (!isNarrow ·) ++ narrow.filter isStatic
  ⟨directives.foldl (fun ds d => d.put ds) [], narrow.foldl (fun ds d => d.put ds) []⟩

/-- Whether there is no going on after a reading. -/
def isCut (r : Except Directive.Fault Directive) : Bool := r matches .error .cut

/-- Whether the directives of the environment can be read to the last. -/
def isReadable (environment : Option String) : Bool :=
  (readings environment).all fun r => !isCut r.2

/-- What is said about directives of the environment that cannot be read. -/
def complaints (environment : Option String) : List String :=
  ((readings environment).takeWhile fun r => !isCut r.2).filterMap fun (cs, r) =>
    match r with
    | .ok _ => none
    | .error e => some ("ignoring " ++ .ofList ('\x60' :: (cs ++ ['\x60'])) ++ ": " ++ e.message)

/-- The directive for a part of the program, if its name can stand in one. -/
def directiveFor? (level : Level) (part : String) : Option Directive :=
  (Directive.parse (part.toList ++ '=' :: level.text.toList)).toOption

/-- A filter with one level for everything and another for the parts named. -/
def new (environment : Option String) (base : Level) (parts : List String) (level : Level) :
    Filter :=
  (parts.filterMap (directiveFor? level)).foldl (fun f d => f.add d)
    ((ofEnvironment environment).add (.plain (some base)))

def text (f : Filter) : String :=
  .ofList (List.intercalate [','] ((f.directives ++ f.narrow).map Directive.text))

end Filter
end Telemetry.Log

import Telemetry.Log.Field
import Telemetry.Log.Level

/-!
# Filter directives

A directive sets the threshold for a part of the program, or for everything. It may be narrowed to a span
and to fields, written between brackets: `target[span{field=value}]=level`.
-/
namespace Telemetry.Log

structure Directive where
  target : Option String
  span : Option String
  fields : List Field
  threshold : Threshold
  deriving DecidableEq

namespace Directive

/-- The directive for everything. -/
def plain (t : Threshold) : Directive := ⟨none, none, [], t⟩

/-- The directive for a target. -/
def ofTarget (target : String) (t : Threshold) : Directive := ⟨some target, none, [], t⟩

inductive Fault where
  | malformed
  | level
  | field (fault : Pattern.Fault)
  /-- A piece would begin or end within a character. There is no going on after that. -/
  | cut
  deriving DecidableEq

def Fault.message : Fault → String
  | malformed => "invalid filter directive"
  | level => "error parsing level filter: expected one of " ++
      "\"off\", \"error\", \"warn\", \"info\", \"debug\", \"trace\", or a number 0-5"
  | field fault => "invalid field filter: " ++ fault.message
  | cut => ""

/-- Whether a character may begin a target. -/
def startsTarget (c : Char) : Bool := c = '-' || c = ':' || c = '_' || Text.isAlphanumeric c

/-- A text without so many bytes at its front, if they are whole characters. -/
def dropBytes? : Nat → List Char → Option (List Char)
  | 0, cs => some cs
  | _ + 1, [] => none
  | n + 1, c :: cs => if c.utf8Size ≤ n + 1 then dropBytes? (n + 1 - c.utf8Size) cs else none

/-- So many bytes at the front of a text, if they are whole characters. -/
def takeBytes? : Nat → List Char → Option (List Char)
  | 0, _ => some []
  | _ + 1, [] => none
  | n + 1, c :: cs =>
    if c.utf8Size ≤ n + 1 then (takeBytes? (n + 1 - c.utf8Size) cs).map (c :: ·) else none

/-- The piece of a text from one place to another. Places are counted in bytes. -/
def piece (whole : List Char) (first last : Nat) : Except Fault (List Char) :=
  match (dropBytes? first whole).bind (takeBytes? (last - first)) with
  | some cs => .ok cs
  | none => .error .cut

def pieceFrom (whole : List Char) (first : Nat) : Except Fault (List Char) :=
  match dropBytes? first whole with
  | some cs => .ok cs
  | none => .error .cut

/-- The threshold that stands after an equals sign, the widest one when nothing does. -/
def threshold? (cs : List Char) : Except Fault Threshold :=
  if cs.isEmpty then .ok (some .trace)
  else
    match Threshold.ofText? cs with
    | some t => .ok t
    | none => .error .level

/-- The directive of a name on its own: a threshold if it can be one, else a target with the widest
threshold. -/
def named (cs : List Char) : Directive :=
  match Threshold.ofText? cs with
  | some t => plain t
  | none => ofTarget (.ofList cs) (some .trace)

/-- What a reader of directives is in, with the place where its piece begins. -/
inductive Stage where
  | start
  | name (first : Nat)
  | span (first : Nat)
  | field (first : Nat)
  | fieldsEnd
  | subjectEnd
  | level (first : Nat)
  | complete
  deriving DecidableEq

/-- A directive in the making. -/
structure Draft where
  stage : Stage
  directive : Directive

namespace Draft

def start : Draft := ⟨.start, .plain (some .trace)⟩

def addField (cs : List Char) (d : Directive) : Except Fault Directive :=
  if cs.isEmpty then .error .malformed
  else
    match Field.parse cs with
    | .ok f => .ok { d with fields := d.fields ++ [f] }
    | .error e => .error (.field e)

def onName (whole : List Char) (place first : Nat) (c : Char) (d : Draft) : Except Fault Draft :=
  if c = '=' ∨ c = '[' then do
    let name ← piece whole first place
    let stage := if c = '=' then Stage.level (place + 1) else .span (place + 1)
    return ⟨stage, { d.directive with target := some (.ofList name) }⟩
  else if c = ',' then do
    let name ← pieceFrom whole first
    return ⟨.complete, named name⟩
  else return d

def onSpan (whole : List Char) (place first : Nat) (c : Char) (d : Draft) : Except Fault Draft :=
  if c = ']' then do
    let span ← piece whole first place
    return ⟨.subjectEnd, { d.directive with span := some (.ofList span) }⟩
  else if c = '\x7b' then do
    let span ← piece whole first place
    let span := if span.isEmpty then none else some (String.ofList span)
    return ⟨.field (place + 1), { d.directive with span }⟩
  else return d

def onField (whole : List Char) (place first : Nat) (c : Char) (d : Draft) : Except Fault Draft :=
  if c = '\x7d' ∨ c = ',' then do
    let field ← piece whole first place
    let directive ← addField field d.directive
    return ⟨if c = ',' then .field (place + 1) else .fieldsEnd, directive⟩
  else return d

def onLevel (whole : List Char) (place first : Nat) (c : Char) (d : Draft) : Except Fault Draft :=
  if c = ',' then do
    let threshold ← threshold? (← piece whole first place)
    return ⟨.complete, { d.directive with threshold }⟩
  else return d

/-- Takes the character at a place. -/
def step (whole : List Char) (place : Nat) (c : Char) (d : Draft) : Except Fault Draft :=
  match d.stage with
  | .start =>
    if c = '[' then .ok { d with stage := .span (place + 1) }
    else if startsTarget c then .ok { d with stage := .name place }
    else .error .malformed
  | .name first => d.onName whole place first c
  | .span first => d.onSpan whole place first c
  | .field first => d.onField whole place first c
  | .fieldsEnd => if c = ']' then .ok { d with stage := .subjectEnd } else .error .malformed
  | .subjectEnd =>
    if c = '=' then .ok { d with stage := .level (place + 1) }
    else if c = '[' then .ok { d with stage := .span (place + 1) }
    else if c = ',' then .ok { d with stage := .complete }
    else .error .malformed
  | .level first => d.onLevel whole place first c
  | .complete => .error .malformed

/-- Takes the characters from a place on. -/
def steps (whole : List Char) (place : Nat) (d : Draft) : List Char → Except Fault Draft
  | [] => .ok d
  | c :: cs => do
    let d ← d.step whole place c
    steps whole (place + c.utf8Size) d cs

/-- The directive at the end of a text. -/
def finish (whole : List Char) (d : Draft) : Except Fault Directive :=
  match d.stage with
  | .name first => (pieceFrom whole first).map named
  | .level first => do
    let threshold ← threshold? (← pieceFrom whole first)
    return { d.directive with threshold }
  | .subjectEnd => .ok d.directive
  | .complete => .ok d.directive
  | _ => .error .malformed

end Draft

/-- The directive of a text. Places are counted from the first character that is no blank, but pieces are
cut from the whole text, so blanks at its front put them off and blanks at its end belong to the last. -/
def parse (cs : List Char) : Except Fault Directive := do
  let d ← Draft.steps cs 0 .start (Text.trim cs)
  d.finish cs

/-- How narrow a directive is: by the length of its target first, then by its span, then by the number
of its fields. -/
def rank (d : Directive) : List Nat :=
  [match d.target with
    | none => 0
    | some t => t.utf8ByteSize + 1,
   if d.span.isSome then 1 else 0,
   d.fields.length]

/-- The order of directives: by how narrow they are, and equally narrow ones by what they are about. -/
def compare (a b : Directive) : Ordering :=
  (Ord.compare a.rank b.rank).then <|
    (Ord.compare (a.target.getD "") (b.target.getD "")).then <|
      (Ord.compare (a.span.getD "") (b.span.getD "")).then (Field.compareAll a.fields b.fields)

/-- Puts a directive in its place, before those that it is greater than; one about the same is
replaced. -/
def put (d : Directive) : List Directive → List Directive
  | [] => [d]
  | e :: rest =>
    match d.compare e with
    | .eq => d :: rest
    | .gt => d :: e :: rest
    | .lt => e :: put d rest

def bracketText (d : Directive) : List Char :=
  if d.span.isNone && d.fields.isEmpty then []
  else
    let fields := List.intercalate [','] (d.fields.map Field.text)
    '[' :: ((d.span.getD "").toList ++
      ((if d.fields.isEmpty then [] else '\x7b' :: (fields ++ ['\x7d'])) ++ [']']))

def text (d : Directive) : List Char :=
  let subject := (d.target.getD "").toList ++ d.bracketText
  let threshold := (Threshold.text d.threshold).toList
  if d.target.isNone && d.bracketText.isEmpty then threshold else subject ++ '=' :: threshold

end Directive
end Telemetry.Log

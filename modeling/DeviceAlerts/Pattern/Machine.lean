import DeviceAlerts.Pattern.Character
import DeviceAlerts.Pattern.Fault

/-! Patterns with their flags worked in, as they are run. -/

namespace DeviceAlerts.Pattern

/-- A place between characters. -/
inductive Place
  | textStart
  | lineStart
  | textEnd
  /-- The end of the text, also before a line feed that ends it. -/
  | lastLineEnd
  | lineEnd
  | boundary (negated ascii : Bool)
  deriving DecidableEq

inductive Node
  | empty
  | character (test : CharacterTest)
  | place (place : Place)
  | concat (first second : Node)
  | choice (first others : Node)
  | never
  | repetition (mode : Mode) (least : Nat) (most : Option Nat) (body : Node)
  | capture (group : Nat) (body : Node)
  | atomic (body : Node)
  | lookAhead (negated : Bool) (body : Node)
  | lookBehind (negated : Bool) (width : Nat) (body : Node)
  | reference (folding : Folding) (group : Nat)
  | conditional (group : Nat) (present absent : Node)
  deriving DecidableEq

def Flags.folding (f : Flags) : Folding :=
  if !f.ignoreCase then .exact else if f.unicode then .full else .ascii

def Anchor.place (f : Flags) : Anchor → Place
  | .lineStart => if f.multiline then .lineStart else .textStart
  | .lineEnd => if f.multiline then .lineEnd else .lastLineEnd
  | .textStart => .textStart
  | .textEnd => .textEnd
  | .boundary => .boundary false (!f.unicode)
  | .notBoundary => .boundary true (!f.unicode)

/-- Look-behinds longer than this are refused. -/
def lookBehindLimit : Nat := 4294967295

def Mode.operator : Mode → String
  | .greedy => "MAX_REPEAT"
  | .lazy => "MIN_REPEAT"
  | .possessive => "POSSESSIVE_REPEAT"

/-- Works the flags into a tree. A look-behind has to have one width. -/
def Tree.resolve (flags : Flags) : Tree → Except Cause Node
  | .empty => .ok .empty
  | .literal code => .ok (.character (.ofCode false flags.folding code))
  | .notLiteral code => .ok (.character (.ofCode true flags.folding code))
  | .any => .ok (.character (.any flags.dotAll))
  | .charset negated members =>
    .ok (.character (.ofClass negated flags.folding (!flags.unicode) members))
  | .anchor a => .ok (.place (a.place flags))
  | .concat a b => do return .concat (← a.resolve flags) (← b.resolve flags)
  | .choice a b => do return .choice (← a.resolve flags) (← b.resolve flags)
  | .never => .ok .never
  | .repetition mode least most body => do
    if flags.template then throw (.templateRepeat mode.operator)
    return .repetition mode least most (← body.resolve flags)
  | .group none on off body => body.resolve (flags.within on off)
  | .group (some n) on off body => return .capture n (← body.resolve (flags.within on off))
  | .atomic body => return .atomic (← body.resolve flags)
  | .look false negated body => return .lookAhead negated (← body.resolve flags)
  | .look true negated body =>
    let width := body.width
    if lookBehindLimit < width.least then .error .longLookBehind
    else if width.most != some width.least then .error .variableLookBehind
    else return .lookBehind negated width.least (← body.resolve flags)
  | .reference n _ => .ok (.reference flags.folding n)
  | .conditional n present absent =>
    return .conditional n (← present.resolve flags) (← absent.resolve flags)

end DeviceAlerts.Pattern

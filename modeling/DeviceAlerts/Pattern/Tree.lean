import DeviceAlerts.Pattern.Flags

/-! Patterns as they are written. Characters are code points, so that a pattern can name one that
no text holds. -/

namespace DeviceAlerts.Pattern

inductive Category
  | digit
  | notDigit
  | space
  | notSpace
  | word
  | notWord
  deriving DecidableEq

/-- A member of a character class. -/
inductive Member
  | code (code : Nat)
  | range (low high : Nat)
  | category (category : Category)
  deriving DecidableEq

inductive Anchor
  | lineStart
  | lineEnd
  | textStart
  | textEnd
  | boundary
  | notBoundary
  deriving DecidableEq

inductive Mode
  | greedy
  | lazy
  | possessive
  deriving DecidableEq

/-- The least and greatest number of characters that a pattern matches; `none` is no bound. -/
structure Width where
  least : Nat
  most : Option Nat
  deriving DecidableEq

inductive Tree
  | empty
  | literal (code : Nat)
  | notLiteral (code : Nat)
  | any
  | charset (negated : Bool) (members : List Member)
  | anchor (anchor : Anchor)
  | concat (first second : Tree)
  /-- A choice between alternatives: the first one, and the choice between the others. -/
  | choice (first others : Tree)
  /-- The choice between no alternatives. -/
  | never
  | repetition (mode : Mode) (least : Nat) (most : Option Nat) (body : Tree)
  | group (index : Option Nat) (on off : Flags) (body : Tree)
  | atomic (body : Tree)
  | look (behind negated : Bool) (body : Tree)
  | reference (group : Nat) (width : Width)
  | conditional (group : Nat) (present absent : Tree)

namespace Tree

def ofItems : List Tree → Tree
  | [] => empty
  | [t] => t
  | t :: rest => concat t (ofItems rest)

/-- The items of a sequence, with the ones of groups that only bracket among them. -/
def items : Tree → List Tree
  | empty => []
  | concat a b => a.items ++ b.items
  | group none on off body =>
    if on == {} && off == {} then body.items else [group none on off body]
  | t => [t]

/-- Whether two items are the same character, class, anchor or reference. -/
def sameItem : Tree → Tree → Bool
  | literal a, literal b => a == b
  | notLiteral a, notLiteral b => a == b
  | any, any => true
  | charset negated a, charset other b => negated == other && a == b
  | anchor a, anchor b => a == b
  | reference a _, reference b _ => a == b
  | _, _ => false

/-- The items that several sequences begin with alike, and the sequences without them. -/
def splitCommon : List Tree → List (List Tree) → List Tree × List (List Tree)
  | item :: first, others =>
    if others.all fun items => items.head?.any item.sameItem then
      let (common, rest) := splitCommon first (others.map List.tail)
      (item :: common, rest)
    else ([], (item :: first) :: others)
  | [], others => ([], [] :: others)

/-- The class of characters that a sequence of one character stands for. -/
def asClass? : List Tree → Option (List Member)
  | [literal c] => some [.code c]
  | [charset false members] => some members
  | _ => none

def ofChoices : List (List Tree) → Tree
  | [] => never
  | items :: rest => choice (ofItems items) (ofChoices rest)

/-- The choice between sequences. What all of them begin with stands before the choice, and
sequences of one character each make up a class. -/
def ofAlternatives : List (List Tree) → Tree
  | [] => empty
  | [items] => ofItems items
  | first :: others =>
    let (common, rest) := splitCommon first others
    let choice := match rest.mapM asClass? with
      | some classes => charset false classes.flatten.eraseDups
      | none => ofChoices rest
    ofItems (common ++ [choice])

end Tree

namespace Width

def exactly (n : Nat) : Width := ⟨n, some n⟩

def add (a b : Width) : Width :=
  ⟨a.least + b.least, a.most.bind fun m => b.most.map (m + ·)⟩

def union (a b : Width) : Width :=
  ⟨min a.least b.least, a.most.bind fun m => b.most.map (max m ·)⟩

/-- Repeating nothing gives nothing, however often. -/
def times (w : Width) (least : Nat) (most : Option Nat) : Width :=
  ⟨w.least * least,
    if w.most == some 0 || most == some 0 then some 0
    else w.most.bind fun m => most.map (m * ·)⟩

end Width

/-- Assertions take no characters. -/
def Tree.width : Tree → Width
  | .empty | .anchor _ | .look _ _ _ => .exactly 0
  | .literal _ | .notLiteral _ | .any | .charset _ _ => .exactly 1
  | .concat a b => a.width.add b.width
  | .choice a .never => a.width
  | .choice a b => a.width.union b.width
  | .never => .exactly 0
  | .repetition _ least most body => body.width.times least most
  | .group _ _ _ body => body.width
  | .atomic body => body.width
  | .reference _ width => width
  | .conditional _ present absent => present.width.union absent.width

end DeviceAlerts.Pattern

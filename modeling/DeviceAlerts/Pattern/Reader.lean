import DeviceAlerts.Pattern.Names
import DeviceAlerts.Pattern.Source
import DeviceAlerts.Pattern.Tree
import DeviceAlerts.Number.Numeral
import DeviceAlerts.Text.Identifier

/-! Reading patterns. The reader takes the tokens from left to right; a fault is reported at a
position counted back from the next token. Numbers in names of groups may use the digits of any
script, but repeat counts and references only plain ones. -/

namespace DeviceAlerts.Pattern

open DeviceAlerts.Number DeviceAlerts.Text

/-- What has been read so far besides the tree. -/
structure Progress where
  source : Source
  flags : Flags
  /-- The width of every group, the whole pattern being group zero; an open group has none. -/
  widths : Array (Option Width)
  names : List (String × Nat)
  /-- Inside a look-behind, the first group that may not be referred to. -/
  floor : Option Nat
  /-- The groups that conditions refer to by number, with the positions. -/
  numbered : List (Nat × Nat)
  /-- How deep the reader is inside of groups. -/
  depth : Nat

abbrev Reader := StateT Progress (Except Fault)

/-! ### Tokens -/

def failAt (cause : Cause) (back : Nat) : Reader α := do
  let p ← get
  throw (.malformed cause (some (p.source.position - back)))

def peek : Reader (Option Token) := do return (← get).source.next

def advance : Reader Unit := do
  let p ← get
  let source ← p.source.advance
  set { p with source := source }

/-- Takes the next token. -/
def take : Reader (Option Token) := do
  let token ← peek
  advance
  return token

/-- Takes the next token if it is the given character. -/
def accept (c : Char) : Reader Bool := do
  if (← get).source.nextIs c then
    advance
    return true
  else return false

def position : Reader Nat := do return (← get).source.position

/-- Goes back to an earlier position. -/
def rewind (index : Nat) : Reader Unit := do
  let p ← get
  let source ← Source.seek p.source.pattern index
  set { p with source := source }

/-- Takes up to `count` characters of a class. -/
def takeWhile (accepts : Char → Bool) : Nat → Reader (List Char)
  | 0 => return []
  | count + 1 => do
    match (← get).source.next with
    | some [c] =>
      if accepts c then
        advance
        return c :: (← takeWhile accepts count)
      else return []
    | _ => return []

/-- Takes all characters of a class. -/
def takeAll (accepts : Char → Bool) : Reader (List Char) := do
  takeWhile accepts (← get).source.pattern.size

/-- Takes a name up to its closing character. -/
def takeName (closing : Char) (what : String) : Nat → List Char → Reader (List Char)
  | 0, name => return name
  | fuel + 1, name => do
    match ← take with
    | none =>
      if name.isEmpty then failAt (.missing what) 0
      else failAt (.unterminatedName (String.singleton closing)) name.length
    | some token =>
      if token == [closing] then
        if name.isEmpty then failAt (.missing what) 1 else return name
      else takeName closing what fuel (name ++ token)

def takeUntil (closing : Char) (what : String) : Reader (List Char) := do
  takeName closing what ((← get).source.pattern.size + 1) []

/-! ### Groups -/

def groupCount : Reader Nat := do return (← get).widths.size

/-- The width of a group that is closed. -/
def closedWidth? (group : Nat) : Reader (Option Width) := do
  return ((← get).widths[group]?).join

def checkGroupName (name : List Char) : Reader Unit := do
  if isIdentifier name then return ()
  else failAt (.badGroupName (String.ofList name)) (name.length + 1)

def namedGroup? (name : List Char) : Reader (Option Nat) := do
  return ((← get).names.find? fun n => n.1 == String.ofList name).map (·.2)

/-- Inside a look-behind only groups that were closed before it may be referred to. -/
def checkFloor (group : Nat) : Reader Unit := do
  match (← get).floor with
  | none => return ()
  | some floor =>
    if (← closedWidth? group).isNone then failAt .openGroup 0
    else if floor ≤ group then failAt .sameLookBehind 0
    else return ()

/-- Opens the next group; its name has to be new. -/
def openGroup (name : Option (List Char)) : Reader Nat := do
  let p ← get
  let group := p.widths.size
  let widths := p.widths.push none
  match name with
  | none => set { p with widths := widths }
  | some name =>
    let known := String.ofList name
    match p.names.find? fun n => n.1 == known with
    | some was => failAt (.redefinedGroup known group was.2) (name.length + 1)
    | none => set { p with widths := widths, names := p.names ++ [(known, group)] }
  return group

def closeGroup (group : Nat) (width : Width) : Reader Unit := do
  modify fun p => { p with widths := p.widths.setIfInBounds group (some width) }

/-! ### Escapes -/

def isOctalDigit (c : Char) : Bool := '0' ≤ c && c ≤ '7'

def isHexDigit (c : Char) : Bool :=
  isPlainDigit c || ('a' ≤ c && c ≤ 'f') || ('A' ≤ c && c ≤ 'F')

def hexCharacterValue (c : Char) : Nat :=
  if isPlainDigit c then c.toNat - 0x30
  else if 'a' ≤ c then c.toNat - 0x57
  else c.toNat - 0x37

def inBase (base : Nat) (digits : List Char) : Nat :=
  digits.foldl (fun n c => base * n + hexCharacterValue c) 0

/-- Escapes that stand for a control character. -/
def controlEscape? (c : Char) : Option Nat :=
  if c == 'a' then some 7
  else if c == 'b' then some 8
  else if c == 'f' then some 12
  else if c == 'n' then some 10
  else if c == 'r' then some 13
  else if c == 't' then some 9
  else if c == 'v' then some 11
  else if c == '\\' then some 92
  else none

def categoryEscape? (c : Char) : Option Category :=
  if c == 'd' then some .digit
  else if c == 'D' then some .notDigit
  else if c == 's' then some .space
  else if c == 'S' then some .notSpace
  else if c == 'w' then some .word
  else if c == 'W' then some .notWord
  else none

def anchorEscape? (c : Char) : Option Anchor :=
  if c == 'A' then some .textStart
  else if c == 'Z' then some .textEnd
  else if c == 'b' then some .boundary
  else if c == 'B' then some .notBoundary
  else none

/-- The text of an escape: the backslash, its letter and what was read after it. -/
def escapeText (c : Char) (more : List Char) : String := String.ofList ('\\' :: c :: more)

/-- A code point given by a fixed number of hexadecimal digits. -/
def hexEscape (c : Char) (count : Nat) : Reader Nat := do
  let digits ← takeWhile isHexDigit count
  let text := escapeText c digits
  if digits.length != count then failAt (.incompleteEscape text) (digits.length + 2)
  else if 0x10FFFF < inBase 16 digits then failAt (.badEscape text) (digits.length + 2)
  else return inBase 16 digits

/-- A code point given by its name in braces. -/
def namedEscape : Reader Nat := do
  if !(← accept '\x7b') then failAt (.missing "\x7b") 0
  else
    let name ← takeUntil '\x7d' "character name"
    match characterNamed? (String.ofList name) with
    | some code => return code
    | none => failAt (.unknownCharacterName (String.ofList name)) (name.length + 4)

/-- The escapes of code points, which classes and sequences share. -/
def codeEscape? (c : Char) : Reader (Option Nat) := do
  if c == 'x' then return some (← hexEscape c 2)
  else if c == 'u' then return some (← hexEscape c 4)
  else if c == 'U' then return some (← hexEscape c 8)
  else if c == 'N' then return some (← namedEscape)
  else return none

/-- An octal escape may not exceed one byte. -/
def octalEscape (c : Char) (more : List Char) : Reader Nat := do
  let value := inBase 8 (c :: more)
  if 0o377 < value then failAt (.octalOutOfRange (escapeText c more)) (more.length + 2)
  else return value

/-- Any other character stands for itself, but letters are reserved. -/
def selfEscape (c : Char) : Reader Nat := do
  if c.isAlpha then failAt (.badEscape (escapeText c [])) 2 else return c.toNat

def classEscape (c : Char) : Reader Member := do
  match controlEscape? c, categoryEscape? c with
  | some code, _ => return .code code
  | none, some category => return .category category
  | none, none =>
    match ← codeEscape? c with
    | some code => return .code code
    | none =>
      if isOctalDigit c then
        let more ← takeWhile isOctalDigit 2
        return .code (← octalEscape c more)
      else if isPlainDigit c then failAt (.badEscape (escapeText c [])) 2
      else return .code (← selfEscape c)

/-- A reference to a group that is closed. -/
def reference (digits : List Char) : Reader Tree := do
  let group := digitsValue digits
  if group < (← groupCount) then
    match ← closedWidth? group with
    | none => failAt .openGroup (digits.length + 1)
    | some width =>
      checkFloor group
      return .reference group width
  else failAt (.invalidReference group) digits.length

/-- Up to two digits refer to a group; three octal digits are a code point. -/
def digitEscape (c : Char) : Reader Tree := do
  match ← takeWhile isPlainDigit 1 with
  | [d] =>
    if isOctalDigit c && isOctalDigit d then
      match ← takeWhile isOctalDigit 1 with
      | [e] => return .literal (← octalEscape c [d, e])
      | _ => reference [c, d]
    else reference [c, d]
  | _ => reference [c]

def escape (c : Char) : Reader Tree := do
  match categoryEscape? c, anchorEscape? c with
  | some category, _ => return .charset false [.category category]
  | none, some anchor => return .anchor anchor
  | none, none =>
    match controlEscape? c with
    | some code => return .literal code
    | none =>
      match ← codeEscape? c with
      | some code => return .literal code
      | none =>
        if c == '0' then
          return .literal (inBase 8 (c :: (← takeWhile isOctalDigit 2)))
        else if isPlainDigit c then digitEscape c
        else return .literal (← selfEscape c)

/-! ### Classes -/

/-- The member that a token of a class stands for. -/
def classMember (token : Token) : Reader Member :=
  match token with
  | ['\\', c] => classEscape c
  | [c] => return .code c.toNat
  | _ => return .code 0

def tokenText (token : Token) : String := String.ofList token

/-- The members of a class up to its closing bracket, which may stand first as a member. -/
def classMembers (opening : Nat) : Nat → List Member → Reader (List Member)
  | 0, members => return members
  | fuel + 1, members => do
    match ← take with
    | none => failAt .unterminatedSet ((← position) - opening)
    | some this =>
      if this == [']'] && !members.isEmpty then return members
      else
        let low ← classMember this
        if ← accept '-' then
          match ← take with
          | none => failAt .unterminatedSet ((← position) - opening)
          | some that =>
            if that == [']'] then return members ++ [low, .code 0x2D]
            else
              let high ← classMember that
              let bad := failAt
                (.badRange (tokenText this ++ "-" ++ tokenText that))
                (this.length + 1 + that.length)
              match low, high with
              | .code l, .code h =>
                if h < l then bad else classMembers opening fuel (members ++ [.range l h])
              | _, _ => bad
        else classMembers opening fuel (members ++ [low])

/-- A class whose opening bracket has been taken. -/
def characterClass : Reader Tree := do
  let opening := (← position) - 1
  let negated ← accept '^'
  let members := (← classMembers opening ((← get).source.pattern.size + 1) []).eraseDups
  match members with
  | [.code code] => return if negated then .notLiteral code else .literal code
  | _ => return .charset negated members

/-! ### Repetition -/

/-- Counts from here on are refused. -/
def repeatLimit : Nat := 4294967295

/-- The bounds of a repetition and whether its brace is one at all. -/
inductive Bounds
  | none
  | between (least : Nat) (most : Option Nat)

def checkedCount (digits : List Char) : Reader Nat := do
  if integerDigitLimit < digits.length then throw (.hugeNumber digits.length)
  else if repeatLimit ≤ digitsValue digits then throw .hugeRepeat
  else return digitsValue digits

/-- Bounds in braces. Braces that hold anything else are plain characters. -/
def braceBounds (here : Nat) : Reader Bounds := do
  if (← get).source.nextIs '\x7d' then return .none
  else
    let low ← takeAll isPlainDigit
    let ranged ← accept ','
    let high ← if ranged then takeAll isPlainDigit else pure low
    if !(← accept '\x7d') then
      rewind here
      return .none
    else
      let least ← if low.isEmpty then pure 0 else checkedCount low
      if high.isEmpty then return .between least Option.none
      else
        let most ← checkedCount high
        if most < least then failAt .repeatBoundsReversed ((← position) - here)
        else return .between least (some most)

def bounds (c : Char) (here : Nat) : Reader Bounds :=
  if c == '?' then return .between 0 (some 1)
  else if c == '*' then return .between 0 Option.none
  else if c == '+' then return .between 1 Option.none
  else braceBounds here

/-- Repeats the last item read, which has to be there and repeatable. -/
def repeatLast (here : Nat) (least : Nat) (most : Option Nat) (items : List Tree) :
    Reader (List Tree) := do
  match items with
  | [] => failAt .nothingToRepeat ((← position) - here + 1)
  | .anchor _ :: _ => failAt .nothingToRepeat ((← position) - here + 1)
  | .repetition _ _ _ _ :: _ => failAt .multipleRepeat ((← position) - here + 1)
  | item :: before =>
    if ← accept '?' then return .repetition .lazy least most item :: before
    else if ← accept '+' then return .repetition .possessive least most item :: before
    else return .repetition .greedy least most item :: before

/-! ### Flags -/

/-- What follows the flags: the end of the brackets, or flags for a group. -/
inductive FlagScope
  | everything
  | group (on off : Flags)

def flagFault (c : Token) (otherwise : String) : Cause :=
  match c with
  | [c] => if c != '_' && isIdentifierStart c.toNat then .unknownFlag else .missing otherwise
  | _ => .missing otherwise

/-- The flags that are turned off, up to the colon. -/
def flagsOff : Nat → Char → Flags → Reader Flags
  | 0, _, off => return off
  | fuel + 1, c, off => do
    let flag := (Flags.ofLetter? c).getD {}
    if flag.choosesRepertoire || c == 'L' then failAt .repertoireOff 0
    else
      let off := off.union flag
      match ← take with
      | none => failAt (.missing ":") 0
      | some [':'] => return off
      | some [d] =>
        if (Flags.ofLetter? d).isSome || d == 'L' then flagsOff fuel d off
        else failAt (flagFault [d] ":") 1
      | some token => failAt (flagFault token ":") token.length

/-- The flags that are turned on, and the character that ends them. -/
def flagsOn : Nat → Char → Flags → Reader (Flags × Char)
  | 0, c, on => return (on, c)
  | fuel + 1, c, on => do
    if c == 'L' then failAt .localeFlag 0
    else
      let flag := (Flags.ofLetter? c).getD {}
      let on := on.union flag
      if flag.choosesRepertoire && on.ascii && on.unicode then failAt .incompatibleFlags 0
      else
        match ← take with
        | none => failAt (.missing "-, : or )") 0
        | some [d] =>
          if d == ')' || d == '-' || d == ':' then return (on, d)
          else if (Flags.ofLetter? d).isSome || d == 'L' then flagsOn fuel d on
          else failAt (flagFault [d] "-, : or )") 1
        | some token => failAt (flagFault token "-, : or )") token.length

/-- The flags after a minus sign, of which there has to be one. -/
def firstFlagOff (fuel : Nat) : Reader Flags := do
  match ← take with
  | none => failAt (.missing "flag") 0
  | some [d] =>
    if (Flags.ofLetter? d).isSome || d == 'L' then flagsOff fuel d {}
    else failAt (flagFault [d] "flag") 1
  | some token => failAt (flagFault token "flag") token.length

/-- Flags whose first letter, or minus sign, has been taken. -/
def flagGroup (c : Char) : Reader FlagScope := do
  let fuel := (← get).source.pattern.size + 1
  let (on, c) ← if c == '-' then pure (({} : Flags), c) else flagsOn fuel c {}
  if c == ')' then
    modify fun p => { p with flags := p.flags.union on }
    return .everything
  else if on.template then failAt .globalFlagOn 1
  else
    let off ← if c == '-' then firstFlagOff fuel else pure {}
    if off.template then failAt .globalFlagOff 1
    else if on.intersects off then failAt .flagOnAndOff 1
    else return .group on off

/-! ### Sequences -/

/-- What an opening parenthesis begins, after its question mark and letters. -/
inductive Opening
  | capture (name : Option (List Char))
  | bracket (on off : Flags)
  | atomic
  | look (behind negated : Bool)
  | comment
  | backReference (tree : Tree)
  | condition
  | globalFlags

/-- The back reference by name, up to its closing parenthesis. -/
def namedReference : Reader Tree := do
  let name ← takeUntil ')' "group name"
  checkGroupName name
  match ← namedGroup? name with
  | none => failAt (.unknownGroup (String.ofList name)) (name.length + 1)
  | some group =>
    match ← closedWidth? group with
    | none => failAt .openGroup (name.length + 1)
    | some width =>
      checkFloor group
      return .reference group width

/-- The letters after an opening parenthesis. -/
def opening : Reader Opening := do
  if !(← accept '?') then return .capture none
  else
    match ← take with
    | none => failAt .unexpectedEnd 0
    | some ['P'] =>
      if ← accept '<' then
        let name ← takeUntil '>' "group name"
        checkGroupName name
        return .capture (some name)
      else if ← accept '=' then return .backReference (← namedReference)
      else
        match ← take with
        | none => failAt .unexpectedEnd 0
        | some token =>
          failAt (.unknownExtension ("?P" ++ tokenText token)) (token.length + 2)
    | some [':'] => return .bracket {} {}
    | some ['#'] => return .comment
    | some ['='] => return .look false false
    | some ['!'] => return .look false true
    | some ['<'] =>
      match ← take with
      | none => failAt .unexpectedEnd 0
      | some ['='] => return .look true false
      | some ['!'] => return .look true true
      | some token =>
        failAt (.unknownExtension ("?<" ++ tokenText token)) (token.length + 2)
    | some ['('] => return .condition
    | some ['>'] => return .atomic
    | some [c] =>
      if (Flags.ofLetter? c).isSome || c == 'L' || c == '-' then
        match ← flagGroup c with
        | .everything => return .globalFlags
        | .group on off => return .bracket on off
      else failAt (.unknownExtension ("?" ++ String.singleton c)) 2
    | some token => failAt (.unknownExtension ("?" ++ tokenText token)) (token.length + 1)

/-- The group that a condition asks for, by name or by number. -/
def conditionGroup : Reader Nat := do
  let name ← takeUntil ')' "group name"
  if isIdentifier name then
    match ← namedGroup? name with
    | none => failAt (.unknownGroup (String.ofList name)) (name.length + 1)
    | some group => return group
  else
    match readInteger (String.ofList name) with
    | .ok (.ofNat group) =>
      if group == 0 then failAt .badGroupNumber (name.length + 1)
      else if 1073741823 ≤ group then failAt (.invalidReference group) (name.length + 1)
      else
        let p ← get
        if p.numbered.all fun n => n.1 != group then
          set { p with numbered := p.numbered ++ [(group, (← position) - name.length - 1)] }
        return group
    | _ => failAt (.badGroupName (String.ofList name)) (name.length + 1)

/-- Skips a comment up to its closing parenthesis. -/
def skipComment (start : Nat) : Nat → Reader Unit
  | 0 => return ()
  | fuel + 1 => do
    if (← peek).isNone then failAt .unterminatedComment ((← position) - start)
    else if (← take) == some [')'] then return ()
    else skipComment start fuel

/-- Skips the rest of a line. -/
def skipLine : Nat → Reader Unit
  | 0 => return ()
  | fuel + 1 => do
    match ← take with
    | none => return ()
    | some token => if token == ['\n'] then return () else skipLine fuel

def isVerboseBlank (c : Char) : Bool := c == ' ' || (9 ≤ c.toNat && c.toNat ≤ 13)

def closeParenthesis (start : Nat) : Reader Unit := do
  if ← accept ')' then return () else failAt .unterminatedGroup ((← position) - start)

/-- Groups may be nested only so deep, where a condition counts once and any other group twice. -/
def depthLimit : Nat := 970

/-- Reads the inside of a group. -/
def inside (levels : Nat) (body : Reader α) : Reader α := do
  if depthLimit < (← get).depth + levels then throw .deepNesting
  modify fun p => { p with depth := p.depth + levels }
  let result ← body
  modify fun p => { p with depth := p.depth - levels }
  return result

mutual
/-- Alternatives up to the end of the pattern or a closing parenthesis. At the top level, flags
for the whole pattern also hold for the alternatives after them. -/
def alternatives : Nat → Bool → Bool → List (List Tree) → Reader Tree
  | 0, _, _, done => return .ofAlternatives done.reverse
  | fuel + 1, verbose, nested, done => do
    let items ← sequence fuel verbose (!nested && done.isEmpty) []
    let done := (Tree.ofItems items.reverse).items :: done
    if ← accept '|' then
      let flags := (← get).flags
      alternatives fuel (if nested then verbose else flags.verbose) nested done
    else return .ofAlternatives done.reverse

/-- Items up to a bar, a closing parenthesis or the end; the last one read comes first. -/
def sequence : Nat → Bool → Bool → List Tree → Reader (List Tree)
  | 0, _, _, items => return items
  | fuel + 1, verbose, first, items => do
    match ← peek with
    | none => return items
    | some ['|'] => return items
    | some [')'] => return items
    | some ['\\', c] =>
      advance
      sequence fuel verbose first ((← escape c) :: items)
    | some [c] =>
      advance
      if verbose && isVerboseBlank c then sequence fuel verbose first items
      else if verbose && c == '#' then
        skipLine ((← get).source.pattern.size + 1)
        sequence fuel verbose first items
      else if c == '[' then sequence fuel verbose first ((← characterClass) :: items)
      else if c == '*' || c == '+' || c == '?' || c == '\x7b' then
        let here ← position
        match ← bounds c here with
        | .none => sequence fuel verbose first (.literal c.toNat :: items)
        | .between least most =>
          sequence fuel verbose first (← repeatLast here least most items)
      else if c == '.' then sequence fuel verbose first (.any :: items)
      else if c == '^' then sequence fuel verbose first (.anchor .lineStart :: items)
      else if c == '$' then sequence fuel verbose first (.anchor .lineEnd :: items)
      else if c == '(' then
        let start := (← position) - 1
        match ← opening with
        | .globalFlags =>
          let here ← position
          let flags := (← get).flags
          if !first || !items.isEmpty then failAt .globalFlagsInside (here - start)
          else sequence fuel flags.verbose first items
        | .comment =>
          skipComment start ((← get).source.pattern.size + 1)
          sequence fuel verbose first items
        | .backReference tree => sequence fuel verbose first (tree :: items)
        | .condition =>
          sequence fuel verbose first ((← conditional fuel verbose start) :: items)
        | .look behind negated =>
          let outer := (← get).floor
          if behind && outer.isNone then
            modify fun p => { p with floor := some p.widths.size }
          let body ← inside 2 (alternatives fuel verbose true [])
          if behind then modify fun p => { p with floor := outer }
          closeParenthesis start
          sequence fuel verbose first (.look behind negated body :: items)
        | .atomic =>
          let body ← inside 2 (alternatives fuel verbose true [])
          closeParenthesis start
          sequence fuel verbose first (.atomic body :: items)
        | .bracket on off =>
          let inner := (verbose || on.verbose) && !off.verbose
          let body ← inside 2 (alternatives fuel inner true [])
          closeParenthesis start
          sequence fuel verbose first (.group none on off body :: items)
        | .capture name =>
          let group ← openGroup name
          let body ← inside 2 (alternatives fuel verbose true [])
          closeParenthesis start
          closeGroup group body.width
          sequence fuel verbose first (.group (some group) {} {} body :: items)
      else sequence fuel verbose first (.literal c.toNat :: items)
    | some _ => return items

/-- A condition and its one or two branches. -/
def conditional : Nat → Bool → Nat → Reader Tree
  | 0, _, _ => return .empty
  | fuel + 1, verbose, start => do
    let group ← conditionGroup
    checkFloor group
    let present ← inside 1 (sequence fuel verbose false [])
    let branched ← accept '|'
    let absent ← if branched then inside 1 (sequence fuel verbose false []) else pure []
    let next ← peek
    if branched && next == some ['|'] then failAt .tooManyBranches 0
    closeParenthesis start
    return .conditional group (.ofItems present.reverse) (.ofItems absent.reverse)
end

/-- A pattern that has been read: its tree, its flags and the number of its groups. -/
structure Parsed where
  tree : Tree
  flags : Flags
  groups : Nat

/-- Reads a whole pattern. Its flags are checked before anything that is left over. -/
def whole : Reader Parsed := do
  let size := (← get).source.pattern.size
  let tree ← alternatives (4 * size + 16) false false []
  let p ← get
  if p.flags.ascii && p.flags.unicode then throw .clashingFlags
  else if p.source.next.isSome then failAt .unbalancedParenthesis 0
  else match p.numbered.find? fun n => p.widths.size ≤ n.1 with
    | some n => throw (.malformed (.invalidReference n.1) (some n.2))
    | none =>
      let flags := if p.flags.ascii then p.flags else { p.flags with unicode := true }
      return ⟨tree, flags, p.widths.size - 1⟩

def parse (pattern : String) : Except Fault Parsed := do
  let source ← Source.start pattern
  let (parsed, _) ← whole.run ⟨source, {}, #[none], [], none, [], 0⟩
  return parsed

end DeviceAlerts.Pattern

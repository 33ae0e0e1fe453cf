import DeviceAlerts.Pattern.Chain

/-! Running a chain on a text. The ways to match are tried in order and the first one wins.
`Chain.run` is given what has to match behind the chain; it answers whether all matched, with what
is remembered then. A way that fails leaves traces: marks that it set on groups which had none
before are wiped, other marks keep what it wrote unless a repetition is under way, and a possessive
repetition goes on from where its last, failed round stopped. -/

namespace DeviceAlerts.Pattern

open DeviceAlerts.Text

/-- Where the last way that was tried stopped, and the marks of the groups. -/
structure Memory where
  position : Nat
  marks : Array (Option Nat)
  deriving DecidableEq

/-- What has to match from a position on. -/
abbrev Rest := Nat → Memory → Bool × Memory

namespace Memory

def goTo (m : Memory) (position : Nat) : Memory := { m with position }

def mark (m : Memory) (index position : Nat) : Memory :=
  let missing := index + 1 - m.marks.size
  { m with marks := (m.marks ++ Array.replicate missing none).setIfInBounds index (some position) }

/-- Memory after a way that failed; `saved` is the memory before it. -/
def undo (m : Memory) (looped : Bool) (saved : Memory) : Memory :=
  { m with marks := if looped then saved.marks else m.marks.extract 0 saved.marks.size }

/-- The start and the end of what a group took last. -/
def taken? (m : Memory) (group : Nat) : Option (Nat × Nat) :=
  match m.marks[2 * group - 2]?, m.marks[2 * group - 1]? with
  | some (some start), some (some stop) => if start ≤ stop then some (start, stop) else none
  | _, _ => none

end Memory

/-- Nothing more has to match. -/
def finish : Rest := fun position m => (true, m.goTo position)

/-- Goes on with `other` when the way that was tried failed. -/
def orElse (tried : Bool × Memory) (other : Memory → Bool × Memory) : Bool × Memory :=
  if tried.1 then tried else other tried.2

/-! ### Places -/

def wordAt (text : Array Char) (ascii : Bool) (position : Nat) : Bool :=
  match text[position]? with
  | some c => (!ascii || c.toNat < 0x80) && isWordCharacter c.toNat
  | none => false

/-- There is no boundary, and no place without one either, in an empty text. -/
def Place.holds (text : Array Char) (position : Nat) : Place → Bool
  | .textStart => position == 0
  | .lineStart => position == 0 || text[position - 1]? == some '\n'
  | .textEnd => position == text.size
  | .lastLineEnd =>
    position == text.size || (position + 1 == text.size && text[position]? == some '\n')
  | .lineEnd => position == text.size || text[position]? == some '\n'
  | .boundary negated ascii =>
    text.size != 0 &&
      (((0 < position && wordAt text ascii (position - 1)) != wordAt text ascii position) !=
        negated)

/-! ### Repeated characters -/

/-- How many characters from a position on pass, up to a limit. -/
def passing (text : Array Char) (test : CharacterTest) (position : Nat) : Nat → Nat
  | 0 => 0
  | limit + 1 =>
    if test.holdsAt text position then passing text test (position + 1) limit + 1 else 0

/-- Tries the rest behind `count` characters from a position on, then behind fewer. Where the
letter that has to follow does not stand, nothing is tried. -/
def giveBack (text : Array Char) (looped : Bool) (letter : Option CharacterTest) (least : Nat)
    (rest : Rest) (position : Nat) (saved : Memory) : Nat → Memory → Bool × Memory
  | 0, m =>
    if 0 < least || letter.any fun test => !test.holdsAt text position then (false, m)
    else orElse (rest position (m.goTo position)) fun m => (false, m.undo looped saved)
  | count + 1, m =>
    if count + 1 < least then (false, m)
    else
      let here := position + (count + 1)
      if letter.any fun test => !test.holdsAt text here then
        giveBack text looped letter least rest position saved count m
      else
        orElse (rest here (m.goTo here)) fun m =>
          giveBack text looped letter least rest position saved count (m.undo looped saved)

/-- Memory after `count` characters from a position on passed a test; only a class that ignores case
walks along with them. -/
def Memory.pass (m : Memory) (test : CharacterTest) (position count : Nat) : Memory :=
  m.goTo (if test.isFoldedClass then position + count else position)

/-- Tries the rest at a position, then behind ever more characters, at most `limit`. -/
def takeMore (text : Array Char) (looped : Bool) (test : CharacterTest) (rest : Rest)
    (saved : Memory) : Nat → Nat → Memory → Bool × Memory
  | 0, position, m =>
    orElse (rest position (m.goTo position)) fun m =>
      (false, (m.undo looped saved).pass test position (passing text test position 1))
  | limit + 1, position, m =>
    orElse (rest position (m.goTo position)) fun m =>
      let m := (m.undo looped saved).goTo position
      if test.holdsAt text position then
        takeMore text looped test rest saved limit (position + 1) m
      else (false, m)

def runCharacters (text : Array Char) (looped : Bool) (letter : Option CharacterTest) (mode : Mode)
    (least : Nat) (most : Option Nat) (test : CharacterTest) (rest : Rest) : Rest :=
  fun position m =>
    let left := text.size - position
    if left < least then (false, m)
    else
      let limit := (most.map (min left ·)).getD left
      let count := passing text test position (if mode = .lazy then least else limit)
      let m := m.pass test position count
      if count < least then (false, m)
      else
        match mode with
        | .greedy => giveBack text looped letter least rest position m count m
        | .lazy => takeMore text looped test rest m (limit - least) (position + least) m
        | .possessive => rest (position + count) m

/-! ### Repetitions -/

/-- Repeats a body as often as possible. `last` is where the last round beyond the least number
began; a round that takes no characters is the last one. -/
def runGreedy (body : Rest → Rest) (least : Nat) (most : Option Nat) (rest : Rest) :
    Nat → Nat → Option Nat → Rest
  | 0, _, _ => rest
  | fuel + 1, count, last => fun position m =>
    let m := m.goTo position
    let leave (m : Memory) : Bool × Memory := (false, m.goTo position)
    if count < least then
      orElse (body (runGreedy body least most rest fuel (count + 1) last) position m) leave
    else if most.all (count < ·) && last != some position then
      orElse
        (body (runGreedy body least most rest fuel (count + 1) (some position)) position m)
        fun _ => orElse (rest position m) leave
    else orElse (rest position m) leave

/-- Repeats a body as seldom as possible. -/
def runLazy (looped : Bool) (body : Rest → Rest) (least : Nat) (most : Option Nat) (rest : Rest) :
    Nat → Nat → Option Nat → Rest
  | 0, _, _ => rest
  | fuel + 1, count, last => fun position m =>
    let saved := m.goTo position
    let leave (m : Memory) : Bool × Memory := (false, m.goTo position)
    if count < least then
      orElse (body (runLazy looped body least most rest fuel (count + 1) last) position saved) leave
    else
      orElse (rest position saved) fun m =>
        let m := (m.undo looped saved).goTo position
        if most.all (count < ·) && last != some position then
          orElse
            (body (runLazy looped body least most rest fuel (count + 1) (some position)) position m)
            leave
        else (false, m)

/-- Repeats a body as often as possible without ever going back. -/
def runPossessive (body : Rest → Rest) (least : Nat) (most : Option Nat) (start : Nat) :
    Nat → Nat → Option Nat → Memory → Bool × Memory
  | 0, _, _, m => (true, m)
  | fuel + 1, count, last, m =>
    if count < least then
      let (found, m) := body finish m.position m
      if found then runPossessive body least most start fuel (count + 1) last m
      else (false, m.goTo start)
    else if most.all (count < ·) && last != some m.position then
      let (found, after) := body finish m.position m
      if found then runPossessive body least most start fuel (count + 1) (some m.position) after
      else (true, m.goTo after.position)
    else (true, m)

/-! ### Chains -/

def foldedSlice (folding : Folding) (text : Array Char) (start stop : Nat) : List Nat :=
  (text.extract start stop).toList.map fun c => folding.lower c.toNat

/-- Runs a chain; `looped` while a repetition is under way, and `after` is the letter that has to
follow the chain where that is known. -/
def Chain.run (text : Array Char) : Chain → Bool → Option CharacterTest → Rest → Rest
  | .done, _, _, rest => rest
  | .character test next, looped, after, rest => fun position m =>
    if test.holdsAt text position then next.run text looped after rest (position + 1) m
    else (false, m)
  | .place p next, looped, after, rest => fun position m =>
    if p.holds text position then next.run text looped after rest position m else (false, m)
  | .mark index next, looped, after, rest => fun position m =>
    next.run text looped after rest position (m.mark index position)
  | .branch options next, looped, after, rest =>
    options.run text looped none (next.run text looped after rest)
  | .option first others, looped, _, rest => fun position m =>
    if first.isBarred text position then others.run text looped none rest position m
    else
      orElse (first.run text looped none rest position (m.goTo position)) fun tried =>
        others.run text looped none rest position (tried.undo looped m)
  | .never, _, _, _ => fun _ m => (false, m)
  | .characters mode least most test next, looped, after, rest =>
    runCharacters text looped (next.firstLetter? after) mode least most test
      (next.run text looped after rest)
  | .repetition mode least most body next, looped, after, rest => fun position m =>
    let fuel := least + 2 * text.size + 2
    match mode with
    | .greedy =>
      runGreedy (body.run text true none) least most (next.run text looped after rest) fuel 0 none
        position m
    | .lazy =>
      runLazy looped (body.run text true none) least most (next.run text looped after rest) fuel 0
        none position m
    | .possessive =>
      let (found, m) := runPossessive (body.run text looped none) least most position fuel 0 none
        (m.goTo position)
      if found then next.run text looped after rest m.position m else (false, m)
  | .atomic body next, looped, after, rest => fun position m =>
    let (found, m) := body.run text looped none finish position (m.goTo position)
    if found then next.run text looped after rest m.position m else (false, m.goTo position)
  | .look negated back body next, looped, after, rest => fun position m =>
    if position < back then
      if negated then next.run text looped after rest position m else (false, m)
    else
      let (found, tried) := body.run text looped none finish (position - back)
        (m.goTo (position - back))
      if found == negated then (false, tried)
      else
        next.run text looped after rest position (if found then tried else tried.undo looped m)
  | .reference folding group next, looped, after, rest => fun position m =>
    match m.taken? group with
    | none => (false, m)
    | some (start, stop) =>
      let behind := position + (stop - start)
      if behind ≤ text.size && foldedSlice folding text start stop ==
          foldedSlice folding text position behind then
        next.run text looped after rest behind m
      else (false, m)
  | .conditional group present absent next, looped, after, rest => fun position m =>
    let next' := next.run text looped after rest
    let letter := next.firstLetter? after
    if (m.taken? group).isSome then
      present.run text looped (if absent = .done then letter else none) next' position m
    else absent.run text looped letter next' position m

/-! ### Search -/

/-- Whether a match may begin at a position. -/
def mayBegin (leading : Option CharacterTest) (text : Array Char) (start : Nat) : Bool :=
  leading.all fun test => test.holdsAt text start

/-- Tries a chain at a position and at all later ones; answers where it began to match. -/
def Chain.searchFrom (chain : Chain) (leading : Option CharacterTest) (text : Array Char) :
    Nat → Nat → Option (Nat × Memory)
  | 0, _ => none
  | tries + 1, start =>
    match
      if mayBegin leading text start then chain.run text false none finish start ⟨start, #[]⟩
      else (false, ⟨start, #[]⟩) with
    | (true, m) => some (start, m)
    | (false, _) => chain.searchFrom leading text tries (start + 1)

end DeviceAlerts.Pattern

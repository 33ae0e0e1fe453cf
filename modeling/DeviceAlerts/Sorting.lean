/-! Selecting by a test and sorting by a relation that may fail. Which failure shows depends on the
pairs that are compared and on their order: first the run at the head of the list is taken,
which goes either down or not, then every further element is placed among those before it by
halving. Where no comparison fails the result is the usual one, in which equal elements keep
their order. -/

namespace DeviceAlerts.Sorting

variable {α ε : Type}

def holds : Except ε Bool → Bool
  | .ok b => b
  | .error _ => false

/-- The elements that pass a test that may fail. -/
def keep (test : α → Except ε Bool) : List α → Except ε (List α)
  | [] => .ok []
  | x :: rest => do
    let passes ← test x
    let others ← keep test rest
    return if passes then x :: others else others

/-! ### Comparisons -/

variable (less : α → α → Except ε Bool)

/-- Splits off the elements that each go on in the direction of the run; `before` is the last
element of the run so far. -/
def takeRun (down : Bool) (before : α) : List α → Except ε (List α × List α)
  | [] => .ok ([], [])
  | x :: rest => do
    if (← less x before) == down then
      let (run, rest) ← takeRun down x rest
      return (x :: run, rest)
    else return ([], x :: rest)

/-- The place of an element among sorted ones, behind those that are equal to it. -/
def place (x : α) (sorted : List α) (low high : Nat) : Except ε Nat :=
  if low < high then
    match sorted[(low + high) / 2]? with
    | none => .ok low
    | some y => do
      if ← less x y then place x sorted low ((low + high) / 2)
      else place x sorted ((low + high) / 2 + 1) high
  else .ok low
termination_by high - low

def insertAll (sorted : List α) : List α → Except ε Unit
  | [] => .ok ()
  | x :: rest => do
    let i ← place less x sorted 0 sorted.length
    insertAll (sorted.insertIdx i x) rest

/-- Makes the comparisons of a sort. -/
def trial : List α → Except ε Unit
  | [] | [_] => .ok ()
  | first :: second :: rest => do
    let down ← less second first
    let (run, rest) ← takeRun less down second rest
    let start := first :: second :: run
    insertAll less (if down then start.reverse else start) rest

/-! ### Results -/

/-- The elements in ascending order. -/
def ascending (xs : List α) : Except ε (List α) :=
  (trial less xs).map fun _ => xs.mergeSort fun a b => !holds (less b a)

/-- The elements in descending order, compared from the end of the list on. -/
def descending (xs : List α) : Except ε (List α) :=
  (trial less xs.reverse).map fun _ => xs.mergeSort fun a b => !holds (less a b)

end DeviceAlerts.Sorting

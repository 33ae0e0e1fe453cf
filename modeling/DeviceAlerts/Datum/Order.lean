import DeviceAlerts.Datum

/-! The order of values. Numbers, texts, moments and lists are each in an order of their own, and
values of different kinds in none; NaN is neither above nor below anything. -/

namespace DeviceAlerts

open DeviceAlerts.Number DeviceAlerts.Time

/-- The operators that ask for the order of two values. -/
inductive Relation
  | below
  | above
  | notBelow
  | notAbove
  deriving DecidableEq

namespace Relation

def symbol : Relation → String
  | below => "<"
  | above => ">"
  | notBelow => ">="
  | notAbove => "<="

def admits : Relation → Ordering → Bool
  | below, o => o.isLT
  | above, o => o.isGT
  | notBelow, o => o.isGE
  | notAbove, o => o.isLE

end Relation

namespace Datum

/-- A number as an exact ratio; the denominator of an infinity is zero. -/
def ratio? : Datum → Option (Int × Nat)
  | bool b => some (b.toNat, 1)
  | int i => some (i, 1)
  | float (.signed negative m) =>
    let r := Binary64.ratio m.val
    if m.val < infiniteMagnitude then
      some (if negative then -Int.ofNat r.num else r.num, r.den)
    else some (if negative then -1 else 1, 0)
  | _ => none

/-- The order of two ratios; infinities are as far apart as their signs. -/
def orderOfRatios (a b : Int × Nat) : Ordering :=
  if a.2 = 0 ∧ b.2 = 0 then compare a.1 b.1 else compare (a.1 * b.2) (b.1 * a.2)

def orderOfTexts (a b : String) : Ordering :=
  if a < b then .lt else if a = b then .eq else .gt

/-- The order of two values that are no lists, or nothing where NaN is one of them. -/
def order (r : Relation) (a b : Datum) : Except Misuse (Option Ordering) :=
  match a, b with
  | text s, text t => .ok (some (orderOfTexts s t))
  | moment m, moment n =>
    if m.isComparable n then .ok (some (compare m.instant n.instant)) else .error .mixedClocks
  | a, b =>
    match a.ratio?, b.ratio? with
    | some x, some y => .ok (some (orderOfRatios x y))
    | x, y =>
      if (x.isSome || a.isNaN) && (y.isSome || b.isNaN) then .ok none
      else .error (.incomparable r.symbol a.kind b.kind)

mutual
/-- Whether a relation holds between two values. -/
def stands (r : Relation) : Datum → Datum → Except Misuse Bool
  | list xs, list ys => standsItems r xs ys
  | a, b => (order r a b).map fun o => o.any r.admits

/-- Lists are compared at the first items that differ, and by their lengths when there are none. -/
def standsItems (r : Relation) : List Datum → List Datum → Except Misuse Bool
  | [], [] => .ok (r.admits .eq)
  | [], _ :: _ => .ok (r.admits .lt)
  | _ :: _, [] => .ok (r.admits .gt)
  | x :: xs, y :: ys => if x.alike y then standsItems r xs ys else stands r x y
end

/-! ### Extremes -/

/-- The least of several values, the first one on a tie. -/
def least (best : Datum) : List Datum → Except Misuse Datum
  | [] => .ok best
  | d :: rest => do
    let isLess ← stands .below d best
    least (if isLess then d else best) rest

/-- The greatest of several values, the first one on a tie. -/
def greatest (best : Datum) : List Datum → Except Misuse Datum
  | [] => .ok best
  | d :: rest => do
    let isGreater ← stands .above d best
    greatest (if isGreater then d else best) rest

def least? : List Datum → Except Misuse (Option Datum)
  | [] => .ok none
  | d :: rest => (least d rest).map some

def greatest? : List Datum → Except Misuse (Option Datum)
  | [] => .ok none
  | d :: rest => (greatest d rest).map some

/-- Lists of values that stand for the parts of a key are compared like lists. -/
def keyBelow (a b : List Datum) : Except Misuse Bool := standsItems .below a b

end Datum

end DeviceAlerts

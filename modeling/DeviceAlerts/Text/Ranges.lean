/-! Sets of characters given as tables of code point ranges, both ends included. -/

namespace DeviceAlerts.Text

abbrev Ranges := Array (Nat × Nat)

def Ranges.contains (ranges : Ranges) (n : Nat) : Bool :=
  ranges.any fun range => range.1 ≤ n && n ≤ range.2

end DeviceAlerts.Text

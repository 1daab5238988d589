/-!
Columns of a text table. Widths count characters, and a text that is wider than its column is kept
whole: a table may lose its alignment but never a part of a value.
-/

set_option autoImplicit false

namespace SensorGateway.Text

/-- As many spaces as `s` lacks to the width. -/
def filler (width : Nat) (s : String) : String :=
  String.ofList (List.replicate (width - s.length) ' ')

/-- The text at the left edge of its column. -/
def leftAligned (width : Nat) (s : String) : String := s ++ filler width s

/-- The text at the right edge of its column. -/
def rightAligned (width : Nat) (s : String) : String := filler width s ++ s

end SensorGateway.Text

import SensorGateway.Calendar
import SensorGateway.Decimal.Fixed
import SensorGateway.Session.Basic
import SensorGateway.Text.Column

/-!
The listings that commands print: readings of the database, and connected nodes.

A listing of readings has two header lines and a line for each reading, without a line break at the
end. A listing of nodes is a ruled table. A value wider than its column is printed whole.
-/

set_option autoImplicit false

namespace SensorGateway.Listing

/-! ## Readings -/

/-- One line of readings: three columns, at the left edge. -/
def readingColumns (stamp sensor temperature : String) : String :=
  Text.leftAligned 20 stamp ++ " " ++ Text.leftAligned 15 sensor ++ " "
    ++ Text.leftAligned 10 temperature

/-- The line of a reading. -/
def readingLine (r : Reading) : String :=
  readingColumns (Calendar.stampText r.timestamp) r.sensor.text (Decimal.fixed 2 r.temperature)

/-- The titles of readings. -/
def readingTitles : String := readingColumns "Timestamp" "Sensor ID" "Temperature"

/-- The rule below the titles of readings. -/
def readingRule : String := "-------------------------------------------------------------"

/-- The header of readings. -/
def readingsHeader : String := readingTitles ++ "\n" ++ readingRule

/-- **The listing of readings.** -/
def readings (rows : List Reading) : String :=
  readingsHeader ++ String.join (rows.map fun r => "\n" ++ readingLine r)

/-! ## Nodes -/

/-- The rule of the table of nodes. -/
def rule : String :=
  "+------+-------------------+-------+------------+---------------------+---------------------+"

/-- The titles of the table of nodes. -/
def titles : String :=
  "|  ID  |      IP Address   | Port  |   Status   |    Connected Time   |   Last Active Time  |"

/-- The time of a clock in milliseconds, to the second. -/
def clockText (wall : Int) : String := Calendar.timeText (wall.fdiv 1000)

/-- The line of a node. -/
def sessionLine (s : Session) : String :=
  "| " ++ " | ".intercalate [Text.rightAligned 4 s.sensor.text, Text.rightAligned 17 s.address,
    Text.rightAligned 5 (toString s.port), Text.rightAligned 10 s.status.text,
    Text.rightAligned 19 (clockText s.connectedAt), Text.rightAligned 19 (clockText s.lastActive)]
    ++ " |"

/-- **The table of nodes.** -/
def sessions (active : Nat) (rows : List Session) : String :=
  let lines := ["=== ACTIVE CONNECTIONS (" ++ toString active ++ ") ===", rule, titles, rule]
    ++ rows.map sessionLine ++ [rule]
  "\n".intercalate lines

end SensorGateway.Listing

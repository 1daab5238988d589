import SensorGateway.Binary.Format
import SensorGateway.Text.Number

/-!
Sensors and their temperature readings.

A sensor identifier is a 32-bit number that the session table gives out. An operator writes it with
blanks around it, an optional plus sign and any number of leading zeros; it is shown in plain
decimal digits.
-/

set_option autoImplicit false

namespace SensorGateway

/-! ## Sensor identifiers -/

/-- The number of a sensor. -/
structure SensorId where
  value : UInt32
deriving DecidableEq, Repr, Inhabited

namespace SensorId

/-- **Reads an identifier:** blanks are cut, and the rest is a natural number of 32 bits. -/
def parse? (s : String) : Option SensorId :=
  (Text.natural? Text.maxWord32 (Text.trimChars s.toList)).map fun n => ⟨n.toUInt32⟩

/-- The decimal digits. -/
def text (id : SensorId) : String := toString id.value

end SensorId

/-- A text that is no identifier, blanks and all. -/
structure InvalidSensorId where
  text : String
deriving DecidableEq, Repr

/-- The wording of the error. -/
def InvalidSensorId.message (e : InvalidSensorId) : String := "invalid sensor id: " ++ e.text

/-- `parse?` with the text as it was given, where it is no identifier. -/
def SensorId.parse (s : String) : Except InvalidSensorId SensorId :=
  match parse? s with
  | some id => .ok id
  | none => .error ⟨s⟩

/-! ## Readings -/

/-- One measurement of a sensor. `valid` is false for the placeholder that a session starts with. -/
structure Reading where
  /-- Seconds from 1 January 1970. -/
  timestamp : Int
  sensor : SensorId
  temperature : Temperature
  valid : Bool := true
deriving DecidableEq, Repr

namespace Reading

/-- **The placeholder of a session that has not measured yet.** -/
def initial (sensor : SensorId) (timestamp : Int) : Reading :=
  ⟨timestamp, sensor, ⟨0⟩, false⟩

end Reading

end SensorGateway

import Mathlib.Data.List.Forall2
import SensorGateway.Command.Listing
import SensorGateway.Proofs.Calendar.Stamps
import SensorGateway.Proofs.Sensor.Spelling

/-!
What a listing of readings tells.

A value that is wider than its column pushes the others to the right, so nothing can be found by its
place in a line. It can be found by blanks: the identifier and the temperature are the last two
words of a line, and the words in front of them are those of the time stamp
(`words_readingLine`). None of them holds a line break, so the lines of a listing are the header and
one for each reading, and a listing is read back but for the places of a temperature that it does
not show.
-/

set_option autoImplicit false

namespace SensorGateway.Listing

open Text

/-! ## Columns -/

theorem mem_filler {width : Nat} {s : String} {c : Char} (h : c ∈ (filler width s).toList) :
    c = ' ' := by
  rw [filler, String.toList_ofList] at h
  exact (List.mem_replicate.mp h).2

/-- A column has the words of its text. -/
theorem words_leftAligned (width : Nat) (s : String) : words (leftAligned width s) = words s := by
  have hgap : Gap (filler width s).toList := by
    intro c hc
    rw [mem_filler hc]
    decide
  rw [words, words, leftAligned, String.toList_append, wordsFrom_append_gap hgap]

/-- The words of a line are those of its columns. -/
theorem words_readingColumns (stamp sensor temperature : String) :
    words (readingColumns stamp sensor temperature)
      = words stamp ++ words sensor ++ words temperature := by
  have hblank : " " = String.singleton ' ' := rfl
  rw [readingColumns, hblank, words_append_blank (by decide), words_append_blank (by decide),
    words_leftAligned, words_leftAligned, words_leftAligned]

/-- A line ends only where one of its columns does. -/
theorem newline_not_mem_readingColumns {stamp sensor temperature : String}
    (hstamp : '\n' ∉ stamp.toList) (hsensor : '\n' ∉ sensor.toList)
    (htemperature : '\n' ∉ temperature.toList) :
    '\n' ∉ (readingColumns stamp sensor temperature).toList := by
  have hcolumn : ∀ {width : Nat} {s : String}, '\n' ∉ s.toList →
      '\n' ∉ (leftAligned width s).toList := by
    intro width s hs hmem
    rw [leftAligned, String.toList_append] at hmem
    rcases List.mem_append.mp hmem with hmem | hmem
    · exact hs hmem
    · exact absurd (mem_filler hmem) (by decide)
  have hblank : '\n' ∉ " ".toList := by decide
  simp only [readingColumns, String.toList_append, List.mem_append, not_or]
  exact ⟨⟨⟨⟨hcolumn hstamp, hblank⟩, hcolumn hsensor⟩, hblank⟩, hcolumn htemperature⟩

/-! ## Lines -/

/-- A temperature is one word, whatever it is. -/
theorem solid_fixed {f : BinaryFormat} (places : Nat) (x : Binary f) :
    Solid (Decimal.fixed places x).toList := by
  -- the digits in front of the point, and those behind it if any are shown
  have hplaces : ∀ units, Solid (Decimal.placesText places units).toList := by
    intro units
    have hwhole := (isDecimal_toString (units / Nat.pow 10 places)).solid
    rw [Decimal.placesText, String.toList_append]
    split
    · rw [show "".toList = [] from rfl, List.append_nil]
      exact hwhole
    · rw [String.toList_append]
      exact hwhole.append (Solid.append (by decide) (isDecimal_zeroPadded places _).solid)
  rw [Decimal.fixed]
  split
  · decide
  · split <;> decide
  · rw [String.toList_append]
    split
    · exact Solid.append (by decide) (hplaces _)
    · exact hplaces _

/-- **The words of a line:** those of the time stamp, the identifier, and the temperature. -/
theorem words_readingLine (r : Reading) : words (readingLine r)
    = words (Calendar.stampText r.timestamp) ++ [r.sensor.text, Decimal.fixed 2 r.temperature] := by
  rw [readingLine, words_readingColumns, words_of_solid r.sensor.isDecimal_text.solid,
    words_of_solid (solid_fixed 2 r.temperature), List.append_assoc, List.singleton_append]

/-- Two readings show the same. -/
structure SameShown (r r' : Reading) : Prop where
  timestamp : r.timestamp = r'.timestamp
  sensor : r.sensor = r'.sensor
  temperature : Decimal.fixed 2 r.temperature = Decimal.fixed 2 r'.temperature

/-- **A line tells the time, the sensor, and the temperature as far as it is shown.** -/
theorem readingLine_eq_iff {r r' : Reading} : readingLine r = readingLine r' ↔ SameShown r r' := by
  constructor
  · intro h
    have hwords := congrArg words h
    rw [words_readingLine, words_readingLine] at hwords
    -- cut at the end: a stamp has one word or two, but two words follow any stamp
    obtain ⟨hstamp, hrest⟩ := List.append_inj' hwords rfl
    obtain ⟨hsensor, htemperature⟩ := List.cons.inj hrest
    refine ⟨Calendar.words_stampText_inj hstamp, ?_, (List.cons.inj htemperature).1⟩
    have hdecimal := r.sensor.isDecimal_text
    rw [hsensor] at hdecimal
    have hvalue := hdecimal.unique r'.sensor.isDecimal_text
    rcases hr : r.sensor with ⟨value⟩
    rcases hr' : r'.sensor with ⟨value'⟩
    rw [hr, hr'] at hvalue
    exact congrArg SensorId.mk (UInt32.toNat_inj.mp hvalue)
  · rintro ⟨htimestamp, hsensor, htemperature⟩
    rw [readingLine, readingLine, htimestamp, hsensor, htemperature]

theorem newline_not_mem_readingLine (r : Reading) : '\n' ∉ (readingLine r).toList := by
  have hnewline : isBlank '\n' = true := by decide
  exact newline_not_mem_readingColumns (Calendar.newline_not_mem_stampText r.timestamp)
    (r.sensor.isDecimal_text.solid.not_mem hnewline)
    ((solid_fixed 2 r.temperature).not_mem hnewline)

/-! ## Listings -/

/-- The lines of a text: what stands between its line breaks. -/
def linesOf (s : String) : List String := (s.toList.splitOn '\n').map String.ofList

section Joined

variable {first : List Char} {rest : List (List Char)}

/-- A text of lines has a line break in front of each but the first. -/
theorem intercalate_newline (first : List Char) (rest : List (List Char)) :
    ['\n'].intercalate (first :: rest) = first ++ rest.flatMap ('\n' :: ·) := by
  induction rest generalizing first with
  | nil => simp
  | cons line rest ih =>
    rw [List.intercalate_cons_cons, ih]
    simp

/-- The last line ends the text. -/
theorem getLast?_joined (hfirst : first ≠ [] ∧ '\n' ∉ first)
    (hrest : ∀ line ∈ rest, line ≠ [] ∧ '\n' ∉ line) :
    (first ++ rest.flatMap ('\n' :: ·)).getLast? ≠ some '\n' := by
  induction rest generalizing first with
  | nil =>
    rw [List.flatMap_nil, List.append_nil]
    exact fun hlast => hfirst.2 (List.mem_of_getLast? hlast)
  | cons line rest ih =>
    obtain ⟨hline, hrest⟩ := List.forall_mem_cons.mp hrest
    have hne : line ++ rest.flatMap ('\n' :: ·) ≠ [] :=
      List.append_ne_nil_of_left_ne_nil hline.1 _
    rw [List.flatMap_cons, List.cons_append,
      List.getLast?_append_of_ne_nil _ (List.cons_ne_nil _ _), List.getLast?_cons_of_ne_nil hne]
    exact ih hline hrest

end Joined

/-- The letters of a listing: the titles, and each further line behind a line break. -/
theorem toList_readings (rows : List Reading) : (readings rows).toList
    = readingTitles.toList
      ++ (readingRule.toList :: rows.map fun r => (readingLine r).toList).flatMap ('\n' :: ·) := by
  have hnewline : "\n".toList = ['\n'] := rfl
  simp only [readings, readingsHeader, String.toList_append, String.toList_join, List.flatMap_cons,
    List.flatMap_map, hnewline, List.append_assoc, List.nil_append, List.cons_append]

/-- **The lines of a listing** are the titles, the rule, and one for each reading, in order. -/
theorem linesOf_readings (rows : List Reading) :
    linesOf (readings rows) = readingTitles :: readingRule :: rows.map readingLine := by
  have hsingle : ∀ line ∈ readingTitles.toList :: readingRule.toList
      :: rows.map fun r => (readingLine r).toList, '\n' ∉ line := by
    intro line hline
    rcases List.mem_cons.mp hline with rfl | hline
    · decide
    rcases List.mem_cons.mp hline with rfl | hline
    · decide
    · obtain ⟨r, -, rfl⟩ := List.mem_map.mp hline
      exact newline_not_mem_readingLine r
  rw [linesOf, toList_readings, ← intercalate_newline,
    List.splitOn_intercalate '\n' hsingle (List.cons_ne_nil _ _)]
  simp

theorem getLast?_readings (rows : List Reading) : (readings rows).toList.getLast? ≠ some '\n' := by
  rw [toList_readings]
  refine getLast?_joined ⟨by decide, by decide⟩ (List.forall_mem_cons.mpr ⟨by decide, ?_⟩)
  intro line hline
  obtain ⟨r, -, rfl⟩ := List.mem_map.mp hline
  exact ⟨by simp [readingLine, readingColumns], newline_not_mem_readingLine r⟩

/-- **A listing loses no reading, identifier or time.** It has two header lines and one for each
reading, in order, and no line break at the end; what a line holds of its reading are its last two
words, the identifier and the temperature, and those of the time stamp in front of them. Listings
are the same exactly if they are as long, and readings at the same place have the same time, the
same sensor, and temperatures that are shown alike: whether a time has a date or not, and however
large it is. -/
theorem readings_lose_nothing (rows : List Reading) :
    linesOf (readings rows) = readingTitles :: readingRule :: rows.map readingLine
      ∧ (readings rows).toList.getLast? ≠ some '\n'
      ∧ (∀ r, words (readingLine r) = words (Calendar.stampText r.timestamp)
        ++ [r.sensor.text, Decimal.fixed 2 r.temperature])
      ∧ ∀ rows', readings rows = readings rows' ↔ List.Forall₂ SameShown rows rows' := by
  refine ⟨linesOf_readings rows, getLast?_readings rows, words_readingLine, fun rows' => ?_⟩
  -- a listing tells its lines, and the lines tell the listing
  have hlines : readings rows = readings rows'
      ↔ rows.map readingLine = rows'.map readingLine := by
    constructor
    · intro h
      have hlines := congrArg linesOf h
      rw [linesOf_readings, linesOf_readings] at hlines
      exact (List.cons.inj (List.cons.inj hlines).2).2
    · intro h
      rw [← String.toList_inj, toList_readings, toList_readings]
      have hlists := congrArg (List.map String.toList) h
      rw [List.map_map, List.map_map] at hlists
      exact congrArg (fun lines => readingTitles.toList
        ++ (readingRule.toList :: lines).flatMap ('\n' :: ·)) hlists
  rw [hlines, ← List.forall₂_eq_eq_eq, List.forall₂_map_left_iff, List.forall₂_map_right_iff]
  simp only [readingLine_eq_iff]

end SensorGateway.Listing

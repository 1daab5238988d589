import SensorGateway.Command.Grammar
import SensorGateway.Proofs.Net.Ipv4
import SensorGateway.Proofs.Sensor.Spelling

/-!
The grammar of the console.

`Reads` is the grammar of a line as an operator would be told it: one rule for each answer, in terms
of the words of the line and of how names, numbers and addresses are written. `parse_eq_iff` says
that the reader gives exactly the answers of the grammar.

Two facts make it so. Every rule is what the reader does (`Reads.parse_eq`), one rule after the
other; so no line falls under two of them with different answers. And every line falls under one
(`exists_reads`): the rules split on the words, then on the first of them, then on how many there
are behind it, and last on the parameters, where the port of `connect` goes before the address.
-/

set_option autoImplicit false

namespace SensorGateway

namespace Command

open Text

/-! ## The grammar -/

/-- **A word spells a name** if it differs from it in the case of ASCII letters at most. -/
def Spells (word name : String) : Prop := word.toList.map Char.toLower = name.toList

/-- The names that stand alone, with what they ask for. -/
def bare : List (String × Command) := [
  ("log", log), ("clearlog", clearLog), ("status", status), ("stats", stats), ("readdb", readDb),
  ("help", help), ("quit", quit), ("exit", quit)]

/-- A word that is the number of a sensor, which is at most the largest one of 32 bits. -/
def IsSensor (word : String) (sensor : SensorId) : Prop :=
  IsNatural word.toList sensor.value.toNat

/-- A word that is the number of a port, from 1 to the largest one of 16 bits. -/
def IsPort (word : String) (port : UInt16) : Prop :=
  1 ≤ port.toNat ∧ IsInteger word.toList port.toNat

/-- **The grammar of a line:** what it means where the gateway itself runs on `runningPort`. -/
inductive Reads (line : String) (runningPort : UInt16) : Except CommandError Command → Prop
  | empty (hwords : HasWords line []) : Reads line runningPort (.error .empty)
  | unknown {first shown : String} {args : List String} (hwords : HasWords line (first :: args))
      (hname : ∀ entry ∈ arities, ¬ Spells first entry.1) (hshown : TrimsTo line shown) :
      Reads line runningPort (.error (.unknown shown))
  | wrongArity {first name : String} {args : List String} {arity : Nat}
      (hwords : HasWords line (first :: args)) (hname : Spells first name)
      (hmem : (name, arity) ∈ arities) (hcount : args.length ≠ arity) :
      Reads line runningPort (.error (.wrongArity name arity args.length))
  | bare {first name : String} {command : Command} (hwords : HasWords line [first])
      (hname : Spells first name) (hmem : (name, command) ∈ bare) :
      Reads line runningPort (.ok command)
  | invalidSensorId {first word : String} (hwords : HasWords line [first, word])
      (hname : Spells first "terminate") (hsensor : ∀ sensor, ¬ IsSensor word sensor) :
      Reads line runningPort (.error (.invalidSensorId word))
  | terminate {first word : String} {sensor : SensorId} (hwords : HasWords line [first, word])
      (hname : Spells first "terminate") (hsensor : IsSensor word sensor) :
      Reads line runningPort (.ok (terminate sensor))
  | invalidPort {first address word : String} (hwords : HasWords line [first, address, word])
      (hname : Spells first "connect") (hport : ∀ port, ¬ IsPort word port) :
      Reads line runningPort (.error .invalidPort)
  | invalidIp {first address word : String} {port : UInt16}
      (hwords : HasWords line [first, address, word]) (hname : Spells first "connect")
      (hport : IsPort word port) (hip : ∀ ip, ¬ Net.Ipv4.IsDotted address.toList ip) :
      Reads line runningPort (.error .invalidIp)
  | portAlreadyRunning {first address word : String} {ip : Net.Ipv4}
      (hwords : HasWords line [first, address, word]) (hname : Spells first "connect")
      (hport : IsPort word runningPort) (hip : Net.Ipv4.IsDotted address.toList ip) :
      Reads line runningPort (.error (.portAlreadyRunning runningPort))
  | connect {first address word : String} {port : UInt16} {ip : Net.Ipv4}
      (hwords : HasWords line [first, address, word]) (hname : Spells first "connect")
      (hport : IsPort word port) (hip : Net.Ipv4.IsDotted address.toList ip)
      (hother : port ≠ runningPort) : Reads line runningPort (.ok (connect ip port))

/-! ## Names -/

/-- The names are in ASCII, and none has the letter that the Kelvin sign is lowered to. -/
theorem arities_ascii : ∀ entry ∈ arities, ∀ c ∈ entry.1.toList, c.toNat < 128 ∧ c ≠ 'k' := by
  -- by a check that goes through the letters of each name, and not through all characters
  have hall : ∀ entry ∈ arities,
      entry.1.toList.all (fun c => c.toNat < 128 && c ≠ 'k') = true := by
    decide
  simpa using hall

/-- No name is listed twice, so a name has one count of parameters. -/
theorem arities_unique : ∀ entry ∈ arities, ∀ other ∈ arities,
    entry.1 = other.1 → entry = other := by
  decide

/-- Lowering a word and looking it up is asking what it spells: a lowered word that is in ASCII came
from a word that differs in the case of ASCII letters alone. -/
theorem lowered_eq_iff {word : String} {entry : String × Nat} (hmem : entry ∈ arities) :
    entry.1 = lowered word ↔ Spells word entry.1 := by
  rw [lowered, Spells, ← lowerCase_eq_iff (arities_ascii entry hmem), eq_comm]
  exact ⟨fun h => by rw [← h, String.toList_ofList], fun h => by rw [h, String.ofList_toList]⟩

/-- **A word names the command that it spells.** -/
theorem nameOf?_of_spells {word name : String} {arity : Nat} (hmem : (name, arity) ∈ arities)
    (hname : Spells word name) : nameOf? word = some (name, arity) := by
  have hlowered : name = lowered word := (lowered_eq_iff hmem).mpr hname
  rcases hfound : nameOf? word with _ | other
  · have hnone := List.find?_eq_none.mp hfound (name, arity) hmem
    exact absurd hlowered (by simpa using hnone)
  · have hother : other.1 = lowered word := by simpa using List.find?_some hfound
    rw [arities_unique other (List.mem_of_find?_eq_some hfound) _ hmem
      (hother.trans hlowered.symm)]

theorem nameOf?_eq_none {word : String} (hname : ∀ entry ∈ arities, ¬ Spells word entry.1) :
    nameOf? word = none := by
  refine List.find?_eq_none.mpr fun entry hmem => ?_
  rw [decide_eq_true_eq, lowered_eq_iff hmem]
  exact hname entry hmem

/-! ## Parameters -/

/-- A word has nothing to trim, so a sensor is what the word itself spells. -/
theorem sensorParse?_eq_some_iff {word : String} {sensor : SensorId} (hsolid : Solid word.toList) :
    SensorId.parse? word = some sensor ↔ IsSensor word sensor := by
  rw [SensorId.parse?_eq_some_iff, trimChars_of_solid hsolid, IsSensor]

/-- With a port, the address decides: it is read next, and a gateway that runs on the port is told
last. -/
theorem parseConnect_of_port {address word : String} {port : UInt16} (hport : IsPort word port)
    (runningPort : UInt16) :
    parseConnect address word runningPort
      = (Net.Ipv4.parse? address).elim (.error .invalidIp) fun ip =>
        if port = runningPort then .error (.portAlreadyRunning port) else .ok (connect ip port) := by
  obtain ⟨hpos, hinteger⟩ := hport
  have hlt := port.toNat_lt
  -- any number of 16 bits is within the bounds that the reader of integers is given
  have hread : integer? minSigned64 maxSigned64 word.toList = some (port.toNat : Int) := by
    refine integer?_eq_some_iff.mpr ⟨hinteger, ?_⟩
    unfold minSigned64 maxSigned64
    omega
  have hrange : (1 ≤ (port.toNat : Int) && (port.toNat : Int) ≤ 65535) = true := by
    rw [Bool.and_eq_true, decide_eq_true_eq, decide_eq_true_eq]
    omega
  rw [parseConnect, hread]
  simp only [hrange, if_true, Int.toNat_natCast, UInt16.ofNat_toNat]
  rcases Net.Ipv4.parse? address <;> rfl

/-- Without a port nothing else is looked at, whatever is wrong with the word: no number, zero, a
sign, or too large. -/
theorem parseConnect_of_no_port {word : String} (hport : ∀ port, ¬ IsPort word port)
    (address : String) (runningPort : UInt16) :
    parseConnect address word runningPort = .error .invalidPort := by
  rcases hread : integer? minSigned64 maxSigned64 word.toList with _ | z
  · rw [parseConnect, hread]
  · have hinteger := (integer?_eq_some_iff.mp hread).1
    have hrange : ¬ (1 ≤ z && z ≤ 65535) = true := by
      rw [Bool.and_eq_true, decide_eq_true_eq, decide_eq_true_eq]
      rintro ⟨hlow, hhigh⟩
      have hlt : z.toNat < 65536 := by omega
      have hvalue : z.toNat.toUInt16.toNat = z.toNat := UInt16.toNat_ofNat_of_lt' hlt
      -- in range it would have been a port after all
      refine hport z.toNat.toUInt16 ⟨by omega, ?_⟩
      rwa [hvalue, Int.toNat_of_nonneg (by omega)]
    rw [parseConnect, hread]
    simp only [if_neg hrange]

/-- **A name that stands alone** takes no parameters and asks for what it is listed with. -/
theorem ofName_bare {name : String} {command : Command} (hmem : (name, command) ∈ bare)
    (runningPort : UInt16) : (name, 0) ∈ arities ∧ ofName name [] runningPort = .ok command := by
  simp only [bare, List.mem_cons, Prod.mk.injEq, List.not_mem_nil, or_false] at hmem
  rcases hmem with ⟨rfl, rfl⟩ | ⟨rfl, rfl⟩ | ⟨rfl, rfl⟩ | ⟨rfl, rfl⟩ | ⟨rfl, rfl⟩ | ⟨rfl, rfl⟩
    | ⟨rfl, rfl⟩ | ⟨rfl, rfl⟩ <;> exact ⟨by decide, rfl⟩

theorem arities_cases : ∀ entry ∈ arities, entry = ("connect", 2) ∨ entry = ("terminate", 1)
    ∨ entry.2 = 0 ∧ entry.1 ∈ bare.map Prod.fst := by
  decide

/-! ## Lines -/

section Lines

variable {line : String} {runningPort : UInt16}

/-- A line with a name and as many words as the name takes is read by that name's own rule. -/
theorem parse_of_name {first name : String} {args : List String}
    (hwords : HasWords line (first :: args)) (hname : Spells first name)
    (hmem : (name, args.length) ∈ arities) :
    parse line runningPort = ofName name args runningPort := by
  rw [parse, words_eq_iff.mpr hwords]
  simp only [nameOf?_of_spells hmem hname, ne_eq, not_true_eq_false, if_false]

/-- **Every rule of the grammar is what the reader does.** -/
theorem Reads.parse_eq {answer : Except CommandError Command}
    (h : Reads line runningPort answer) : parse line runningPort = answer := by
  have hconnect : ∀ {first address word}, HasWords line [first, address, word] →
      Spells first "connect" →
      parse line runningPort = parseConnect address word runningPort :=
    fun hwords hname => parse_of_name hwords hname (show ("connect", 2) ∈ arities by decide)
  have hterminate : ∀ {first word}, HasWords line [first, word] → Spells first "terminate" →
      parse line runningPort = parseTerminate word :=
    fun hwords hname => parse_of_name hwords hname (show ("terminate", 1) ∈ arities by decide)
  cases h with
  | empty hwords => rw [parse, words_eq_iff.mpr hwords]
  | unknown hwords hname hshown =>
    rw [parse, words_eq_iff.mpr hwords]
    simp only [nameOf?_eq_none hname, trim_eq_iff.mpr hshown]
  | wrongArity hwords hname hmem hcount =>
    rw [parse, words_eq_iff.mpr hwords]
    simp only [nameOf?_of_spells hmem hname, if_pos hcount]
  | bare hwords hname hmem =>
    obtain ⟨harity, hcommand⟩ := ofName_bare hmem runningPort
    rw [parse_of_name hwords hname harity, hcommand]
  | @invalidSensorId _ word hwords hname hsensor =>
    rcases hread : SensorId.parse? word with _ | sensor
    · rw [hterminate hwords hname, parseTerminate, hread]
    · have hsolid := hwords.solid word (by simp)
      exact absurd ((sensorParse?_eq_some_iff hsolid).mp hread) (hsensor sensor)
  | @terminate _ word sensor hwords hname hsensor =>
    have hsolid := hwords.solid word (by simp)
    rw [hterminate hwords hname, parseTerminate, (sensorParse?_eq_some_iff hsolid).mpr hsensor]
  | invalidPort hwords hname hport =>
    rw [hconnect hwords hname, parseConnect_of_no_port hport]
  | @invalidIp _ address _ _ hwords hname hport hip =>
    rcases hread : Net.Ipv4.parse? address with _ | ip
    · rw [hconnect hwords hname, parseConnect_of_port hport, hread]
      rfl
    · exact absurd (Net.Ipv4.parse?_eq_some_iff.mp hread) (hip ip)
  | portAlreadyRunning hwords hname hport hip =>
    rw [hconnect hwords hname, parseConnect_of_port hport, Net.Ipv4.parse?_eq_some_iff.mpr hip]
    exact if_pos rfl
  | connect hwords hname hport hip hother =>
    rw [hconnect hwords hname, parseConnect_of_port hport, Net.Ipv4.parse?_eq_some_iff.mpr hip]
    exact if_neg hother

/-- The rules for `connect` cover every address and every port, in the order in which the reader
asks. -/
theorem exists_reads_connect {first address word : String}
    (hwords : HasWords line [first, address, word]) (hname : Spells first "connect") :
    ∃ answer, Reads line runningPort answer := by
  by_cases hport : ∃ port, IsPort word port
  · obtain ⟨port, hport⟩ := hport
    by_cases hip : ∃ ip, Net.Ipv4.IsDotted address.toList ip
    · obtain ⟨ip, hip⟩ := hip
      by_cases hother : port = runningPort
      · rw [hother] at hport
        exact ⟨_, .portAlreadyRunning hwords hname hport hip⟩
      · exact ⟨_, .connect hwords hname hport hip hother⟩
    · exact ⟨_, .invalidIp hwords hname hport (not_exists.mp hip)⟩
  · exact ⟨_, .invalidPort hwords hname (not_exists.mp hport)⟩

/-- The rules for `terminate` cover every word. -/
theorem exists_reads_terminate {first word : String} (hwords : HasWords line [first, word])
    (hname : Spells first "terminate") : ∃ answer, Reads line runningPort answer := by
  by_cases hsensor : ∃ sensor, IsSensor word sensor
  · exact ⟨_, .terminate hwords hname hsensor.choose_spec⟩
  · exact ⟨_, .invalidSensorId hwords hname (not_exists.mp hsensor)⟩

/-- **Every line falls under a rule of the grammar.** -/
theorem exists_reads (line : String) (runningPort : UInt16) :
    ∃ answer, Reads line runningPort answer := by
  rcases hcut : words line with _ | ⟨first, args⟩
  · exact ⟨_, .empty (words_eq_iff.mp hcut)⟩
  · have hwords := words_eq_iff.mp hcut
    by_cases hname : ∃ entry ∈ arities, Spells first entry.1
    · obtain ⟨⟨name, arity⟩, hmem, hname⟩ := hname
      by_cases hcount : args.length = arity
      · -- the count is right, so the name says which shape the parameters have
        rcases arities_cases _ hmem with hconnect | hterminate | ⟨hnone, hbare⟩
        · obtain ⟨rfl, rfl⟩ := Prod.mk.inj hconnect
          obtain ⟨address, word, rfl⟩ := List.length_eq_two.mp hcount
          exact exists_reads_connect hwords hname
        · obtain ⟨rfl, rfl⟩ := Prod.mk.inj hterminate
          obtain ⟨word, rfl⟩ := List.length_eq_one_iff.mp hcount
          exact exists_reads_terminate hwords hname
        · obtain rfl : args = [] := List.length_eq_zero_iff.mp (hcount.trans hnone)
          obtain ⟨⟨_, command⟩, hcommand, rfl⟩ := List.mem_map.mp hbare
          exact ⟨_, .bare hwords hname hcommand⟩
      · exact ⟨_, .wrongArity hwords hname hmem hcount⟩
    · have hnone : ∀ entry ∈ arities, ¬ Spells first entry.1 :=
        fun entry hmem hspells => hname ⟨entry, hmem, hspells⟩
      exact ⟨_, .unknown hwords hnone (trim_eq_iff.mp rfl)⟩

/-- **The reader is the grammar:** what a line is read as is what the grammar says it means, and
that is one answer for each line. -/
theorem parse_eq_iff (line : String) (runningPort : UInt16)
    (answer : Except CommandError Command) :
    parse line runningPort = answer ↔ Reads line runningPort answer := by
  constructor
  · rintro rfl
    -- some rule applies, and what it says is what the reader answers
    obtain ⟨answer, hreads⟩ := exists_reads line runningPort
    rwa [hreads.parse_eq]
  · exact Reads.parse_eq

end Lines

/-- A bad port is told before a bad address. -/
example : parse "Connect ::1 +0" 8080 = .error .invalidPort := by decide

end Command

end SensorGateway

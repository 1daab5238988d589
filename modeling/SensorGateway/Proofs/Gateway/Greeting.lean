import SensorGateway.Link.Outbound
import SensorGateway.Proofs.Handshake.Wire
import SensorGateway.Proofs.Net.Ipv4

/-!
How a gateway introduces itself, and what the gateway at the other end makes of it.

The dotted form of an IPv4 address has at most 15 characters, so that it fits its field with the
zero byte behind it; and being made of digits and dots, it has a byte for each character and no NUL
to be cut at. So a dialed link never fails at the record, and the gateway that accepts it reads the
address and the port that were meant. It finds the address to be that of its peer exactly if it is:
what is read from a dotted form is its address, and never one of the other kind.
-/

set_option autoImplicit false

namespace SensorGateway

/-! ## Addresses in a record -/

theorem Net.IpAddress.parse?_v4_text (x : Ipv4) : IpAddress.parse? x.text = some (.v4 x) := by
  have htake : Ipv4.take? x.text.toList = some (x, []) :=
    Ipv4.take?_eq_some_iff.mpr ⟨_, (List.append_nil _).symm, by simp, x.isDotted_text⟩
  rw [parse?, htake]

/-- **A record with an IPv4 address goes over the wire** as it is. -/
theorem Handshake.Record.decode_of_encode_v4 (r : Record) (x : Net.Ipv4)
    (h : r.address = x.text) :
    ∃ bytes, encode r = .ok bytes ∧ bytes.length = 24 ∧ decode bytes = .ok r := by
  have hfits : r.address.utf8ByteSize ≤ 15 := by
    rw [h]
    exact x.utf8ByteSize_text_le
  obtain ⟨bytes, hbytes, hlength, hread⟩ := decode_of_encode hfits
  have hwhole : Text.untilNul r.address = r.address := by
    rw [Text.untilNul_eq_self_iff, h]
    exact x.nul_not_mem_text
  rw [hwhole] at hread
  exact ⟨bytes, hbytes, hlength, hread⟩

/-! ## Both ends of a link -/

namespace Gateway

variable {g : Gateway} {ownAddress : String} {bytes : List UInt8}

/-- **A dialed link whose record has bytes** has sent them, or has yet to, or has failed at
something else. -/
theorem dial_cases (h : (g.greetingRecord ownAddress).encode = .ok bytes) (ip : Net.Ipv4)
    (reach : Reach) (fault : Option OsFault) :
    g.dial ip ownAddress reach fault = .standing bytes
      ∨ g.dial ip ownAddress reach fault = .waiting
      ∨ ∃ e, g.dial ip ownAddress reach fault = .failed e ∧ ∀ flaw, e ≠ .protocol flaw := by
  -- the record has its bytes, so sending can fail at the socket only
  have hsend : ∀ fault, g.sendRecord ownAddress fault = .standing bytes
      ∨ ∃ e, g.sendRecord ownAddress fault = .failed e ∧ ∀ flaw, e ≠ .protocol flaw := by
    rintro (_ | fault)
    · exact .inl (by simp only [sendRecord, h])
    · exact .inr ⟨.io (.os fault), by simp only [sendRecord, h], by simp⟩
  rcases reach with fault | manner
  · exact .inr (.inr ⟨.io (.os fault), rfl, by simp⟩)
  rcases hname : Tls.ServerName.expected g.config.clientTls ip.text with e | name
  · have hwords : ∃ words, e = .tlsConfig words := by
      rw [Tls.ServerName.expected] at hname
      split at hname
      · cases hname
      · exact ⟨_, (Except.error.inj hname).symm⟩
    obtain ⟨words, rfl⟩ := hwords
    exact .inr (.inr ⟨.tlsConfig words, by simp only [dial.eq_def, hname], by simp⟩)
  · simp only [dial.eq_def, hname]
    split
    · exact (hsend fault).imp_right .inr
    · cases manner with
      | secure => exact (hsend none).imp_right .inr
      | silent => exact .inr (.inl rfl)
      | garbage => exact .inr (.inr ⟨_, rfl, by simp⟩)

/-- A record that names an IPv4 address is found to name another one unless its node comes from
there. -/
theorem mismatch_eq_nil_iff {own : Net.Ipv4} {record : Handshake.Record}
    (h : record.address = own.text) (l : Link) :
    mismatch l record = [] ↔ l.peer.host = .v4 own := by
  have hip : record.ip? = some (.v4 own) := by
    rw [Handshake.Record.ip?, h, Net.IpAddress.parse?_v4_text]
  rw [mismatch, hip]
  constructor
  · intro hnil
    split at hnil
    · rename_i heq
      exact (Option.some.inj heq).symm
    · cases hnil
  · intro heq
    rw [if_pos (congrArg some heq.symm)]

/-- **A gateway is understood where it introduces itself.** Wherever it dials from, on whichever
port it runs: its record has 24 bytes, and dialing never fails at it. The gateway that receives
these bytes reads from them the dotted form of the address and the port, and takes the node to have
named another address exactly if it comes from another one, of whichever kind that is. -/
theorem greeting_understood (g : Gateway) (own : Net.Ipv4) :
    let record : Handshake.Record :=
      { handle := 0, address := own.text, port := g.table.roster.runningPort }
    ∃ bytes, (g.greetingRecord own.text).encode = .ok bytes ∧ bytes.length = 24
      ∧ (∀ ip reach fault, g.dial ip own.text reach fault = .standing bytes
        ∨ g.dial ip own.text reach fault = .waiting
        ∨ ∃ e, g.dial ip own.text reach fault = .failed e ∧ ∀ flaw, e ≠ .protocol flaw)
      ∧ Handshake.Record.decode bytes = .ok record
      ∧ (∀ (far : Gateway) (l : Link),
        far.introduce l bytes = ({ l with stage := .introduced record }, far, []))
      ∧ ∀ l : Link, mismatch l record = [] ↔ l.peer.host = .v4 own := by
  intro record
  obtain ⟨bytes, hbytes, hlength, hread⟩ := record.decode_of_encode_v4 own rfl
  refine ⟨bytes, hbytes, hlength, dial_cases hbytes, hread, fun far l => ?_,
    mismatch_eq_nil_iff rfl⟩
  -- a record has as many bytes as the far end waits for
  have hwhole : bytes.take Handshake.recordSize = bytes :=
    List.take_of_length_le (Nat.le_of_eq hlength)
  have henough : ¬ bytes.length < Handshake.recordSize := by
    rw [hlength]
    decide
  rw [introduce, if_neg henough, hwhole, hread]

/-- The longest address leaves one byte for the zero behind it. -/
example : (Net.Ipv4.text ⟨255, 255, 255, 255⟩).utf8ByteSize = 15 := by decide

end Gateway

end SensorGateway

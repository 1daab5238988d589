import Mathlib.Data.List.Pairwise
import SensorGateway.Proofs.Config.Overrides
import SensorGateway.Proofs.Text.Bytes

/-!
What a number means in a file and in the environment.

A file sets one field alone if its key is the only known one of its section, and what is known of
other sections is that they set nothing; `Field.alone?` is what the document has at that place. The
two routes from a text to a field are gone through by themselves: `fromFile_of_alone` goes down the
sections and keys of a file, and `overridden_single` through the variables. Both end at `Field.set`,
for all fields, so that the two routes differ at most where the same number is taken for different
values.

Unknown keys are passed over wherever they are, so a mapping is read as the list of its known pairs
(`readPairs_eq_readKnown`), and the rest is about that list.
-/

set_option autoImplicit false

namespace SensorGateway.Yaml

variable {σ : Type} {fields : List (SectionField σ)} {names : List String} {d : Document}
  {key : String} {node v : Value} {seen : List String} {s : σ}
  {pairs : List (Value × Value)} {known : List (String × Value)}

/-! ## Known keys -/

/-- The known keys of a mapping and their values, in order. Every key has to be a text. -/
def knownPairs? (names : List String) (d : Document) :
    List (Value × Value) → Option (List (String × Value))
  | [] => some []
  | (k, v) :: rest =>
    match readText d k, knownPairs? names d rest with
    | some key, some known => some (if key ∈ names then (key, v) :: known else known)
    | _, _ => none

/-- **What is known of a section:** the known pairs of a mapping, or nothing. -/
def Document.known? (d : Document) (names : List String) (node : Value) :
    Option (List (String × Value)) :=
  match d.follow node with
  | .mapping _ pairs => knownPairs? names d pairs
  | .scalar _ "" .plain => some []
  | _ => none

/-- Reads known pairs in order. -/
def readKnown (fields : List (SectionField σ)) (d : Document) : σ → List (String × Value) → Option σ
  | s, [] => some s
  | s, (key, v) :: rest =>
    ((fields.find? (·.name = key)).bind (·.read d v)).bind fun set => readKnown fields d (set s) rest

/-- Only keys that are asked for are among the known pairs. -/
theorem mem_names_of_knownPairs? (h : knownPairs? names d pairs = some known) :
    ∀ p ∈ known, p.1 ∈ names := by
  induction pairs generalizing known with
  | nil =>
    cases h
    exact List.forall_mem_nil _
  | cons p pairs ih =>
    rw [knownPairs?] at h
    split at h
    · rename_i key later hkey hlater
      cases h
      split
      · rename_i hin
        exact List.forall_mem_cons.mpr ⟨hin, ih hlater⟩
      · exact ih hlater
    · cases h

/-- What is known of a section has names of the section for keys. -/
theorem mem_names_of_known? (h : d.known? names node = some known) : ∀ p ∈ known, p.1 ∈ names := by
  unfold Document.known? at h
  split at h
  · exact mem_names_of_knownPairs? h
  · cases h
    exact List.forall_mem_nil _
  · cases h

/-- **A mapping is read as its known pairs are,** if none of them comes twice. -/
theorem readPairs_eq_readKnown (h : knownPairs? (fields.map (·.name)) d pairs = some known)
    (hnodup : (known.map (·.1)).Nodup) (hnew : ∀ key ∈ known.map (·.1), key ∉ seen) :
    readPairs fields d seen s pairs = readKnown fields d s known := by
  -- the induction keeps that no known key to come was seen before
  induction pairs generalizing known seen s with
  | nil =>
    cases h
    rfl
  | cons p pairs ih =>
    rw [knownPairs?] at h
    split at h
    · rename_i key later hkey hlater
      cases h
      by_cases hin : key ∈ fields.map (·.name)
      · simp only [if_pos hin, List.map_cons, List.nodup_cons, List.forall_mem_cons] at hnodup hnew ⊢
        have hnot : seen.contains key = false := by simpa using hnew.1
        obtain ⟨field, hfind⟩ : ∃ field, fields.find? (·.name = key) = some field := by
          obtain ⟨field, hmem, hname⟩ := List.mem_map.mp hin
          rw [← Option.isSome_iff_exists, List.find?_isSome]
          exact ⟨field, hmem, by simpa using hname⟩
        rw [readPairs, readKnown, hkey]
        simp only [hfind, hnot, Bool.false_eq_true, if_false, Option.bind_some]
        rcases field.read d p.2 with _ | set
        · rfl
        · refine ih hlater hnodup.2 fun other hother => ?_
          rw [List.mem_cons, not_or]
          exact ⟨fun heq => hnodup.1 (heq ▸ hother), hnew.2 other hother⟩
      · simp only [if_neg hin] at hnodup hnew ⊢
        have hfind : fields.find? (·.name = key) = none := by
          simpa [List.find?_eq_none] using hin
        rw [readPairs, hkey]
        simp only [hfind]
        exact ih hlater hnodup hnew
    · cases h

/-- A section is read as what is known of it, whether it is a mapping or left empty. -/
theorem readSection_eq_readKnown (h : d.known? (fields.map (·.name)) node = some known)
    (hnodup : (known.map (·.1)).Nodup) :
    readSection fields s d node = readKnown fields d s known := by
  unfold Document.known? at h
  split at h
  · rename_i hnode
    simp only [readSection, hnode]
    exact readPairs_eq_readKnown h hnodup fun _ _ => List.not_mem_nil
  · rename_i hnode
    cases h
    simp only [readSection, hnode, readKnown]
  · cases h

/-- Nothing is known of a section. -/
def Document.isBlank (d : Document) (names : List String) (node : Value) : Bool :=
  (d.known? names node).any (·.isEmpty)

/-- Reading a section of which nothing is known changes nothing. -/
theorem readSection_of_blank (h : d.isBlank (fields.map (·.name)) node = true) :
    readSection fields s d node = some s := by
  unfold Document.isBlank at h
  rcases hknown : d.known? (fields.map (·.name)) node with _ | known
  · rw [hknown] at h
    cases h
  · rw [hknown] at h
    obtain rfl : known = [] := List.isEmpty_iff.mp h
    rw [readSection_eq_readKnown hknown List.nodup_nil, readKnown]

/-- Pairs that change nothing are passed over. -/
theorem readKnown_of_idle (h : ∀ p ∈ known, ∃ set,
    (fields.find? (·.name = p.1)).bind (·.read d p.2) = some set ∧ set s = s) :
    readKnown fields d s known = some s := by
  induction known with
  | nil => rfl
  | cons p known ih =>
    obtain ⟨⟨set, hset, hsame⟩, hlater⟩ := List.forall_mem_cons.mp h
    rw [readKnown, hset, Option.bind_some, hsame]
    exact ih hlater

/-- **One pair among others that change nothing,** whether they are read before or after it. -/
theorem readKnown_of_lookup {set : σ → σ} (hnodup : (known.map (·.1)).Nodup)
    (hlookup : known.lookup key = some v)
    (hset : (fields.find? (·.name = key)).bind (·.read d v) = some set)
    (hidle : ∀ p ∈ known, p.1 ≠ key → ∃ put,
      (fields.find? (·.name = p.1)).bind (·.read d p.2) = some put
        ∧ put s = s ∧ put (set s) = set s) :
    readKnown fields d s known = some (set s) := by
  induction known with
  | nil => cases hlookup
  | cons p known ih =>
    obtain ⟨hfirst, hlater⟩ := List.forall_mem_cons.mp hidle
    rw [List.map_cons, List.nodup_cons] at hnodup
    by_cases hkey : p.1 = key
    · -- the pair is here, and none behind it has the key
      have hvalue : p.2 = v := by
        rw [← hkey, List.lookup_cons_self] at hlookup
        exact Option.some.inj hlookup
      rw [readKnown, hkey, hvalue, hset, Option.bind_some]
      refine readKnown_of_idle fun q hq => ?_
      have hother : q.1 ≠ key := fun heq => hnodup.1 (hkey ▸ heq ▸ List.mem_map_of_mem hq)
      obtain ⟨put, hput, -, hkept⟩ := hlater q hq hother
      exact ⟨put, hput, hkept⟩
    · obtain ⟨put, hput, hsame, -⟩ := hfirst hkey
      have hrest : known.lookup key = some v := by
        have hne : (key == p.1) = false := beq_false_of_ne (Ne.symm hkey)
        rwa [List.lookup_cons, hne] at hlookup
      rw [readKnown, hput, Option.bind_some, hsame]
      exact ih hnodup.2 hrest hlater

end SensorGateway.Yaml

namespace SensorGateway.Config

open Yaml (Document SectionField mem_names_of_known? readKnown_of_lookup readSection
  readSection_eq_readKnown readSection_of_blank)

variable {disk : Disk} {path : String} {f : Field} {d : Document} {node : Yaml.Value}

/-! ## One field in a file -/

/-- The names of the sections. -/
def sectionNames : List String := sections.map (·.name)

/-- The keys of a section. -/
def keysOf (sectionName : String) : List String :=
  (fields.filter (·.sectionName = sectionName)).map (·.key)

namespace Field

/-- **The value of a field in a document that sets no other one.** Its key is all that is known of
its section. Other sections may be there, each of them once, if nothing is known of them. -/
def alone? (f : Field) (d : Document) : Option f.Value := do
  let root ← d.root
  let known ← d.known? sectionNames root
  let node ← known.lookup f.sectionName
  let own ← d.known? (keysOf f.sectionName) node
  let v ← own.lookup f.key
  if own.length = 1 ∧ (known.map (·.1)).Nodup
      ∧ ∀ p ∈ known, p.1 = f.sectionName ∨ d.isBlank (keysOf p.1) p.2 = true then
    f.fileReader d v
  else none

/-- The value of a field in a file that sets no other one. -/
def aloneInFile? (f : Field) (disk : Disk) (path : String) : Option f.Value := do
  let text ← (disk.readText path).toOption
  let d ← (Yaml.parse text).toOption
  f.alone? d

/-- **A field has a place in a file:** there is its section, there its key, and what is read at that
place becomes of the section what it becomes of the settings. -/
def Placed (f : Field) : Prop :=
  ∃ (σ : Type) (keys : List (SectionField σ)) (base : σ) (put : σ → Config → Config)
    (set : f.Value → σ → σ),
    sections.find? (·.name = f.sectionName) = some (.of f.sectionName (readSection keys base) put)
      ∧ keys.map (·.name) = keysOf f.sectionName
      ∧ keys.find? (·.name = f.key) = some (.of f.key f.fileReader set)
      ∧ ∀ x, put (set x base) {} = f.set x {}

end Field

/-- Every field has its place, checked section by section. -/
theorem placed_fields : ∀ f ∈ fields, f.Placed := by
  -- a port is read as a number and kept as a word
  have hport : SectionField.of "port" (Yaml.readNatural Text.maxWord16)
        (fun x (s : Network) => { s with port := x.toUInt16 })
      = .of "port" (fun d v => (Yaml.readNatural Text.maxWord16 d v).map Nat.toUInt16)
        fun x s => { s with port := x } := by
    simp only [SectionField.of, Option.map_map]
    rfl
  unfold fields
  -- the section is looked up first, and it says where to look for the key
  repeat' first
    | refine List.forall_mem_cons.mpr ⟨?_, ?_⟩
    | exact List.forall_mem_nil _
    | exact ⟨_, _, _, _, _, rfl, rfl, rfl, fun _ => rfl⟩
    | exact ⟨_, networkFields, {}, _, _, rfl, rfl, congrArg some hport, fun _ => rfl⟩

/-- A section of which nothing is known has its defaults. -/
theorem read_of_blank {σ : Type} {keys : List (SectionField σ)} {base : σ}
    {put : σ → Config → Config} {name : String} (hnames : keys.map (·.name) = keysOf name)
    (h : d.isBlank (keysOf name) node = true) :
    (SectionField.of name (readSection keys base) put).read d node = some (put base) := by
  rw [← hnames] at h
  simp only [SectionField.of, readSection_of_blank h, Option.map_some]

/-- **A section of which nothing is known** leaves the defaults as they are, and a field of another
section that is set. -/
theorem blank_sections : ∀ name ∈ sectionNames, ∃ reset : Config → Config,
    (∀ d node, Document.isBlank d (keysOf name) node = true →
      (sections.find? (·.name = name)).bind (·.read d node) = some reset)
    ∧ reset {} = {}
    ∧ ∀ f ∈ fields, f.sectionName ≠ name → ∀ x, reset (f.set x {}) = f.set x {} := by
  unfold sectionNames sections
  simp only [List.map_cons, List.map_nil, SectionField.of]
  repeat' first
    | refine List.forall_mem_cons.mpr ⟨⟨_, fun d node h => read_of_blank rfl h, rfl, ?_⟩, ?_⟩
    | refine List.forall_mem_cons.mpr ⟨?_, ?_⟩
    | exact List.forall_mem_nil _
    | exact fun _ _ => rfl
    | exact fun hother => absurd rfl hother

/-- The text of a document that sets one field alone makes the defaults with that field set. -/
theorem ofText?_of_alone {text : String} {x : f.Value} (hf : f ∈ fields)
    (hparse : Yaml.parse text = .ok d) (h : f.alone? d = some x) :
    ofText? text = some (f.set x {}) := by
  simp only [Field.alone?, Option.bind_eq_bind, Option.bind_eq_some_iff] at h
  obtain ⟨root, hroot, known, hknown, node, hnode, own, hown, v, hv, hx⟩ := h
  split at hx
  · rename_i hothers
    obtain ⟨hsingle, hnodup, hblank⟩ := hothers
    obtain ⟨σ, keys, base, put, set, hsection, hnames, hkey, hput⟩ := placed_fields f hf
    obtain ⟨p, rfl⟩ := List.length_eq_one_iff.mp hsingle
    -- the one known key is the key of the field, since a value was found for it
    have hown' : p.1 = f.key := by
      by_contra hne
      have hother : (f.key == p.1) = false := beq_false_of_ne (Ne.symm hne)
      rw [List.lookup_cons, hother] at hv
      cases hv
    have hread : readSection keys base d node = some (set x base) := by
      rw [← hnames] at hown
      rw [readSection_eq_readKnown hown (by simp)]
      refine readKnown_of_lookup (by simp) hv ?_ fun q hq hother => ?_
      · simp only [hkey, Option.bind_some, SectionField.of, hx, Option.map_some]
      · exact absurd (List.mem_singleton.mp hq ▸ hown') hother
    -- so that section sets the field, and every other one sets nothing
    have hset : (sections.find? (·.name = f.sectionName)).bind (·.read d node)
        = some (put (set x base)) := by
      simp only [hsection, Option.bind_some, SectionField.of, hread, Option.map_some]
    simp only [ofText?, hparse, hroot]
    rw [readSection_eq_readKnown hknown hnodup, readKnown_of_lookup hnodup hnode hset, hput]
    intro p hp hother
    obtain ⟨reset, hreset, hdefaults, hkept⟩ :=
      blank_sections p.1 (mem_names_of_known? hknown p hp)
    rw [hput]
    exact ⟨reset, hreset d p.2 ((hblank p hp).resolve_left hother), hdefaults,
      hkept f hf hother.symm x⟩
  · cases hx

theorem toOption_eq_some_iff {ε α : Type} {x : Except ε α} {a : α} :
    x.toOption = some a ↔ x = .ok a := by
  rcases x with e | b
  · exact ⟨nofun, nofun⟩
  · exact ⟨fun h => congrArg _ (Option.some.inj h), fun h => congrArg _ (Except.ok.inj h)⟩

/-- **A file that sets one field makes the settings that have that field set.** -/
theorem fromFile_of_alone {x : f.Value} (hf : f ∈ fields) (h : f.aloneInFile? disk path = some x) :
    fromFile disk path = .ok (f.set x {}) := by
  simp only [Field.aloneInFile?, Option.bind_eq_bind, Option.bind_eq_some_iff] at h
  obtain ⟨text, htext, d, hparse, h⟩ := h
  rw [toOption_eq_some_iff] at htext hparse
  simp only [fromFile, htext, ofText?_of_alone hf hparse h]

/-! ## One field in the environment -/

/-- A variable belongs to one field only. -/
theorem eq_of_name? {g : Field} {name : String} (hf : f ∈ fields) (hg : g ∈ fields)
    (hfname : f.name? = some name) (hgname : g.name? = some name) : g = f := by
  by_contra hne
  have : Std.Symm fun f g : Field =>
      ∀ n, f.name? = some n → ∀ m, g.name? = some m → n ≠ m :=
    ⟨fun f g h n hn m hm heq => h m hm n hn heq.symm⟩
  exact (List.pairwise_filterMap.mp nodup_names).forall hg hf hne name hgname name hfname rfl

theorem get_set_of_ne {g : Field} {x : f.Value} {c : Config} (hf : f ∈ fields) (hg : g ∈ fields)
    (hne : g ≠ f) : g.get (f.set x c) = g.get c := by
  have : Std.Symm Field.Independent := ⟨fun f g h => h.symm⟩
  exact (independent_fields.forall hg hf hne).1 x c

/-- **A variable alone makes the settings that have its field set.** -/
theorem overridden_single {name v : String} {spelling : Spelling f.Value} {x : f.Value} {c : Config}
    (hf : f ∈ fields) (hsource : f.source? = some (name, spelling)) (hspells : spelling.Spells v x) :
    overridden [(name, v)] c = f.set x c := by
  have hname : f.name? = some name := by rw [Field.name?, hsource]; rfl
  have hset : Environment.get? [(name, v)] name = some v := by simp [Environment.get?]
  refine ext_fields fun g hg => ?_
  by_cases hgf : g = f
  · subst hgf
    rw [get_overridden hg, Field.found?_eq_some_iff.mpr ⟨name, v, spelling, hsource, hset, hspells⟩,
      g.get_set, Option.getD_some]
  · have hunset : ∀ own ∈ g.name?, Environment.get? [] own = Environment.get? [(name, v)] own := by
      intro own hown
      have hne : name ≠ own := by
        rintro rfl
        exact hgf (eq_of_name? hf hg hname hown)
      simp [Environment.get?, hne]
    rw [get_overridden hg, ← Field.found?_congr hunset, Field.found?_nil, Option.getD_none,
      get_set_of_ne hf hg hgf]

/-- A variable alone makes the settings that have its field set, also as they are loaded: no
variable of a field is the one that names the file. -/
theorem load_single {name v : String} {spelling : Spelling f.Value} {x : f.Value} (hf : f ∈ fields)
    (hsource : f.source? = some (name, spelling)) (hspells : spelling.Spells v x) :
    load disk [(name, v)] none = .ok (f.set x {}) := by
  have hmem : name ∈ fields.filterMap Field.name? :=
    List.mem_filterMap.mpr ⟨f, hf, by rw [Field.name?, hsource]; rfl⟩
  have hne : name ≠ fileVariable := by
    rintro rfl
    exact absurd hmem (by decide)
  have hnone : Environment.get? [(name, v)] fileVariable = none := by simp [Environment.get?, hne]
  simp only [load, hnone, overridden_single hf hsource hspells]

/-! ## Numbers -/

/-- A number that its type admits is spelled by its decimal digits. -/
theorem spells_toString {max n : Nat} {hmax : 1 ≤ max} (hn : n ≤ max) :
    (Spelling.number max hmax).Spells (toString n) n := by
  have hdecimal := Text.isDecimal_toString n
  have htrims : Text.TrimsTo (toString n) (toString n) :=
    Text.trimChars_eq_iff.mp (Text.trimChars_of_solid hdecimal.solid)
  exact ⟨toString n, htrims, ⟨_, Or.inl rfl, hdecimal⟩, hn⟩

/-- **The variable of a field takes a number for the value that the field has for it,** but for a
limit of zero. -/
theorem spells_natural : ∀ f ∈ fields, ∀ {max n : Nat} {ofNat : Nat → f.Value} {name : String}
    {spelling : Spelling f.Value}, f.natural? = some (max, ofNat) →
      f.source? = some (name, spelling) → n ≤ max →
      (name = "THERMGATE_HANDSHAKE_TIMEOUT" → n ≠ 0) →
      spelling.Spells (toString n) (ofNat n) := by
  unfold fields
  repeat' first
    | refine List.forall_mem_cons.mpr ⟨?_, ?_⟩
    | exact List.forall_mem_nil _
    | intro max n ofNat name spelling hnatural hsource hn hlimit
      cases hnatural <;> cases hsource <;> first
        | exact spells_toString hn
        | exact ⟨n, spells_toString hn, rfl⟩
        | exact ⟨n, spells_toString hn, if_neg (hlimit rfl)⟩

/-! ## Both ways -/

/-- In the environment a limit of zero leaves the defaults, which have no limit. -/
theorem load_limit_of_zero :
    load disk [("THERMGATE_HANDSHAKE_TIMEOUT", toString 0)] none = .ok {} :=
  load_single handshakeLimit_mem (x := (none : Option Nat)) rfl
    ⟨0, spells_toString (Nat.zero_le _), rfl⟩

/-- **A number means the same in a file and in the environment.** For every field of natural numbers
that has a variable and every number that its type admits: a file that sets that field alone makes
the same settings as its variable alone, which are the defaults with the field set. The one exception
is a limit of zero, which the environment takes for no limit: then a file keeps the zero and the
environment the defaults. -/
theorem number_same_in_file_and_environment {f : Field} {max n : Nat} {ofNat : Nat → f.Value}
    {name : String} {spelling : Spelling f.Value} {disk : Disk} {path : String} (hf : f ∈ fields)
    (hnatural : f.natural? = some (max, ofNat)) (hsource : f.source? = some (name, spelling))
    (hn : n ≤ max) (hfile : f.aloneInFile? disk path = some (ofNat n)) (other : Disk) :
    load disk [] (some path) = .ok (f.set (ofNat n) {})
      ∧ (load disk [] (some path) = load other [(name, toString n)] none
        ↔ (name = "THERMGATE_HANDSHAKE_TIMEOUT" → n ≠ 0))
      ∧ load other [("THERMGATE_HANDSHAKE_TIMEOUT", toString 0)] none = .ok {} := by
  have hload : load disk [] (some path) = .ok (f.set (ofNat n) {}) := by
    rw [load_nil, fromFile_of_alone hf hfile]
  refine ⟨hload, ?_, load_limit_of_zero⟩
  rw [hload]
  constructor
  · rintro hsame rfl rfl
    -- the field is the limit, and it is set in a file only
    have hlimit : Field.handshakeLimit = f :=
      eq_of_name? hf handshakeLimit_mem (by rw [Field.name?, hsource]; rfl) rfl
    subst hlimit
    obtain ⟨-, rfl⟩ := Prod.mk.inj (Option.some.inj hnatural)
    rw [load_limit_of_zero] at hsame
    have hget : (some 0 : Option Nat) = none :=
      congrArg (·.network.handshakeTimeoutSecs) (Except.ok.inj hsame)
    cases hget
  · intro hlimit
    rw [load_single hf hsource (spells_natural f hf hnatural hsource hn hlimit)]

-- the fields that the theorem is about, by their variables
example : (fields.filter (·.natural?.isSome)).filterMap Field.name? = ["THERMGATE_PORT",
    "THERMGATE_HANDSHAKE_TIMEOUT", "THERMGATE_MAX_PER_ADDRESS", "THERMGATE_MAX_ADDRESSES",
    "THERMGATE_IDLE_TIMEOUT", "THERMGATE_REAP_INTERVAL", "THERMGATE_DB_RETRY_LIMIT",
    "THERMGATE_DB_RETRY_DELAY", "THERMGATE_DRAIN_INTERVAL_MS", "THERMGATE_SAMPLER_INTERVAL"] := by
  decide

/-- A disk with one file on it. -/
def withSettings (text : String) : Disk := { nodes := [(["a.yaml"], .file (Text.utf8 text))] }

/-- On a disk with one file its text is all that is read. -/
theorem aloneInFile?_withSettings (f : Field) (text : String) :
    f.aloneInFile? (withSettings text) "a.yaml" = (Yaml.parse text).toOption.bind f.alone? := by
  have hsplit : "a.yaml".splitOn "/" = ["a.yaml"] := by
    rw [String.splitOn, if_neg (by decide)]
    repeat rw [String.splitOnAux, if_neg (by decide), if_neg (by decide)]
    rw [String.splitOnAux, if_pos (by decide)]
    decide
  have hparts : Disk.partsOf "a.yaml" = ["a.yaml"] := by
    rw [Disk.partsOf, hsplit]
    decide
  have hresolve : (withSettings text).resolve "a.yaml" = .ok (.file (Text.utf8 text)) := by
    have hnode : (withSettings text).node? ["a.yaml"] = some (.file (Text.utf8 text)) := rfl
    have hparents : (withSettings text).parentFault? ["a.yaml"] = none := rfl
    have hend : "a.yaml".endsWith "/" = false := by decide +kernel
    rw [Disk.resolve, if_neg (by decide), hparts]
    simp only [hparents, hnode, hend, Bool.false_eq_true, if_false]
  have hread : (withSettings text).readText "a.yaml" = .ok text := by
    simp only [Disk.readText, Disk.read, hresolve, Text.ofUtf8?_utf8]
  rw [Field.aloneInFile?, hread]
  rfl

/-- A file in which an unknown section, an empty one and an unknown key stand beside a port, which is
written in another base. -/
theorem number_same_in_file_and_environment_of_port :
    let disk := withSettings "extra: {port: 1}\nsession:\nnetwork:\n  name: here\n  port: 0x238C\n"
    Field.port.aloneInFile? disk "a.yaml" = some (Nat.toUInt16 9100)
      ∧ load disk [] (some "a.yaml") = .ok { network := { port := 9100 } }
      ∧ load {} [("THERMGATE_PORT", "9100")] none = .ok { network := { port := 9100 } } := by
  intro disk
  have hfile : Field.port.aloneInFile? disk "a.yaml" = some (Nat.toUInt16 9100) := by
    rw [aloneInFile?_withSettings]
    decide +kernel
  have hport := number_same_in_file_and_environment (f := .port) (n := 9100) port_mem
    rfl rfl (by decide) hfile {}
  have hsame := hport.2.1.mpr (by decide)
  exact ⟨hfile, hport.1, hsame.symm.trans hport.1⟩

/-- **A limit of zero is not the same.** The file sets it alone and zero is a number of its type. -/
theorem limit_of_zero_differs_in_environment :
    let disk := withSettings "network:\n  handshake_timeout_secs: 0\n"
    Field.handshakeLimit ∈ fields ∧ Field.handshakeLimit.natural? = some (Text.maxWord64, some)
      ∧ Field.handshakeLimit.name? = some "THERMGATE_HANDSHAKE_TIMEOUT" ∧ 0 ≤ Text.maxWord64
      ∧ Field.handshakeLimit.aloneInFile? disk "a.yaml" = some (some 0)
      ∧ load disk [] (some "a.yaml")
        ≠ load {} [("THERMGATE_HANDSHAKE_TIMEOUT", toString 0)] none := by
  intro disk
  have hfile : Field.handshakeLimit.aloneInFile? disk "a.yaml" = some (some 0) := by
    rw [aloneInFile?_withSettings]
    decide +kernel
  refine ⟨handshakeLimit_mem, rfl, rfl, Nat.zero_le _, hfile, ?_⟩
  rw [load_limit_of_zero, load_nil, fromFile_of_alone handshakeLimit_mem hfile]
  intro hsame
  have hget : (some 0 : Option Nat) = none :=
    congrArg (·.network.handshakeTimeoutSecs) (Except.ok.inj hsame)
  cases hget

end SensorGateway.Config

import SensorGateway.Proofs.Config.Fields

/-!
What the environment makes of the settings, field by field.

`Field.Becomes` says what a field is after the environment: the value that its own variable spells,
or else what it was. No other variable is mentioned, and `get_overridden` is the reason why: the
variables are gone through one after the other, and since no two fields meet, the turn of one field
leaves every other as it is. The induction is on the fields to come. Before its own turn a field is
as it was at the start, and after it as it is at the end.

All that is said of the settings as a whole follows from this, since the fields are everything there
is.
-/

set_option autoImplicit false

namespace SensorGateway.Config

variable {env : Environment} {c : Config} {f : Field}

namespace Field

/-! ## The turn of a field -/

/-- What the environment has for a field: what its variable spells, if it is set and spells
something. -/
def found? (f : Field) (env : Environment) : Option f.Value :=
  f.source?.bind fun (name, spelling) => (env.get? name).bind spelling.read?

/-- The turn of a field. -/
def turn (env : Environment) (c : Config) (f : Field) : Config :=
  match f.found? env with
  | some x => f.set x c
  | none => c

/-- At its own turn a field takes what the environment has for it, if it has something. -/
theorem get_turn : f.get (f.turn env c) = (f.found? env).getD (f.get c) := by
  rw [turn]
  rcases f.found? env with _ | x
  · rfl
  · exact f.get_set x c

/-- The turn of another field leaves a field as it was. -/
theorem get_turn_of_unmet {g : Field} (hunmet : ∀ x c, f.get (g.set x c) = f.get c) :
    f.get (g.turn env c) = f.get c := by
  rw [turn]
  rcases g.found? env with _ | x
  · rfl
  · exact hunmet x c

/-- So do the turns of any number of other fields. -/
theorem get_turns_of_unmet {gs : List Field}
    (hunmet : ∀ g ∈ gs, ∀ x c, f.get (g.set x c) = f.get c) :
    f.get (gs.foldl (turn env) c) = f.get c := by
  induction gs generalizing c with
  | nil => rfl
  | cons g gs ih =>
    obtain ⟨hg, hgs⟩ := List.forall_mem_cons.mp hunmet
    exact (ih hgs).trans (get_turn_of_unmet hg)

/-- **Among fields that do not meet, each has what the environment has for it,** or else what it
had. -/
theorem get_turns {fs : List Field} (hfs : fs.Pairwise Independent) (hf : f ∈ fs) :
    f.get (fs.foldl (turn env) c) = (f.found? env).getD (f.get c) := by
  -- the turn of `f` is among `fs`: the fields after it leave what it took, those before what it was
  induction fs generalizing c with
  | nil => exact absurd hf List.not_mem_nil
  | cons g fs ih =>
    obtain ⟨hg, hfs⟩ := List.pairwise_cons.mp hfs
    rcases List.mem_cons.mp hf with rfl | hf
    · exact (get_turns_of_unmet fun g hmem => (hg g hmem).1).trans get_turn
    · have hbefore : f.get (g.turn env c) = f.get c := get_turn_of_unmet (hg f hf).2
      rw [List.foldl_cons, ih hfs hf, hbefore]

end Field

/-- The variables, one after the other, are the turns of the fields: a field without a variable has
nothing to do at its turn. -/
theorem overridden_eq_turns (env : Environment) (c : Config) :
    overridden env c = fields.foldl (Field.turn env) c := by
  rw [overridden, settingVariables_eq, List.foldl_filterMap]
  congr 1
  funext c f
  rw [Field.toVariable?, Field.turn, Field.found?]
  -- no variable, one that is not set, one that spells nothing and one that does
  rcases f.source? with _ | ⟨name, spelling⟩
  · rfl
  · rcases hset : env.get? name with _ | v
    · simp only [Option.map_some, Option.bind_some, override, Variable.of, hset, Option.bind_none]
    · simp only [Option.map_some, Option.bind_some, override, Variable.of, hset]
      rcases spelling.read? v with _ | x
      · rfl
      · rfl

/-- What a field is after the environment, with no other field in sight. -/
theorem get_overridden (hf : f ∈ fields) :
    f.get (overridden env c) = (f.found? env).getD (f.get c) := by
  rw [overridden_eq_turns, Field.get_turns independent_fields hf]

/-! ## What becomes of a field -/

/-- **What a field becomes,** over what it was: what its variable spells, if that is set and spells
something, and else nothing new. -/
inductive Field.Becomes (env : Environment) (f : Field) (old : f.Value) : f.Value → Prop
  | taken {name v : String} {spelling : Spelling f.Value} {x : f.Value}
      (hsource : f.source? = some (name, spelling)) (hset : env.get? name = some v)
      (hspells : spelling.Spells v x) : Becomes env f old x
  | kept (hnone : ∀ name v spelling x, f.source? = some (name, spelling) → env.get? name = some v →
      ¬ spelling.Spells v x) : Becomes env f old old

namespace Field

/-- The environment has a value for a field exactly when its variable is set and spells that
value. -/
theorem found?_eq_some_iff {x : f.Value} :
    f.found? env = some x ↔ ∃ name v spelling, f.source? = some (name, spelling)
      ∧ env.get? name = some v ∧ spelling.Spells v x := by
  simp only [found?, Option.bind_eq_some_iff, Spelling.read?_eq_some_iff, Prod.exists]
  constructor
  · rintro ⟨name, spelling, hsource, v, hset, hspells⟩
    exact ⟨name, v, spelling, hsource, hset, hspells⟩
  · rintro ⟨name, v, spelling, hsource, hset, hspells⟩
    exact ⟨name, spelling, hsource, v, hset, hspells⟩

/-- It has none when there is no variable, or it is not set, or what it is set to spells nothing. -/
theorem found?_eq_none_iff :
    f.found? env = none ↔ ∀ name v spelling x, f.source? = some (name, spelling) →
      env.get? name = some v → ¬ spelling.Spells v x := by
  rw [Option.eq_none_iff_forall_ne_some]
  simp only [ne_eq, found?_eq_some_iff, not_exists, not_and]
  exact ⟨fun h name v spelling x => h x name v spelling,
    fun h x name v spelling => h name v spelling x⟩

/-- What is computed for a field is what becomes of it. -/
theorem getD_found?_eq_iff {old x : f.Value} :
    (f.found? env).getD old = x ↔ f.Becomes env old x := by
  constructor
  · rintro rfl
    rcases hfound : f.found? env with _ | x
    · exact .kept (found?_eq_none_iff.mp hfound)
    · obtain ⟨name, v, spelling, hsource, hset, hspells⟩ := found?_eq_some_iff.mp hfound
      exact .taken hsource hset hspells
  · rintro (⟨hsource, hset, hspells⟩ | hnone)
    · rw [found?_eq_some_iff.mpr ⟨_, _, _, hsource, hset, hspells⟩, Option.getD_some]
    · rw [found?_eq_none_iff.mpr hnone, Option.getD_none]

/-- What the environment has for a field is a matter of its variable alone. -/
theorem found?_congr {env' : Environment} (h : ∀ name ∈ f.name?, env'.get? name = env.get? name) :
    f.found? env' = f.found? env := by
  rcases hsource : f.source? with _ | ⟨name, spelling⟩
  · rw [found?, found?, hsource]
    rfl
  · have hset : env'.get? name = env.get? name := h name (by rw [name?, hsource]; rfl)
    simp only [found?, hsource, Option.bind_some, hset]

theorem found?_nil : f.found? [] = none :=
  found?_eq_none_iff.mpr fun _ _ _ _ _ hset => by cases hset

/-- A variable has a value that makes a difference to its field. -/
theorem exists_found?_ne {name : String} (hname : f.name? = some name) (old : f.Value) :
    ∃ v x, f.found? [(name, v)] = some x ∧ x ≠ old := by
  rw [name?, Option.map_eq_some_iff] at hname
  obtain ⟨⟨own, spelling⟩, hsource, rfl⟩ := hname
  have hfound : ∀ v, f.found? [(own, v)] = spelling.read? v := by
    intro v
    simp [found?, hsource, Environment.get?]
  obtain ⟨v, w, x, y, hx, hy, hne⟩ := spelling.choice
  -- of two values at most one is the old one
  by_cases hold : x = old
  · exact ⟨w, y, (hfound w).trans hy, fun h => hne (hold.trans h.symm)⟩
  · exact ⟨v, x, (hfound v).trans hx, hold⟩

end Field

/-! ## The settings as a whole -/

/-- What a variable spells does not depend on the settings, so a second time sets the same. -/
theorem overridden_overridden (env : Environment) (c : Config) :
    overridden env (overridden env c) = overridden env c := by
  refine ext_fields fun f hf => ?_
  rw [get_overridden hf, get_overridden hf]
  rcases f.found? env with _ | x
  · rfl
  · rfl

theorem overridden_nil (c : Config) : overridden [] c = c := by
  refine ext_fields fun f hf => ?_
  rw [get_overridden hf, Field.found?_nil, Option.getD_none]

/-- With an empty environment the settings of the file are the settings. -/
theorem load_nil (disk : Disk) (path : String) : load disk [] (some path) = fromFile disk path := by
  rw [load]
  rcases fromFile disk path with e | c
  · rfl
  · simp only [overridden_nil]

/-- The variables that are gone through are those of the fields, in their order. -/
theorem names_settingVariables :
    settingVariables.map (·.name) = fields.filterMap Field.name? := by
  rw [settingVariables_eq, List.map_filterMap]
  congr 1
  funext f
  rw [Field.toVariable?, Field.name?, Option.map_map]
  rfl

/-- **Every variable sets its own field and nothing else.** For any environment and any settings that
it is applied to. A field becomes what its variable spells, if that is set and spells something, and
otherwise, or without a variable, stays as it was; and two settings with the same fields are the
same. There are thirty variables, no two of them for one field and no field with two of them, and
each can change its field. So two environments that differ in one variable differ in what they make
of its field at most, an environment that is applied again changes nothing more, and an empty one
leaves the settings of a file as they are. -/
theorem variable_sets_own_field (env : Environment) (c : Config) :
    (∀ f ∈ fields, ∀ x, f.get (overridden env c) = x ↔ f.Becomes env (f.get c) x)
      ∧ (∀ a b : Config, (∀ f ∈ fields, f.get a = f.get b) → a = b)
      ∧ settingVariables.map (·.name) = fields.filterMap Field.name?
      ∧ (settingVariables.map (·.name)).Nodup ∧ settingVariables.length = 30
      ∧ (∀ f ∈ fields, ∀ name, f.name? = some name →
        ∃ v, f.get (overridden [(name, v)] c) ≠ f.get c)
      ∧ (∀ env' name, (∀ other, other ≠ name → env'.get? other = env.get? other) →
        ∀ f ∈ fields, f.name? ≠ some name → f.get (overridden env' c) = f.get (overridden env c))
      ∧ overridden env (overridden env c) = overridden env c
      ∧ ∀ disk path, load disk [] (some path) = fromFile disk path := by
  refine ⟨fun f hf x => ?_, fun a b => ext_fields, names_settingVariables, ?_, rfl, ?_, ?_,
    overridden_overridden env c, load_nil⟩
  · rw [get_overridden hf, Field.getD_found?_eq_iff]
  · rw [names_settingVariables]
    exact nodup_names
  · intro f hf name hname
    obtain ⟨v, x, hfound, hne⟩ := Field.exists_found?_ne hname (f.get c)
    refine ⟨v, ?_⟩
    rwa [get_overridden hf, hfound, Option.getD_some]
  · intro env' name hothers f hf hname
    have hfound : f.found? env' = f.found? env := by
      refine Field.found?_congr fun own hown => hothers own ?_
      rintro rfl
      exact hname hown
    rw [get_overridden hf, get_overridden hf, hfound]

/-- A port with blanks, a sign and a zero in front is a port; seconds with a unit are none, and the
field stays as it was; zero turns the limit off and any word but the right ones turns a flag off. A
second port in front of the first changes the port alone. -/
theorem variable_sets_own_field_of_four :
    let c : Config :=
      { network := { handshakeTimeoutSecs := some 5 }, session := { idleTimeoutSecs := 7 } }
    let env : Environment := [("THERMGATE_PORT", " +09100\t"), ("THERMGATE_IDLE_TIMEOUT", "12s"),
      ("THERMGATE_HANDSHAKE_TIMEOUT", "0"), ("THERMGATE_SAMPLER_ENABLED", "yes")]
    let moved : Environment := ("THERMGATE_PORT", "80") :: env
    Field.port ∈ fields ∧ Field.port.name? = some "THERMGATE_PORT"
      ∧ (∀ other, other ≠ "THERMGATE_PORT" → moved.get? other = env.get? other)
      ∧ (overridden env c).network.port = 9100 ∧ (overridden env c).session.idleTimeoutSecs = 7
      ∧ (overridden env c).network.handshakeTimeoutSecs = none
      ∧ (overridden env c).sampler.enabled = false
      ∧ (overridden moved c).network.handshakeTimeoutSecs = none
      ∧ ∃ v, (overridden [("THERMGATE_PORT", v)] c).network.port ≠ c.network.port := by
  intro c env moved
  have hmoved : ∀ other, other ≠ "THERMGATE_PORT" → moved.get? other = env.get? other := by
    intro other hother
    have hne : ¬ "THERMGATE_PORT" = other := fun h => hother h.symm
    simp [moved, Environment.get?, hne]
  obtain ⟨hbecomes, -, -, -, -, hchanges, hframe, -, -⟩ := variable_sets_own_field env c
  have hport : (overridden env c).network.port = 9100 :=
    (hbecomes .port port_mem 9100).mpr
      (.taken rfl rfl (Spelling.port.read?_eq_some_iff.mp (by decide)))
  have hlimit : (overridden env c).network.handshakeTimeoutSecs = none :=
    (hbecomes .handshakeLimit handshakeLimit_mem none).mpr
      (.taken rfl rfl (Spelling.limit.read?_eq_some_iff.mp (by decide)))
  -- the second port is about another field, so the limit is what it was
  have hsame := hframe moved "THERMGATE_PORT" hmoved .handshakeLimit handshakeLimit_mem (by decide)
  exact ⟨port_mem, rfl, hmoved, hport, by decide +kernel, hlimit, by decide +kernel,
    hsame.trans hlimit, hchanges .port port_mem "THERMGATE_PORT" rfl⟩

end SensorGateway.Config

import RepoIdentity.Proofs.Flags

/-!
# Command lines that cannot be misread

A command line that gives each switch by its name, its value after an equals sign, and
the operands after two hyphens alone is read as what it was written for. Values and
operands may look like anything, switches and commands among them: a word ends the name
of its switch at the first equals sign, and after the two hyphens nothing is a switch.

The state of the reading after some words is `Reading.ofSwitches` of what they give. A
word takes it to the state with one more switch (`Reading.add_word`), and so do all words
of a level one after another (`Reading.addAll_words`, `Reading.beforeCommand_words`).

* `Switch.word`, `words` — switches with values, as arguments;
* `Invocation.valuesOf`, `Invocation.Gives` — what an invocation was given, switch by
  switch, and a list that gives it;
* `Divides`, `ofArguments_of_divides` — the shared switches may stand before the command
  or after it;
* `ofArguments_words` — all of them before it, or all after it.
-/

namespace RepoIdentity.CommandLine

-- ---------------------------------------------------------------------------
-- Words
-- ---------------------------------------------------------------------------

/-- How a switch is given by its name, with its value if it takes one. -/
def Switch.word (s : Switch) (value : Text) : Text :=
  if s.takesValue then s.argument ++ '=' :: value else s.argument

/-- Switches with values, as arguments. -/
def words (given : List (Switch × Text)) : List Text := given.map fun (s, value) => s.word value

/-- Switches one after the other have their words one after the other. -/
theorem words_append (a b : List (Switch × Text)) : words (a ++ b) = words a ++ words b :=
  List.map_append

/-- No value makes a word another one: the name ends at the first equals sign. -/
theorem Word.ofText_word (s : Switch) (value : Text) :
    Word.ofText (s.word value) = .long s.name (if s.takesValue then some value else none) := by
  cases s <;> rfl

/-- No switch is spelt as the word for help. -/
theorem Switch.word_ne_helpWord (s : Switch) (value : Text) :
    (s.word value == helpWord) = false := by
  cases s <;> rfl

/-- No switch is spelt as a command. -/
theorem CommandName.ofName?_word (s : Switch) (value : Text) :
    CommandName.ofName? (s.word value) = none := by
  cases s <;> rfl

/-- No two switches have the same name. -/
theorem Switch.name_injective {s t : Switch} (h : s.name = t.name) : s = t := by
  revert h
  cases s <;> cases t <;> decide

/-- A switch is found by its name. -/
theorem Switch.find?_name {s : Switch} {switches : List Switch} (h : s ∈ switches) :
    switches.find? (fun t => t.name = s.name) = some s := by
  induction switches with
  | nil => cases h
  | cons t rest ih =>
    by_cases hname : t.name = s.name
    · rw [List.find?_cons_of_pos (by simpa using hname), Switch.name_injective hname]
    · have hne : s ≠ t := fun heq => hname (by rw [heq])
      rw [List.find?_cons_of_neg (by simpa using hname)]
      exact ih ((List.mem_cons.mp h).resolve_left hne)

-- ---------------------------------------------------------------------------
-- Readings
-- ---------------------------------------------------------------------------

namespace Reading

/-- The reading of switches that have all been accepted. -/
def ofSwitches (given : List (Switch × Text)) : Reading := ⟨given, [], none, false⟩

theorem values_cons (g : Switch × Text) (given : List (Switch × Text)) (s : Switch) :
    (ofSwitches (g :: given)).values s =
      if g.1 = s then g.2 :: (ofSwitches given).values s else (ofSwitches given).values s := by
  by_cases h : g.1 = s
  · simp [ofSwitches, values, h]
  · simp [ofSwitches, values, h]

/-- Values are kept in the order in which they were given. -/
theorem values_append (a b : List (Switch × Text)) (s : Switch) :
    (ofSwitches (a ++ b)).values s = (ofSwitches a).values s ++ (ofSwitches b).values s :=
  List.filterMap_append

/-- The values of a switch are those that were given with it. -/
theorem mem_values_iff {given : List (Switch × Text)} {s : Switch} {value : Text} :
    value ∈ (ofSwitches given).values s ↔ (s, value) ∈ given := by
  induction given with
  | nil => simp [ofSwitches, values]
  | cons g rest ih =>
    rw [values_cons]
    obtain ⟨t, v⟩ := g
    by_cases ht : t = s
    · subst ht
      simp [ih]
    · simp [ih, ht, Ne.symm ht]

/-- A switch that was not given has no values. -/
theorem values_eq_nil {given : List (Switch × Text)} {s : Switch}
    (h : ∀ g ∈ given, g.1 ≠ s) : (ofSwitches given).values s = [] := by
  rw [List.eq_nil_iff_forall_not_mem]
  intro value hvalue
  exact h _ (mem_values_iff.mp hvalue) rfl

/-- A switch was given if it has a value. -/
theorem has_eq (r : Reading) (s : Switch) : r.has s = !(r.values s).isEmpty := by
  show r.switches.any _ = !((ofSwitches r.switches).values s).isEmpty
  induction r.switches with
  | nil => rfl
  | cons g rest ih =>
    rw [values_cons, List.any_cons, ih]
    by_cases h : g.1 = s
    · simp [h]
    · simp [h]

/-- Switches with values that can be given at a level, in any order: each is one of the
level that does not ask for help, has a value that it accepts, or none if it takes none,
and comes once unless it may be repeated. -/
structure Admits (level : Level) (given : List (Switch × Text)) : Prop where
  known : ∀ g ∈ given, g.1 ∈ level.switches ∧ g.1 ≠ .help ∧ g.1 ≠ .version
  valued : ∀ g ∈ given, (g.1.takesValue = false → g.2 = []) ∧ g.1.accepts g.2 = true
  once : ∀ s : Switch, s.repeats = false → ((ofSwitches given).values s).length ≤ 1

variable {level : Level} {done rest : List (Switch × Text)} {s : Switch} {value : Text}

/-- A switch that must not be repeated has not been given before. -/
theorem Admits.has_eq_false (h : Admits level (done ++ (s, value) :: rest))
    (hs : s.repeats = false) : (ofSwitches done).has s = false := by
  have honce := h.once s hs
  rw [values_append, values_cons, if_pos rfl, List.length_append, List.length_cons] at honce
  have hnone : (ofSwitches done).values s = [] := by
    rw [← List.length_eq_zero_iff]
    omega
  rw [has_eq, hnone]
  rfl

/-- An admissible switch is accepted. -/
theorem Admits.accept (h : Admits level (done ++ (s, value) :: rest)) :
    (ofSwitches done).accept s value = .ok (ofSwitches (done ++ [(s, value)])) := by
  obtain ⟨-, haccepts⟩ := h.valued (s, value) (by simp)
  have hnew : ¬ (!s.repeats && (ofSwitches done).has s) = true := by
    cases hs : s.repeats with
    | true => simp
    | false => simp [h.has_eq_false hs]
  rw [Reading.accept, if_neg hnew, if_neg (by rw [haccepts]; decide)]
  rfl

/-- The words that are left are still admitted when one has been read. -/
theorem Admits.next {g : Switch × Text} (h : Admits level (done ++ g :: rest)) :
    Admits level ((done ++ [g]) ++ rest) := by
  rwa [List.append_assoc, List.singleton_append]

/-- The word of a switch is read as that switch with that value. -/
theorem add_word (h : Admits level (done ++ (s, value) :: rest)) :
    (ofSwitches done).add level (s.word value) = .ok (ofSwitches (done ++ [(s, value)])) := by
  obtain ⟨hmem, hhelp, hversion⟩ := h.known (s, value) (by simp)
  obtain ⟨hvalue, -⟩ := h.valued (s, value) (by simp)
  have hsettle : (ofSwitches done).settle level = .ok (ofSwitches done) := rfl
  have hlong : (ofSwitches done).add level (s.word value) =
      (ofSwitches done).addLong level s.name (if s.takesValue then some value else none) := by
    have hopen : ¬(ofSwitches done).escaped = true := Bool.false_ne_true
    rw [add, if_neg hopen, Word.ofText_word]
  rw [hlong, addLong, Switch.find?_name hmem]
  cases htakes : s.takesValue with
  | true =>
    simp only [htakes, if_true, addValued, hsettle]
    exact h.accept
  | false =>
    have hempty : value = [] := hvalue htakes
    subst hempty
    have hflag : (ofSwitches done).addFlag level s = (ofSwitches done).accept s [] := by
      rw [addFlag_eq_bind, hsettle]
      cases s with
      | help => exact absurd rfl hhelp
      | version => exact absurd rfl hversion
      | _ => rfl
    simp only [htakes, Bool.false_eq_true, if_false, Option.isSome_none, hflag]
    exact h.accept

/-- Words after a command. -/
theorem addAll_words (h : Admits level (done ++ rest)) (args : List Text) :
    (ofSwitches done).addAll level (words rest ++ args) =
      (ofSwitches (done ++ rest)).addAll level args := by
  induction rest generalizing done with
  | nil =>
    rw [List.append_nil]
    rfl
  | cons g rest ih =>
    show ((ofSwitches done).add level (g.1.word g.2)).bind
      (fun r => r.addAll level (words rest ++ args)) = _
    rw [add_word h]
    show (ofSwitches (done ++ [g])).addAll level (words rest ++ args) = _
    rw [ih h.next, List.append_assoc]
    rfl

/-- Words before a command: none of them is taken for its name. -/
theorem beforeCommand_words (h : Admits .program (done ++ rest)) (c : CommandName)
    (args : List Text) :
    (ofSwitches done).beforeCommand (words rest ++ c.name :: args) =
      .ok (ofSwitches (done ++ rest), some (c, args)) := by
  induction rest generalizing done with
  | nil =>
    rw [List.append_nil]
    cases c <;> rfl
  | cons g rest ih =>
    have hnext : (ofSwitches done).beforeCommand (words (g :: rest) ++ c.name :: args) =
        ((ofSwitches done).add .program (g.1.word g.2)).bind
          fun r => r.beforeCommand (words rest ++ c.name :: args) := by
      show (ofSwitches done).beforeCommand (g.1.word g.2 :: (words rest ++ c.name :: args)) = _
      rw [beforeCommand, Switch.word_ne_helpWord, Bool.and_false, if_neg Bool.false_ne_true,
        CommandName.ofName?_word, ite_self]
    rw [hnext, add_word h]
    show (ofSwitches (done ++ [g])).beforeCommand (words rest ++ c.name :: args) = _
    rw [ih h.next, List.append_assoc]
    rfl

end Reading

-- ---------------------------------------------------------------------------
-- What an invocation was given
-- ---------------------------------------------------------------------------

def Command.name : Command → CommandName
  | .parse _ _ _ _ => .parse
  | .describe _ _ _ => .describe
  | .validate _ => .validate
  | .compare _ _ _ _ => .compare
  | .completion _ => .completion

/-- What a command was given by its place. -/
def Command.operands : Command → List Text
  | .parse input _ _ _ => [input]
  | .describe path _ _ => [path]
  | .validate input => [input]
  | .compare first second _ _ => [first, second]
  | .completion shell => [shell.name]

/-- The values of a flag: an empty one if it is set. -/
def flagValues (isSet : Bool) : List Text := if isSet then [[]] else []

/-- The values that a command was given for a switch of its own, in order. -/
def Command.valuesOf : Command → Switch → List Text
  | .parse _ metadata _ _, .metadata => metadata
  | .parse _ _ asked _, .validate => flagValues asked
  | .parse _ _ _ json, .json => flagValues json
  | .describe _ metadata _, .metadata => metadata
  | .describe _ _ json, .json => flagValues json
  | .compare _ _ metadataFirst _, .metadataFirst => metadataFirst
  | .compare _ _ _ metadataSecond, .metadataSecond => metadataSecond
  | _, _ => []

/-- The values that an invocation was given for a switch, in order. -/
def Invocation.valuesOf (inv : Invocation) : Switch → List Text
  | .strict => flagValues inv.strict
  | .config => inv.config.toList
  | .debug => flagValues inv.debug
  | .quiet => flagValues inv.quiet
  | s => inv.command.valuesOf s

/-- A flag of a command is given once or not at all. -/
theorem Command.valuesOf_flag (command : Command) {s : Switch} (hs : s.takesValue = false) :
    ∃ isSet, command.valuesOf s = flagValues isSet := by
  cases s with
  | config => cases hs
  | metadata => cases hs
  | metadataFirst => cases hs
  | metadataSecond => cases hs
  | validate =>
    cases command with
    | parse input metadata asked json => exact ⟨asked, rfl⟩
    | _ => exact ⟨false, rfl⟩
  | json =>
    cases command with
    | parse input metadata asked json => exact ⟨json, rfl⟩
    | describe path metadata json => exact ⟨json, rfl⟩
    | _ => exact ⟨false, rfl⟩
  | _ => cases command <;> exact ⟨false, rfl⟩

namespace Invocation

variable {inv : Invocation}

/-- A flag of the program is given once or not at all. -/
theorem valuesOf_flag (inv : Invocation) {s : Switch} (hs : s.takesValue = false) :
    ∃ isSet, inv.valuesOf s = flagValues isSet := by
  cases s with
  | strict => exact ⟨inv.strict, rfl⟩
  | config => cases hs
  | debug => exact ⟨inv.debug, rfl⟩
  | quiet => exact ⟨inv.quiet, rfl⟩
  | _ => exact inv.command.valuesOf_flag hs

/-- The values of a command's own switch are those of the command. -/
theorem valuesOf_own (inv : Invocation) {c : CommandName} {s : Switch} (h : s ∈ c.ownSwitches) :
    inv.valuesOf s = inv.command.valuesOf s ∧ s ∉ Switch.common := by
  have hown : s ∉ Switch.common := by
    revert h
    cases c <;> cases s <;> decide
  refine ⟨?_, hown⟩
  cases s with
  | strict => exact absurd (by decide) hown
  | config => exact absurd (by decide) hown
  | debug => exact absurd (by decide) hown
  | quiet => exact absurd (by decide) hown
  | _ => rfl

/-- Every value that was given is one that the switch accepts. -/
theorem fits_of_mem_valuesOf (hconfig : inv.config ≠ some []) {s : Switch} {value : Text}
    (h : value ∈ inv.valuesOf s) :
    (s.takesValue = false → value = []) ∧ s.accepts value = true := by
  constructor
  · intro hs
    obtain ⟨isSet, hflag⟩ := inv.valuesOf_flag hs
    rw [hflag] at h
    cases isSet with
    | false => cases h
    | true => exact List.mem_singleton.mp h
  · rw [Switch.accepts, Bool.or_eq_true, bne_iff_ne, bne_iff_ne]
    by_cases hs : s = .config
    · subst hs
      have hpath : inv.config = some value := Option.mem_toList.mp h
      exact Or.inr fun hempty => hconfig (hempty ▸ hpath)
    · exact Or.inl hs

/-- A switch that must not be repeated is given at most once. -/
theorem length_valuesOf_le (inv : Invocation) {s : Switch} (hs : s.repeats = false) :
    (inv.valuesOf s).length ≤ 1 := by
  by_cases hvalue : s = .config
  · subst hvalue
    show inv.config.toList.length ≤ 1
    cases inv.config <;> simp
  · have hflag : s.takesValue = false := by
      cases s with
      | config => exact absurd rfl hvalue
      | metadata => cases hs
      | metadataFirst => cases hs
      | metadataSecond => cases hs
      | _ => rfl
    obtain ⟨isSet, heq⟩ := inv.valuesOf_flag hflag
    rw [heq]
    cases isSet <;> decide

/-- Switches are admitted where they are known, if each has its values or none. -/
theorem admits {given : List (Switch × Text)} {level : Level} {switches : List Switch}
    (hconfig : inv.config ≠ some []) (hmem : ∀ g ∈ given, g.1 ∈ switches)
    (hknown : ∀ s ∈ switches, s ∈ level.switches ∧ s ≠ .help ∧ s ≠ .version)
    (hvalues : ∀ s ∈ switches, (Reading.ofSwitches given).values s = inv.valuesOf s ∨
      (Reading.ofSwitches given).values s = []) : Reading.Admits level given where
  known g hg := hknown g.1 (hmem g hg)
  valued := by
    intro g hg
    have hvalue : g.2 ∈ (Reading.ofSwitches given).values g.1 := Reading.mem_values_iff.mpr hg
    rcases hvalues g.1 (hmem g hg) with heq | heq
    · rw [heq] at hvalue
      exact fits_of_mem_valuesOf hconfig hvalue
    · rw [heq] at hvalue
      cases hvalue
  once := by
    intro s hs
    by_cases hgiven : s ∈ switches
    · rcases hvalues s hgiven with heq | heq
      · rw [heq]
        exact inv.length_valuesOf_le hs
      · rw [heq]
        exact Nat.zero_le 1
    · have hnone : (Reading.ofSwitches given).values s = [] :=
        Reading.values_eq_nil fun g hg heq => hgiven (heq ▸ hmem g hg)
      rw [hnone]
      exact Nat.zero_le 1

end Invocation

-- ---------------------------------------------------------------------------
-- What a reading gives back
-- ---------------------------------------------------------------------------

/-- A flag was given if it is set. -/
theorem Reading.has_of_values {r : Reading} {s : Switch} {isSet : Bool}
    (h : r.values s = flagValues isSet) : r.has s = isSet := by
  rw [has_eq, h]
  cases isSet <;> rfl

/-- A command is read off its operands and the values of its switches. -/
theorem Command.ofReading_eq {command : Command} {r : Reading}
    (hoperands : r.operands = command.operands)
    (hvalues : ∀ s ∈ command.name.ownSwitches, r.values s = command.valuesOf s) :
    ofReading r command.name = .ok command := by
  cases command with
  | parse input metadata asked json =>
    replace hvalues : ∀ s ∈ [Switch.metadata, .validate, .json], r.values s = _ := hvalues
    have hmetadata : r.values .metadata = metadata := hvalues _ (by decide)
    have hasked : r.has .validate = asked := Reading.has_of_values (hvalues _ (by decide))
    have hjson : r.has .json = json := Reading.has_of_values (hvalues _ (by decide))
    show ofReading r .parse = _
    rw [ofReading, hoperands, ← hmetadata, ← hasked, ← hjson]
    rfl
  | describe path metadata json =>
    replace hvalues : ∀ s ∈ [Switch.metadata, .json], r.values s = _ := hvalues
    have hmetadata : r.values .metadata = metadata := hvalues _ (by decide)
    have hjson : r.has .json = json := Reading.has_of_values (hvalues _ (by decide))
    show ofReading r .describe = _
    rw [ofReading, hoperands, ← hmetadata, ← hjson]
    rfl
  | validate input =>
    show ofReading r .validate = _
    rw [ofReading, hoperands]
    rfl
  | compare first second metadataFirst metadataSecond =>
    replace hvalues : ∀ s ∈ [Switch.metadataFirst, .metadataSecond], r.values s = _ := hvalues
    have hfirst : r.values .metadataFirst = metadataFirst := hvalues _ (by decide)
    have hsecond : r.values .metadataSecond = metadataSecond := hvalues _ (by decide)
    show ofReading r .compare = _
    rw [ofReading, hoperands, ← hfirst, ← hsecond]
    rfl
  | completion shell =>
    show ofReading r .completion = _
    rw [ofReading, hoperands]
    cases shell <;> rfl

/-- After two hyphens alone the operands are read as they are. -/
theorem addAll_operands (command : Command) (given : List (Switch × Text)) :
    (Reading.ofSwitches given).addAll (.command command.name) ("--".toList :: command.operands) =
      .ok ⟨given, command.operands, none, true⟩ := by
  cases command with
  | completion shell => cases shell <;> rfl
  | _ => rfl

-- ---------------------------------------------------------------------------
-- Before the command and after it
-- ---------------------------------------------------------------------------

/-- A shared switch may stand before the command. -/
theorem Level.mem_switches_program {s : Switch} (h : s ∈ Switch.common) :
    s ∈ Level.program.switches ∧ s ≠ .help ∧ s ≠ .version := by
  revert h
  cases s <;> decide

/-- Shared and own switches may stand after the command. -/
theorem Level.mem_switches_command {c : CommandName} {s : Switch}
    (h : s ∈ Switch.common ++ c.ownSwitches) :
    s ∈ (Level.command c).switches ∧ s ≠ .help ∧ s ≠ .version := by
  revert h
  cases c <;> cases s <;> decide

/-- Switches with values that are given before a command and after it: each switch has
all its values in one of the two places, in order, and only switches that all commands
share stand before. -/
structure Divides (inv : Invocation) (before after : List (Switch × Text)) : Prop where
  common : ∀ g ∈ before, g.1 ∈ Switch.common
  known : ∀ g ∈ after, g.1 ∈ Switch.common ++ inv.command.name.ownSwitches
  values : ∀ s ∈ Switch.common ++ inv.command.name.ownSwitches,
    (Reading.ofSwitches before).values s = inv.valuesOf s ∧
        (Reading.ofSwitches after).values s = [] ∨
      (Reading.ofSwitches before).values s = [] ∧
        (Reading.ofSwitches after).values s = inv.valuesOf s

variable {inv : Invocation} {before after : List (Switch × Text)}

/-- A flag is set if it was given before the command or after it. -/
theorem Divides.has (h : Divides inv before after) {s : Switch} (hcommon : s ∈ Switch.common)
    {isSet : Bool} (hs : inv.valuesOf s = flagValues isSet) :
    ((Reading.ofSwitches before).has s || (Reading.ofSwitches after).has s) = isSet := by
  rcases h.values s (List.mem_append_left _ hcommon) with ⟨hbefore, hafter⟩ | ⟨hbefore, hafter⟩
  · rw [Reading.has_of_values (hbefore.trans hs), Reading.has_eq, hafter]
    exact Bool.or_false isSet
  · rw [Reading.has_of_values (hafter.trans hs), Reading.has_eq, hbefore]
    exact Bool.false_or isSet

/-- Both places together give the invocation. -/
theorem Divides.ofReadings_eq (h : Divides inv before after) :
    Invocation.ofReadings (Reading.ofSwitches before) (Reading.ofSwitches after) inv.command =
      inv := by
  have hstrict : ((Reading.ofSwitches before).has .strict ||
      (Reading.ofSwitches after).has .strict) = inv.strict := h.has (by decide) rfl
  have hdebug : ((Reading.ofSwitches before).has .debug ||
      (Reading.ofSwitches after).has .debug) = inv.debug := h.has (by decide) rfl
  have hquiet : ((Reading.ofSwitches before).has .quiet ||
      (Reading.ofSwitches after).has .quiet) = inv.quiet := h.has (by decide) rfl
  have hconfig : (((Reading.ofSwitches after).values .config).head? <|>
      ((Reading.ofSwitches before).values .config).head?) = inv.config := by
    have hvalues : inv.valuesOf .config = inv.config.toList := rfl
    rcases h.values .config (List.mem_append_left _ (by decide)) with
      ⟨hbefore, hafter⟩ | ⟨hbefore, hafter⟩
    · rw [hbefore, hafter, hvalues]
      cases inv.config <;> rfl
    · rw [hbefore, hafter, hvalues]
      cases inv.config <;> rfl
  rw [Invocation.ofReadings, hstrict, hdebug, hquiet, hconfig]

/-- A command line is read as what it was written for. -/
theorem ofArguments_of_divides (h : Divides inv before after) (hconfig : inv.config ≠ some []) :
    Invocation.ofArguments (words before ++
      inv.command.name.name :: (words after ++ "--".toList :: inv.command.operands)) =
        .ok inv := by
  -- each switch stands on one side of the command, so that both sides are admissible
  have hbefore : Reading.Admits .program ([] ++ before) :=
    inv.admits hconfig h.common (fun _ => Level.mem_switches_program) fun s hs =>
      (h.values s (List.mem_append_left _ hs)).imp And.left And.left
  have hafter : Reading.Admits (.command inv.command.name) ([] ++ after) :=
    inv.admits hconfig h.known (fun _ => Level.mem_switches_command) fun s hs =>
      ((h.values s hs).imp And.right And.right).symm
  -- the words before the command are read, then the rest, then both are put together
  have hread : Reading.start.beforeCommand (words before ++
      inv.command.name.name :: (words after ++ "--".toList :: inv.command.operands)) =
      .ok (Reading.ofSwitches before,
        some (inv.command.name, words after ++ "--".toList :: inv.command.operands)) :=
    Reading.beforeCommand_words hbefore _ _
  have hrest : Reading.start.addAll (.command inv.command.name)
      (words after ++ "--".toList :: inv.command.operands) =
      .ok ⟨after, inv.command.operands, none, true⟩ :=
    (Reading.addAll_words hafter _).trans (addAll_operands inv.command after)
  have hcommand : Command.ofReading ⟨after, inv.command.operands, none, true⟩ inv.command.name =
      .ok inv.command := by
    refine Command.ofReading_eq rfl fun s hs => ?_
    obtain ⟨hown, hnot⟩ := inv.valuesOf_own hs
    rw [← hown]
    rcases h.values s (List.mem_append_right _ hs) with ⟨hvalues, hnone⟩ | ⟨-, hvalues⟩
    · -- nothing of the command's own stands before its name
      have hempty : (Reading.ofSwitches before).values s = [] :=
        Reading.values_eq_nil fun g hg heq => hnot (heq ▸ h.common g hg)
      rw [← hvalues, hempty]
      exact hnone
    · exact hvalues
  rw [Invocation.ofArguments, hread]
  simp only [hrest, hcommand]
  exact congrArg Except.ok h.ofReadings_eq

-- ---------------------------------------------------------------------------
-- All in one place
-- ---------------------------------------------------------------------------

/-- Switches with values as an invocation has them: the `switches`, in any order that
keeps, for each of them, the order of its values. -/
structure Invocation.Gives (inv : Invocation) (switches : List Switch)
    (given : List (Switch × Text)) : Prop where
  mem : ∀ g ∈ given, g.1 ∈ switches
  values : ∀ s ∈ switches, (Reading.ofSwitches given).values s = inv.valuesOf s

/-- A switch with each of the values. -/
def Switch.withEach (s : Switch) (values : List Text) : List (Switch × Text) :=
  values.map fun value => (s, value)

theorem Switch.mem_withEach {s : Switch} {values : List Text} {g : Switch × Text}
    (h : g ∈ s.withEach values) : g.1 = s := by
  obtain ⟨value, -, rfl⟩ := List.mem_map.mp h
  rfl

/-- A switch given once for each value has these values. -/
theorem Reading.values_withEach (s : Switch) (given : List Text) :
    (ofSwitches (s.withEach given)).values s = given := by
  induction given with
  | nil => rfl
  | cons value rest ih =>
    show (ofSwitches ((s, value) :: s.withEach rest)).values s = _
    rw [values_cons, if_pos rfl, ih]

/-- The switches one after the other, each with its values. -/
def Invocation.given (inv : Invocation) (switches : List Switch) : List (Switch × Text) :=
  switches.flatMap fun s => s.withEach (inv.valuesOf s)

/-- The switches that an invocation is spelt with give its values. -/
theorem Invocation.gives_given (inv : Invocation) {switches : List Switch} (h : switches.Nodup) :
    inv.Gives switches (inv.given switches) := by
  have hmem : ∀ (l : List Switch), ∀ g ∈ inv.given l, g.1 ∈ l := by
    intro l g hg
    obtain ⟨s, hs, hgiven⟩ := List.mem_flatMap.mp hg
    rwa [Switch.mem_withEach hgiven]
  refine ⟨hmem switches, ?_⟩
  induction switches with
  | nil => nofun
  | cons t rest ih =>
    obtain ⟨hnew, hrest⟩ := List.nodup_cons.mp h
    intro s hs
    have hsplit : inv.given (t :: rest) = t.withEach (inv.valuesOf t) ++ inv.given rest := rfl
    rw [hsplit, Reading.values_append]
    by_cases ht : t = s
    · subst ht
      have hnone : (Reading.ofSwitches (inv.given rest)).values t = [] :=
        Reading.values_eq_nil fun g hg heq => hnew (heq ▸ hmem rest g hg)
      rw [Reading.values_withEach, hnone, List.append_nil]
    · have hnone : (Reading.ofSwitches (t.withEach (inv.valuesOf t))).values s = [] :=
        Reading.values_eq_nil fun g hg heq => ht ((Switch.mem_withEach hg).symm.trans heq)
      rw [hnone, List.nil_append]
      exact ih hrest s ((List.mem_cons.mp hs).resolve_left (Ne.symm ht))

section

variable {common own : List (Switch × Text)} (hcommon : inv.Gives Switch.common common)
  (hown : inv.Gives inv.command.name.ownSwitches own)

include hcommon hown

/-- The shared switches before the command and its own after it. -/
theorem divides_of_gives : Divides inv common own where
  common := hcommon.mem
  known g hg := List.mem_append_right _ (hown.mem g hg)
  values := by
    intro s hs
    rcases List.mem_append.mp hs with hs | hs
    · refine Or.inl ⟨hcommon.values s hs, Reading.values_eq_nil fun g hg heq => ?_⟩
      exact (inv.valuesOf_own (hown.mem g hg)).2 (heq ▸ hs)
    · refine Or.inr ⟨Reading.values_eq_nil fun g hg heq => ?_, hown.values s hs⟩
      exact (inv.valuesOf_own hs).2 (heq ▸ hcommon.mem g hg)

/-- All switches after the command. -/
theorem divides_nil_of_gives : Divides inv [] (common ++ own) where
  common := nofun
  known := by
    intro g hg
    rcases List.mem_append.mp hg with hg | hg
    · exact List.mem_append_left _ (hcommon.mem g hg)
    · exact List.mem_append_right _ (hown.mem g hg)
  values := by
    intro s hs
    refine Or.inr ⟨rfl, ?_⟩
    rw [Reading.values_append]
    rcases (divides_of_gives hcommon hown).values s hs with ⟨hvalues, hnone⟩ | ⟨hnone, hvalues⟩
    · rw [hvalues, hnone, List.append_nil]
    · rw [hvalues, hnone, List.nil_append]

end

/-- A command line is read as what it was written for, whatever its values and operands
look like, with the shared switches before the command or right after its name. -/
theorem ofArguments_words (hconfig : inv.config ≠ some []) {common own : List (Switch × Text)}
    (hcommon : inv.Gives Switch.common common)
    (hown : inv.Gives inv.command.name.ownSwitches own) :
    Invocation.ofArguments (words common ++
        inv.command.name.name :: (words own ++ "--".toList :: inv.command.operands)) = .ok inv ∧
      Invocation.ofArguments (inv.command.name.name ::
        (words common ++ words own ++ "--".toList :: inv.command.operands)) = .ok inv := by
  constructor
  · exact ofArguments_of_divides (divides_of_gives hcommon hown) hconfig
  · have hafter := ofArguments_of_divides (divides_nil_of_gives hcommon hown) hconfig
    rw [words_append common own] at hafter
    exact hafter

/-- Values that hold equals signs or look like switches, and operands that look like
switches, commands and the two hyphens. -/
theorem ofArguments_words_of_lookalikes :
    Invocation.ofArguments ["--config=--strict".toList, "--quiet".toList, "compare".toList,
        "--metadata-b=help".toList, "--metadata-a=a=b".toList, "--metadata-b=--".toList,
        "--".toList, "--".toList, "--strict".toList] =
      .ok ⟨false, false, true, some "--strict".toList, .compare "--".toList "--strict".toList
        ["a=b".toList] ["help".toList, "--".toList]⟩ ∧
    Invocation.ofArguments ["compare".toList, "--config=--strict".toList, "--quiet".toList,
        "--metadata-b=help".toList, "--metadata-a=a=b".toList, "--metadata-b=--".toList,
        "--".toList, "--".toList, "--strict".toList] =
      .ok ⟨false, false, true, some "--strict".toList, .compare "--".toList "--strict".toList
        ["a=b".toList] ["help".toList, "--".toList]⟩ := by
  have hcommon : Invocation.Gives ⟨false, false, true, some "--strict".toList,
      .compare "--".toList "--strict".toList ["a=b".toList] ["help".toList, "--".toList]⟩
      Switch.common _ := Invocation.gives_given _ (by decide)
  have hown : Invocation.Gives ⟨false, false, true, some "--strict".toList,
      .compare "--".toList "--strict".toList ["a=b".toList] ["help".toList, "--".toList]⟩
      (CommandName.ownSwitches .compare) [(.metadataSecond, "help".toList),
        (.metadataFirst, "a=b".toList), (.metadataSecond, "--".toList)] := by
    refine ⟨by decide, ?_⟩
    decide
  exact ofArguments_words (by decide) hcommon hown

end RepoIdentity.CommandLine

import RepoIdentity.CommandLine.Arguments

/-!
# Flags in front of a command line

A flag that is put in front of the arguments is accepted before any of them is
read. What follows is read as without it, unless the flag comes again: a step of
the reading looks at the switches so far only to refuse one that is repeated.

* `Reading.Lifted` — the results of a step without the flag and with it; the
  results of steps one after another are related if those of each step are
  (`Lifted.bind`);
* `Reading.lifted_add`, `Reading.beforeCommand_flagged` — one argument, and all
  before the command;
* `Invocation.ofArguments_cons` — a whole command line.
-/

namespace RepoIdentity.CommandLine

namespace Reading

/-- The reading with a flag that was accepted before all other switches. -/
def flagged (s : Switch) (r : Reading) : Reading := { r with switches := (s, []) :: r.switches }

@[simp] theorem operands_flagged (s : Switch) (r : Reading) :
    (r.flagged s).operands = r.operands := rfl

@[simp] theorem pending_flagged (s : Switch) (r : Reading) :
    (r.flagged s).pending = r.pending := rfl

@[simp] theorem escaped_flagged (s : Switch) (r : Reading) :
    (r.flagged s).escaped = r.escaped := rfl

@[simp] theorem awaiting?_flagged (s : Switch) (r : Reading) :
    (r.flagged s).awaiting? = r.awaiting? := rfl

@[simp] theorem operandCount_flagged (s : Switch) (r : Reading) :
    (r.flagged s).operandCount = r.operandCount := rfl

@[simp] theorem expectsCommand_flagged (s : Switch) (r : Reading) :
    (r.flagged s).expectsCommand = r.expectsCommand := rfl

theorem has_flagged (s t : Switch) (r : Reading) :
    (r.flagged s).has t = (decide (s = t) || r.has t) := rfl

/-- A flag more leaves the values of the other switches alone. -/
theorem values_flagged {s t : Switch} (h : s ≠ t) (r : Reading) :
    (r.flagged s).values t = r.values t := by
  show List.filterMap _ ((s, []) :: r.switches) = _
  rw [List.filterMap_cons_none (by exact if_neg h)]
  rfl

-- ---------------------------------------------------------------------------
-- Steps
-- ---------------------------------------------------------------------------

/-- The results of a step from a reading and from the same reading with a flag: if
the first is a reading without the flag, none was there before, and the second is
that reading with the flag. -/
def Lifted (s : Switch) (r : Reading) (result result' : Except Refusal Reading) : Prop :=
  ∀ next, result = .ok next → next.has s = false →
    r.has s = false ∧ result' = .ok (next.flagged s)

variable {s : Switch}

/-- A reading is lifted to the same reading with the flag. -/
theorem lifted_ok (r : Reading) : Lifted s r (.ok r) (.ok (r.flagged s)) := by
  rintro next ⟨⟩ hs
  exact ⟨hs, rfl⟩

/-- A refusal is lifted to anything. -/
theorem lifted_error (r : Reading) (refusal : Refusal) (result : Except Refusal Reading) :
    Lifted s r (.error refusal) result := by
  rintro next ⟨⟩

/-- What waits, and whether all that follows are operands, is no matter of flags. -/
theorem lifted_update (r : Reading) (operands : List Text) (pending : Option Pending)
    (escaped : Bool) :
    Lifted s r (.ok ⟨r.switches, operands, pending, escaped⟩)
      (.ok ⟨(r.flagged s).switches, operands, pending, escaped⟩) := by
  rintro next ⟨⟩ hs
  exact ⟨hs, rfl⟩

/-- Steps that are lifted one by one are lifted one after the other. -/
theorem Lifted.bind {r : Reading} {result result' : Except Refusal Reading}
    (h : Lifted s r result result') {step : Reading → Except Refusal Reading}
    (hstep : ∀ r, Lifted s r (step r) (step (r.flagged s))) :
    Lifted s r (result.bind step) (result'.bind step) := by
  intro last hlast hs
  cases result with
  | error refusal => cases hlast
  | ok next =>
    obtain ⟨hnext, hlifted⟩ := hstep next last hlast hs
    obtain ⟨hfirst, rfl⟩ := h next rfl hnext
    exact ⟨hfirst, hlifted⟩

/-- What waits for its value may be set on both sides. -/
theorem Lifted.map {r : Reading} {result result' : Except Refusal Reading}
    (h : Lifted s r result result') (pending : Option Pending) :
    Lifted s r (result.map fun r => { r with pending })
      (result'.map fun r => { r with pending }) :=
  h.bind fun r => lifted_update r r.operands pending r.escaped

/-- A switch is accepted with one flag more as it is without it. -/
theorem lifted_accept (r : Reading) (t : Switch) (value : Text) :
    Lifted s r (r.accept t value) ((r.flagged s).accept t value) := by
  intro next h hs
  unfold accept at h
  split at h
  · cases h
  · next hrepeated =>
    split at h
    · cases h
    · next haccepts =>
      cases h
      have hboth : r.has s = false ∧ t ≠ s := by
        simpa [has, List.any_append] using hs
      refine ⟨hboth.1, ?_⟩
      rw [accept, has_flagged, decide_eq_false (Ne.symm hboth.2), Bool.false_or, if_neg hrepeated,
        if_neg haccepts]
      rfl

theorem lifted_settle (level : Level) (r : Reading) :
    Lifted s r (r.settle level) ((r.flagged s).settle level) := by
  unfold settle
  rw [pending_flagged, operands_flagged]
  split
  · exact lifted_ok r
  · exact lifted_error r _ _
  · next t value _ => exact lifted_accept { r with pending := none } t value
  · split
    · exact lifted_update r _ _ _
    · exact lifted_error r _ _

theorem lifted_addOperand (level : Level) (r : Reading) (text : Text) :
    Lifted s r (r.addOperand level text) ((r.flagged s).addOperand level text) := by
  unfold addOperand
  rw [operandCount_flagged, escaped_flagged]
  split
  · exact (lifted_settle level r).map _
  · split
    · exact lifted_error r _ _
    · exact lifted_error r _ _

/-- A flag is accepted once nothing waits for a value any more. -/
theorem addFlag_eq_bind (level : Level) (r : Reading) (t : Switch) :
    r.addFlag level t = (r.settle level).bind fun r =>
      match t, level with
      | .help, .program => .error (.help .program)
      | .help, .command c => .error (.help (.command c))
      | .version, _ => .error .version
      | t, _ => r.accept t [] := by
  unfold addFlag
  cases r.settle level <;> rfl

theorem lifted_addFlag (level : Level) (r : Reading) (t : Switch) :
    Lifted s r (r.addFlag level t) ((r.flagged s).addFlag level t) := by
  rw [addFlag_eq_bind, addFlag_eq_bind]
  refine (lifted_settle level r).bind fun r => ?_
  split
  · exact lifted_error r _ _
  · exact lifted_error r _ _
  · exact lifted_error r _ _
  · exact lifted_accept r _ _

theorem lifted_addValued (level : Level) (r : Reading) (t : Switch) (value : Option Text) :
    Lifted s r (r.addValued level t value) ((r.flagged s).addValued level t value) := by
  cases value with
  | none => exact (lifted_settle level r).map _
  | some value => exact (lifted_settle level r).bind fun r => lifted_accept r t value

theorem lifted_addLong (level : Level) (r : Reading) (name : Text) (value : Option Text) :
    Lifted s r (r.addLong level name value) ((r.flagged s).addLong level name value) := by
  unfold addLong
  split
  · exact lifted_error r _ _
  · next t _ =>
    split
    · exact lifted_addValued level r t value
    · split
      · exact lifted_error r _ _
      · exact lifted_addFlag level r t

/-- Letters written together are read with one flag more as they are without it. -/
theorem lifted_addCluster (level : Level) (r : Reading) (letters : Text) :
    Lifted s r (r.addCluster level letters) ((r.flagged s).addCluster level letters) := by
  induction letters generalizing r with
  | nil => exact lifted_ok r
  | cons c rest ih =>
    rw [addCluster, addCluster]
    split
    · exact lifted_error r _ _
    · next t _ =>
      split
      · split
        · exact lifted_addValued level r t none
        · exact lifted_addValued level r t _
        · exact lifted_addValued level r t _
      · exact (lifted_addFlag level r t).bind ih

/-- Reading an argument. -/
theorem lifted_add (level : Level) (r : Reading) (arg : Text) :
    Lifted s r (r.add level arg) ((r.flagged s).add level arg) := by
  unfold add
  rw [escaped_flagged, awaiting?_flagged]
  split
  · exact lifted_addOperand level r arg
  · split
    · exact lifted_update r _ _ _
    · exact lifted_addLong level r _ _
    · exact lifted_addCluster level r _
    · split
      · exact lifted_update r _ _ _
      · exact lifted_addOperand level r arg

/-- Reading the arguments before the command. -/
theorem beforeCommand_flagged {r before : Reading} {args : List Text}
    {found : Option (CommandName × List Text)} (h : r.beforeCommand args = .ok (before, found))
    (hs : before.has s = false) :
    r.has s = false ∧ (r.flagged s).beforeCommand args = .ok (before.flagged s, found) := by
  induction args generalizing r with
  | nil =>
    cases h
    exact ⟨hs, rfl⟩
  | cons arg args ih =>
    rw [beforeCommand] at h ⊢
    rw [expectsCommand_flagged]
    split at h
    · cases h
    · next hhelp =>
      rw [if_neg hhelp]
      split at h
      · cases h
        exact ⟨hs, rfl⟩
      · cases hadd : r.add .program arg with
        | error refusal =>
          rw [hadd] at h
          cases h
        | ok next =>
          rw [hadd] at h
          obtain ⟨hnext, hrest⟩ := ih h
          obtain ⟨hfirst, hlifted⟩ := lifted_add .program r arg next hadd hnext
          rw [hlifted]
          exact ⟨hfirst, hrest⟩

end Reading

-- ---------------------------------------------------------------------------
-- Command lines
-- ---------------------------------------------------------------------------

/-- The flags that may stand before a command. -/
def Switch.flags : List Switch := [.strict, .debug, .quiet]

/-- How a switch is given by its name. -/
def Switch.argument (s : Switch) : Text := "--".toList ++ s.name

/-- A flag in front is read first, and then the arguments. -/
theorem Reading.beforeCommand_argument {s : Switch} (hs : s ∈ Switch.flags) (args : List Text) :
    start.beforeCommand (s.argument :: args) = (start.flagged s).beforeCommand args := by
  simp only [Switch.flags, List.mem_cons, List.not_mem_nil, or_false] at hs
  rcases hs with rfl | rfl | rfl <;> rfl

/-- Whether an invocation has a flag. -/
def Invocation.hasFlag (inv : Invocation) : Switch → Bool
  | .strict => inv.strict
  | .debug => inv.debug
  | .quiet => inv.quiet
  | _ => false

def Invocation.withFlag (inv : Invocation) : Switch → Invocation
  | .strict => { inv with strict := true }
  | .debug => { inv with debug := true }
  | .quiet => { inv with quiet := true }
  | _ => inv

/-- What a command line with a command is read as. -/
theorem Invocation.exists_readings {args : List Text} {inv : Invocation}
    (h : ofArguments args = .ok inv) :
    ∃ before settled after name rest, Reading.start.beforeCommand args =
        .ok (before, some (name, rest)) ∧
      Reading.start.addAll (.command name) rest = .ok after ∧
      Command.ofReading after name = .ok inv.command ∧
      before.settle .program = .ok settled ∧ inv = ofReadings settled after inv.command := by
  unfold ofArguments at h
  split at h
  · cases h
  · split at h <;> cases h
  · next before name rest hbefore =>
    split at h
    · cases h
    · next after hafter =>
      split at h
      · cases h
      · next command hcommand =>
        cases hsettle : before.settle .program with
        | error refusal =>
          rw [hsettle] at h
          cases h
        | ok settled =>
          rw [hsettle] at h
          cases h
          exact ⟨before, settled, after, name, rest, hbefore, hafter, hcommand, hsettle, rfl⟩

/-- A flag before the command is a flag of the invocation. -/
theorem Invocation.ofReadings_flagged {s : Switch} (hs : s ∈ Switch.flags)
    (before after : Reading) (command : Command) :
    ofReadings (before.flagged s) after command = (ofReadings before after command).withFlag s := by
  simp only [Switch.flags, List.mem_cons, List.not_mem_nil, or_false] at hs
  rcases hs with rfl | rfl | rfl <;>
    simp [ofReadings, withFlag, Reading.has_flagged, Reading.values_flagged]

/-- A flag in front of a command line that goes without it does nothing but set that
flag. -/
theorem Invocation.ofArguments_cons {s : Switch} (hs : s ∈ Switch.flags) {args : List Text}
    {inv : Invocation} (h : ofArguments args = .ok inv) (hnot : inv.hasFlag s = false) :
    ofArguments (s.argument :: args) = .ok (inv.withFlag s) := by
  obtain ⟨before, settled, after, name, rest, hbefore, hafter, hcommand, hsettle, heq⟩ :=
    exists_readings h
  have hsettled : settled.has s = false := by
    rw [heq] at hnot
    simp only [Switch.flags, List.mem_cons, List.not_mem_nil, or_false] at hs
    rcases hs with rfl | rfl | rfl <;>
    · simp only [hasFlag, ofReadings, Bool.or_eq_false_iff] at hnot
      exact hnot.1
  obtain ⟨hfirst, hlast⟩ := Reading.lifted_settle .program before settled hsettle hsettled
  obtain ⟨-, hread⟩ := Reading.beforeCommand_flagged hbefore hfirst
  rw [ofArguments, Reading.beforeCommand_argument hs, hread]
  simp only [hafter, hcommand, hlast]
  rw [heq, ← ofReadings_flagged hs]
  rfl

end RepoIdentity.CommandLine

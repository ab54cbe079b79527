import RepoIdentity.Proofs.Flags

/-!
# Flags that are not given

A flag that has no letter is given by its own word and by nothing else: no value and no
operand turns into it, and no other switch is taken for it. The reading lacks the flag at
the start, and every step from a reading that lacks it comes to one that does.

* `Reading.Lacks`, `Reading.Leaves` — a reading without the flag, and a step to one;
* `Reading.Lacks.add`, `Reading.Lacks.beforeCommand`, `Reading.Lacks.addAll` — one
  argument, all before the command, and all after it;
* `Invocation.strict_of_not_mem` — a whole command line.
-/

namespace RepoIdentity.CommandLine

/-- A long switch is spelt with two hyphens and its name. -/
theorem Word.eq_of_ofText_long {arg name : Text} (h : Word.ofText arg = .long name none) :
    arg = "--".toList ++ name := by
  unfold Word.ofText at h
  split at h
  · cases h
  · next s _ =>
    split at h
    · cases h
    · cases h; rfl
  · cases h
  · cases h

namespace Reading

-- ---------------------------------------------------------------------------
-- Steps
-- ---------------------------------------------------------------------------

/-- A flag was neither accepted nor does it wait to be. -/
def Lacks (s : Switch) (r : Reading) : Prop :=
  r.has s = false ∧ ∀ value, r.pending ≠ some (.switch s value)

/-- What a step comes to, if it comes to a reading, lacks the flag. -/
def Leaves (s : Switch) (result : Except Refusal Reading) : Prop :=
  ∀ next, result = .ok next → next.Lacks s

variable {s : Switch}

/-- A refusal leaves nothing behind. -/
theorem leaves_error (refusal : Refusal) : Leaves s (.error refusal) := nofun

/-- Steps that leave a flag out one by one leave it out one after the other. -/
theorem Leaves.bind {result : Except Refusal Reading} (h : Leaves s result)
    {step : Reading → Except Refusal Reading} (hstep : ∀ r, r.Lacks s → Leaves s (step r)) :
    Leaves s (result.bind step) := by
  cases result with
  | error refusal => exact leaves_error refusal
  | ok r => exact hstep r (h r rfl)

/-- Operands and what waits do not bring a flag in. -/
theorem Lacks.update {r : Reading} (h : r.Lacks s) {pending : Option Pending}
    (hpending : ∀ value, pending ≠ some (.switch s value)) (operands : List Text)
    (escaped : Bool) : Leaves s (.ok ⟨r.switches, operands, pending, escaped⟩) := by
  rintro next ⟨⟩
  exact ⟨h.1, hpending⟩

theorem Leaves.map {result : Except Refusal Reading} (h : Leaves s result)
    {pending : Option Pending} (hpending : ∀ value, pending ≠ some (.switch s value)) :
    Leaves s (result.map fun r => { r with pending }) :=
  h.bind fun r hr => hr.update hpending r.operands r.escaped

theorem pending_of_awaiting? {r : Reading} {t : Switch} (h : r.awaiting? = some t) :
    r.pending = some (.switch t none) := by
  unfold awaiting? at h
  split at h
  · next hpending =>
    cases h
    exact hpending
  · cases h

namespace Lacks

variable {r : Reading} (h : r.Lacks s) (level : Level)

include h

/-- Accepting another switch does not bring the flag in. -/
theorem accept {t : Switch} (ht : t ≠ s) (value : Text) : Leaves s (r.accept t value) := by
  intro next hnext
  unfold Reading.accept at hnext
  split at hnext
  · cases hnext
  · split at hnext
    · cases hnext
    · cases hnext
      refine ⟨?_, h.2⟩
      show (r.switches ++ [(t, value)]).any (fun g => decide (g.1 = s)) = false
      rw [List.any_append, Bool.or_eq_false_iff]
      exact ⟨h.1, by simp [ht]⟩

/-- Settling what waits for a value does not bring the flag in. -/
theorem settle : Leaves s (r.settle level) := by
  unfold Reading.settle
  split
  · rintro next ⟨⟩
    exact h
  · exact leaves_error _
  · next t value hpending =>
    have ht : t ≠ s := fun heq => h.2 (some value) (heq ▸ hpending)
    have hnone : Lacks s { r with pending := none } := ⟨h.1, nofun⟩
    exact hnone.accept ht value
  · split
    · have hnone : ∀ value, none ≠ some (Pending.switch s value) := fun _ => nofun
      exact h.update hnone _ _
    · exact leaves_error _

theorem addOperand (text : Text) : Leaves s (r.addOperand level text) := by
  have hoperand : ∀ value, some (Pending.operand text) ≠ some (.switch s value) := fun _ => nofun
  unfold Reading.addOperand
  split
  · exact (h.settle level).map hoperand
  · split
    · exact leaves_error _
    · exact leaves_error _

theorem addFlag {t : Switch} (ht : t ≠ s) : Leaves s (r.addFlag level t) := by
  rw [addFlag_eq_bind]
  refine (h.settle level).bind fun r hr => ?_
  split
  · exact leaves_error _
  · exact leaves_error _
  · exact leaves_error _
  · exact hr.accept ht []

theorem addValued {t : Switch} (ht : t ≠ s) (value : Option Text) :
    Leaves s (r.addValued level t value) := by
  have hpending : ∀ value, some (Pending.switch t none) ≠ some (.switch s value) := by
    rintro value ⟨⟩
    exact ht rfl
  cases value with
  | none => exact (h.settle level).map hpending
  | some value => exact (h.settle level).bind fun r hr => hr.accept ht value

/-- A flag given by its name would have no value. -/
theorem addLong (hflag : s.takesValue = false) {name : Text} {value : Option Text}
    (hname : name = s.name → value ≠ none) : Leaves s (r.addLong level name value) := by
  unfold Reading.addLong
  split
  · exact leaves_error _
  · next t hfind =>
    have htname : t.name = name := by simpa using List.find?_some hfind
    split
    · next hvalued =>
      have ht : t ≠ s := by
        rintro rfl
        rw [hflag] at hvalued
        cases hvalued
      exact h.addValued level ht value
    · split
      · exact leaves_error _
      · next hnone =>
        have ht : t ≠ s := by
          rintro rfl
          exact hname htname.symm (by simpa using hnone)
        exact h.addFlag level ht

omit h in
/-- Letters written together do not bring in a flag that has no letter. -/
theorem addCluster (hletter : s.letter? = none) {letters : Text} {r : Reading} (h : r.Lacks s) :
    Leaves s (r.addCluster level letters) := by
  induction letters generalizing r with
  | nil =>
    rintro next ⟨⟩
    exact h
  | cons c rest ih =>
    rw [Reading.addCluster]
    split
    · exact leaves_error _
    · next t hfind =>
      have ht : t ≠ s := by
        rintro rfl
        have hfound : t.letter? = some c := by simpa using List.find?_some hfind
        rw [hletter] at hfound
        cases hfound
      split
      · split
        · exact h.addValued level ht none
        · exact h.addValued level ht _
        · exact h.addValued level ht _
      · exact (h.addFlag level ht).bind fun r hr => ih hr

/-- Only its own word gives a flag that has no letter. -/
theorem add (hflag : s.takesValue = false) (hletter : s.letter? = none) {arg : Text}
    (harg : arg ≠ s.argument) : Leaves s (r.add level arg) := by
  unfold Reading.add
  split
  · exact h.addOperand level arg
  · split
    · exact h.update h.2 _ _
    · next name value hword =>
      refine h.addLong level hflag ?_
      rintro rfl rfl
      exact harg (Word.eq_of_ofText_long hword)
    · exact h.addCluster level hletter
    · split
      · next t hawaits =>
        have ht : t ≠ s := fun heq => h.2 none (heq ▸ pending_of_awaiting? hawaits)
        refine h.update ?_ _ _
        rintro value ⟨⟩
        exact ht rfl
      · exact h.addOperand level arg

/-- A flag that is not among the arguments is not read before the command. -/
theorem beforeCommand (hflag : s.takesValue = false) (hletter : s.letter? = none)
    {args : List Text} (hargs : s.argument ∉ args) {before : Reading}
    {found : Option (CommandName × List Text)}
    (hread : r.beforeCommand args = .ok (before, found)) :
    before.Lacks s ∧ ∀ name rest, found = some (name, rest) → rest ⊆ args := by
  induction args generalizing r with
  | nil =>
    cases hread
    exact ⟨h, nofun⟩
  | cons arg args ih =>
    have harg : s.argument ≠ arg := List.ne_of_not_mem_cons hargs
    have hargs : s.argument ∉ args := List.not_mem_of_not_mem_cons hargs
    rw [Reading.beforeCommand] at hread
    split at hread
    · cases hread
    · split at hread
      · cases hread
        refine ⟨h, ?_⟩
        rintro name rest ⟨⟩
        exact List.subset_cons_self arg _
      · cases hadd : r.add .program arg with
        | error refusal =>
          rw [hadd] at hread
          cases hread
        | ok next =>
          rw [hadd] at hread
          have hnext := h.add .program hflag hletter harg.symm next hadd
          obtain ⟨hbefore, hrest⟩ := ih hnext hargs hread
          exact ⟨hbefore, fun name rest hfound =>
            List.Subset.trans (hrest name rest hfound) (List.subset_cons_self arg args)⟩

/-- A flag that is not among the arguments is not read after the command. -/
theorem addAll (hflag : s.takesValue = false) (hletter : s.letter? = none) {args : List Text}
    (hargs : s.argument ∉ args) : Leaves s (r.addAll level args) := by
  induction args generalizing r with
  | nil => exact h.settle level
  | cons arg args ih =>
    have harg : s.argument ≠ arg := List.ne_of_not_mem_cons hargs
    have hargs : s.argument ∉ args := List.not_mem_of_not_mem_cons hargs
    exact (h.add level hflag hletter harg.symm).bind fun r hr => ih hr hargs

end Lacks

end Reading

/-- Arguments that do not hold the word for the strict grammar do not ask for it. -/
theorem Invocation.strict_of_not_mem {args : List Text} {inv : Invocation}
    (h : ofArguments args = .ok inv) (hargs : Switch.strict.argument ∉ args) :
    inv.strict = false := by
  obtain ⟨before, settled, after, name, rest, hbefore, hafter, -, hsettle, heq⟩ :=
    exists_readings h
  have hstart : Reading.start.Lacks .strict := ⟨rfl, fun _ => nofun⟩
  obtain ⟨hlacks, hrest⟩ := hstart.beforeCommand rfl rfl hargs hbefore
  have hfirst := hlacks.settle .program settled hsettle
  have hsecond := hstart.addAll (.command name) rfl rfl
    (fun hmem => hargs (hrest name rest rfl hmem)) after hafter
  rw [heq]
  exact Bool.or_eq_false_iff.mpr ⟨hfirst.1, hsecond.1⟩

end RepoIdentity.CommandLine

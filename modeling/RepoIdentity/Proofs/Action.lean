import RepoIdentity.Program

/-!
# What a run writes

A run is put together from pieces that write lines and may fail. What a run of pieces
comes to is said by `Action.bind_of_ok` and `Action.bind_of_error`, and every property of
runs below goes from the pieces to the whole along these two.

* Notes are written under one verbosity alone (`writes_note`); `notesAt` is what notes come
  to as writes, `noteLines` as text.
* Two actions are `Similar` if they end alike and write the same to the streams that are
  kept in view. Handlers are similar under any two verbosities as far as the exit code goes,
  and as far as the output goes under two that both let it be shown
  (`Context.similar_execute`): no handler decides by the verbosity what to do.
* `run_of_ofArguments`, `run_of_similar` — runs of whole command lines.
-/

namespace RepoIdentity

open CommandLine (Command Invocation Refusal)

-- ---------------------------------------------------------------------------
-- One action after another
-- ---------------------------------------------------------------------------

namespace Action

variable {ε α β : Type} {x : Action α} {f : α → Action β}

/-- An action that ended well is followed by the next one. -/
theorem bind_of_ok {a : α} (h : x.result = .ok a) :
    x >>= f = ⟨x.writes ++ (f a).writes, (f a).result⟩ := by
  obtain ⟨writes, result⟩ := x
  obtain rfl : result = .ok a := h
  rfl

/-- A failure ends a run, and what was written before stays written. -/
theorem bind_of_error {failure : Failure} (h : x.result = .error failure) :
    x >>= f = ⟨x.writes, .error failure⟩ := by
  obtain ⟨writes, result⟩ := x
  obtain rfl : result = .error failure := h
  rfl

/-- A result that there is costs no writes. -/
theorem ofExcept_bind_of_ok {failure : ε → Failure} {result : Except ε α} {a : α}
    (h : result = .ok a) : ofExcept failure result >>= f = f a := by
  rw [h]
  rfl

/-- A fault ends a run before anything is written. -/
theorem ofExcept_bind_of_error {failure : ε → Failure} {result : Except ε α} {fault : ε}
    (h : result = .error fault) : ofExcept failure result >>= f = ⟨[], .error (failure fault)⟩ := by
  rw [h]
  rfl

end Action

-- ---------------------------------------------------------------------------
-- Text on a stream
-- ---------------------------------------------------------------------------

/-- What is written later stands later. -/
@[simp] theorem textOn_append (stream : Stream) (a b : List Write) :
    textOn stream (a ++ b) = textOn stream a ++ textOn stream b := by
  simp [textOn]

@[simp] theorem textOn_singleton (stream : Stream) (s : Text) :
    textOn stream [⟨stream, s⟩] = s := by
  simp [textOn]

/-- What goes to other streams leaves no text. -/
theorem textOn_eq_nil {stream : Stream} {writes : List Write}
    (h : ∀ x ∈ writes, x.stream ≠ stream) : textOn stream writes = [] := by
  have hnone : writes.filter (fun x => x.stream = stream) = [] := by
    rw [List.filter_eq_nil_iff]
    intro x hx
    simpa using h x hx
  rw [textOn, hnone]
  rfl

-- ---------------------------------------------------------------------------
-- Notes
-- ---------------------------------------------------------------------------

/-- A note as it is written. -/
def noteWrite (message : Text) : Write := ⟨.errors, "[debug] ".toList ++ message ++ ['\n']⟩

/-- Notes as they are written: all of them if all is to be said, and none otherwise. -/
def notesAt (v : Verbosity) (messages : List Text) : List Write :=
  if v = .debug then messages.map noteWrite else []

/-- The text of notes, each on a line of its own. -/
def noteLines (v : Verbosity) (messages : List Text) : Text :=
  if v = .debug then messages.flatMap fun message => "[debug] ".toList ++ message ++ ['\n']
  else []

section

variable (v : Verbosity)

theorem notesAt_nil : notesAt v [] = [] := by
  cases v <;> rfl

/-- Notes are written in order. -/
theorem notesAt_append (a b : List Text) : notesAt v (a ++ b) = notesAt v a ++ notesAt v b := by
  by_cases h : v = .debug
  · simp [notesAt, h]
  · simp [notesAt, h]

/-- Notes are written only if all is to be said. -/
theorem notesAt_of_ne (h : v ≠ .debug) (messages : List Text) : notesAt v messages = [] :=
  if_neg h

theorem noteLines_of_ne (h : v ≠ .debug) (messages : List Text) : noteLines v messages = [] :=
  if_neg h

/-- Notes go to the stream for errors, -/
theorem textOn_notesAt (messages : List Text) :
    textOn .errors (notesAt v messages) = noteLines v messages := by
  by_cases h : v = .debug
  · rw [notesAt, noteLines, if_pos h, if_pos h]
    induction messages with
    | nil => rfl
    | cons message messages ih =>
      rw [List.map_cons, ← List.singleton_append, textOn_append, ih, List.flatMap_cons, noteWrite,
        textOn_singleton]
  · rw [notesAt_of_ne v h, noteLines_of_ne v h]
    rfl

/-- and to no other. -/
theorem textOn_output_notesAt (messages : List Text) :
    textOn .output (notesAt v messages) = [] := by
  refine textOn_eq_nil fun x hx => ?_
  by_cases h : v = .debug
  · rw [notesAt, if_pos h] at hx
    obtain ⟨message, -, rfl⟩ := List.mem_map.mp hx
    show Stream.errors ≠ Stream.output
    decide
  · rw [notesAt_of_ne v h] at hx
    cases hx

end

namespace Verbosity

variable (v : Verbosity) (message : Text)

@[simp] theorem result_note : (v.note message).result = .ok () := by
  unfold note
  split <;> rfl

@[simp] theorem result_print : (v.print message).result = .ok () := by
  unfold print
  split <;> rfl

@[simp] theorem result_warn : (v.warn message).result = .ok () := by
  unfold warn
  split <;> rfl

/-- A note as what it writes. -/
theorem writes_note : (v.note message).writes = notesAt v [message] := by
  unfold note notesAt
  split <;> rfl

/-- A message for the reader is written to the output, but by a quiet run. -/
theorem print_eq :
    v.print message = ⟨if v = .quiet then [] else [⟨.output, message ++ ['\n']⟩], .ok ()⟩ := by
  unfold print
  split <;> rfl

/-- A note comes before all that follows. -/
theorem note_bind {α : Type} (f : Unit → Action α) :
    v.note message >>= f = ⟨notesAt v [message] ++ (f ()).writes, (f ()).result⟩ := by
  rw [Action.bind_of_ok (v.result_note message), writes_note]

end Verbosity

-- ---------------------------------------------------------------------------
-- Similar actions
-- ---------------------------------------------------------------------------

/-- Two actions that end alike, and write the same to the output if that is kept in view. -/
structure Similar {α : Type} (kept : Bool) (x y : Action α) : Prop where
  result : x.result = y.result
  output : kept = true → textOn .output x.writes = textOn .output y.writes

namespace Similar

variable {α β : Type} {kept : Bool}

theorem refl (x : Action α) : Similar kept x x := ⟨rfl, fun _ => rfl⟩

/-- Similar actions may be followed by similar actions. -/
theorem bind {x y : Action α} {f g : α → Action β} (h : Similar kept x y)
    (hnext : ∀ a, Similar kept (f a) (g a)) : Similar kept (x >>= f) (y >>= g) := by
  cases hresult : x.result with
  | error failure =>
    rw [Action.bind_of_error hresult, Action.bind_of_error (h.result.symm.trans hresult)]
    exact ⟨rfl, h.output⟩
  | ok a =>
    rw [Action.bind_of_ok hresult, Action.bind_of_ok (h.result.symm.trans hresult)]
    refine ⟨(hnext a).result, fun hkept => ?_⟩
    rw [textOn_append, textOn_append, h.output hkept, (hnext a).output hkept]

/-- Actions that never fail and leave the output alone are all similar. -/
theorem of_silent {x y : Action Unit} (hx : x.result = .ok ()) (hy : y.result = .ok ())
    (hx' : textOn .output x.writes = []) (hy' : textOn .output y.writes = []) :
    Similar kept x y :=
  ⟨hx.trans hy.symm, fun _ => hx'.trans hy'.symm⟩

end Similar

section

variable {kept : Bool} (v v' : Verbosity)

/-- Notes do not show in the output. -/
theorem similar_note (message : Text) : Similar kept (v.note message) (v'.note message) := by
  refine .of_silent (v.result_note message) (v'.result_note message) ?_ ?_
  · rw [Verbosity.writes_note, textOn_output_notesAt]
  · rw [Verbosity.writes_note, textOn_output_notesAt]

theorem textOn_output_warn (message : Text) : textOn .output (v.warn message).writes = [] := by
  unfold Verbosity.warn
  split <;> rfl

/-- Warnings do not show in the output. -/
theorem similar_warn (message : Text) : Similar kept (v.warn message) (v'.warn message) :=
  .of_silent (v.result_warn message) (v'.result_warn message) (textOn_output_warn v message)
    (textOn_output_warn v' message)

/-- A message for the reader is the same unless one of the runs is quiet. -/
theorem similar_print {v v' : Verbosity} (h : kept = true → v ≠ .quiet ∧ v' ≠ .quiet)
    (message : Text) : Similar kept (v.print message) (v'.print message) := by
  rw [v.print_eq, v'.print_eq]
  refine ⟨rfl, fun hkept => ?_⟩
  obtain ⟨hv, hv'⟩ := h hkept
  rw [if_neg hv, if_neg hv']

end

-- ---------------------------------------------------------------------------
-- Commands under two verbosities
-- ---------------------------------------------------------------------------

/-- Whether a command is asked for a document. -/
def CommandLine.Command.wantsJson : Command → Bool
  | .parse _ _ _ json => json
  | .describe _ _ json => json
  | .validate _ => false
  | .compare _ _ _ _ => false
  | .completion _ => false

/-- Whether a command writes a completion script. -/
def CommandLine.Command.isCompletion : Command → Bool
  | .completion _ => true
  | _ => false

namespace Context

/-- The context with another verbosity. -/
def withVerbosity (c : Context) (v : Verbosity) : Context := { c with verbosity := v }

variable {kept : Bool} {v v' : Verbosity} (c : Context)

/-- A document is written under every verbosity, and lines under all but one. -/
theorem similar_emit {json : Bool} (h : kept = true → json = false → v ≠ .quiet ∧ v' ≠ .quiet)
    (r : Reference) :
    Similar kept ((c.withVerbosity v).emit r json) ((c.withVerbosity v').emit r json) := by
  cases json with
  | true => exact .refl _
  | false => exact similar_print (fun hkept => h hkept rfl) r.describe

/-- A command comes to the same under any two verbosities, and writes the same output if it
is asked for a document, or if neither is quiet. -/
theorem similar_execute (w : Wording) (fs : FileSystem) {command : Command}
    (h : kept = true → command.wantsJson = false → v ≠ .quiet ∧ v' ≠ .quiet) :
    Similar kept ((c.withVerbosity v).execute w fs command)
      ((c.withVerbosity v').execute w fs command) := by
  -- handlers are put together by `bind`, and so is what they have in common
  cases command with
  | parse input tags validate json =>
    refine .bind (.refl _) fun r => ?_
    refine .bind (similar_note v v' _) fun _ => ?_
    refine .bind (.refl _) fun _ => ?_
    exact similar_emit c h _
  | describe path tags json =>
    have hwarn : Similar kept ((c.withVerbosity v).warnOfAbsence fs path)
        ((c.withVerbosity v').warnOfAbsence fs path) := by
      unfold warnOfAbsence
      split
      · exact .refl _
      · exact similar_warn v v' _
    exact .bind hwarn fun _ => similar_emit c h _
  | validate input =>
    refine .bind (.refl _) fun r => ?_
    refine .bind (.refl _) fun _ => ?_
    cases r.canonicalUrl? with
    | none => exact .refl _
    | some url => exact similar_print (fun hkept => h hkept rfl) _
  | compare first second tagsFirst tagsSecond =>
    refine .bind (.refl _) fun a => ?_
    refine .bind (.refl _) fun b => ?_
    refine .bind (similar_note v v' _) fun _ => ?_
    exact similar_print (fun hkept => h hkept rfl) _
  | completion shell => exact .refl _

/-- What is told of the configuration does not show in the output. -/
theorem similar_announce :
    Similar kept (c.withVerbosity v).announce (c.withVerbosity v').announce :=
  .bind (similar_note v v' _) fun _ => similar_note v v' _

end Context

/-- Invocations that differ in their verbosity alone come to the same. -/
theorem CommandLine.Invocation.similar_execute {kept : Bool} (w : Wording) (inv : Invocation)
    (quiet debug : Bool) (env : Environment) (fs : FileSystem)
    (h : kept = true → inv.command.wantsJson = false →
      inv.verbosity ≠ .quiet ∧ Verbosity.ofFlags quiet debug ≠ .quiet) :
    Similar kept (inv.execute w env fs)
      ({ inv with quiet := quiet, debug := debug }.execute w env fs) := by
  refine .bind (.refl _) fun configuration => ?_
  refine .bind ?_ fun _ => ?_
  · exact Context.similar_announce (Context.ofInvocation inv configuration)
  · exact Context.similar_execute (Context.ofInvocation inv configuration) w fs h

-- ---------------------------------------------------------------------------
-- Runs
-- ---------------------------------------------------------------------------

/-- A run is quiet if it is asked to, whatever else it is asked for. -/
theorem verbosity_eq_quiet_iff {inv : Invocation} :
    inv.verbosity = .quiet ↔ inv.quiet = true := by
  rw [CommandLine.Invocation.verbosity, Verbosity.ofFlags]
  cases inv.quiet with
  | true => simp
  | false => cases inv.debug <;> simp

/-- Whether lines are shown depends on one flag. -/
theorem if_verbosity_quiet {α : Type} (inv : Invocation) (a b : α) :
    (if inv.verbosity = .quiet then a else b) = if inv.quiet then a else b := by
  simp only [verbosity_eq_quiet_iff]

section

variable {w : Wording} {args : List Text} {inv : Invocation} {env : Environment} {fs : FileSystem}

theorem transcript_of_ofArguments (h : Invocation.ofArguments args = .ok inv) :
    transcript w args env fs = (inv.execute w env fs).transcript w := by
  rw [transcript, h]

/-- A run that gets as far as a command is what that comes to. -/
theorem run_of_ofArguments (h : Invocation.ofArguments args = .ok inv) :
    run w args env fs = ((inv.execute w env fs).transcript w).outcome := by
  rw [run, transcript_of_ofArguments h]

end

namespace Action

variable {w : Wording} {x y : Action Unit}

/-- An action that ends well leaves its writes, -/
theorem outcome_of_ok (h : x.result = .ok ()) :
    (x.transcript w).outcome = ⟨0, textOn .output x.writes, textOn .errors x.writes⟩ := by
  rw [transcript, h]
  rfl

/-- and one that fails leaves them with its report at their end. -/
theorem outcome_of_error {failure : Failure} (h : x.result = .error failure) :
    (x.transcript w).outcome = ⟨1, textOn .output x.writes,
      textOn .errors x.writes ++ ("error: ".toList ++ failure.message w ++ ['\n'])⟩ := by
  rw [transcript, h]
  show Outcome.mk 1 (textOn .output (x.writes ++ [_])) (textOn .errors (x.writes ++ [_])) = _
  have hreport : textOn .output [failure.report w] = [] := rfl
  rw [textOn_append, textOn_append, hreport, List.append_nil]
  congr 2
  exact textOn_singleton .errors _

/-- Similar runs exit alike, -/
theorem exitCode_of_similar {kept : Bool} (h : Similar kept x y) :
    (x.transcript w).outcome.exitCode = (y.transcript w).outcome.exitCode := by
  cases hresult : x.result with
  | ok done => rw [outcome_of_ok hresult, outcome_of_ok (h.result.symm.trans hresult)]
  | error failure => rw [outcome_of_error hresult, outcome_of_error (h.result.symm.trans hresult)]

/-- and leave the same output if that is kept in view. -/
theorem stdout_of_similar (h : Similar true x y) :
    (x.transcript w).outcome.stdout = (y.transcript w).outcome.stdout := by
  cases hresult : x.result with
  | ok done =>
    rw [outcome_of_ok hresult, outcome_of_ok (h.result.symm.trans hresult)]
    exact h.output rfl
  | error failure =>
    rw [outcome_of_error hresult, outcome_of_error (h.result.symm.trans hresult)]
    exact h.output rfl

end Action

end RepoIdentity

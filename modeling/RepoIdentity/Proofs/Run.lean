import RepoIdentity.Reference.Basic

/-!
# Runs of requests

A method works on the reference itself, so that a fault could leave it half changed. No
method does: what can fail comes before what changes something (`Method.Checks`), and a
method made of checks and then one change is all or nothing (`Method.Checks.bind`).

A reference has two halves, and no request mixes them: where it points depends on
the requests to point it elsewhere alone, and its tags on the requests about tags
alone (`after_eq`). A local directory is never left again, whatever is asked
(`locatorAfter_directory`).

* `Method.Atomic`, `Change.atomic_method` — a method that fails changes nothing, and all
  are such;
* `Change.locatorAfter`, `Change.tagsAfter` — the two halves of a request;
* `Reference.after_eq` — a run is a run of either half;
* `Reference.RunLaws`, `Reference.runLaws` — what holds along every run, with
  requests that succeed and requests that fail in any order.
-/

namespace RepoIdentity

-- ---------------------------------------------------------------------------
-- Methods
-- ---------------------------------------------------------------------------

namespace Method

variable {α β : Type} {m : Method α} {f : α → Method β} {r after : Reference}

/-- A method goes on with what the one before it gave, and left. -/
theorem on_bind_of_ok {a : α} (h : m.on r = (.ok a, after)) :
    (m >>= f).on r = (f a).on after := by
  have hrun : (ExceptT.run m).run r = (.ok a, after) := h
  show (ExceptT.run (m >>= f)).run r = _
  rw [ExceptT.run_bind, StateT.run_bind, hrun]
  rfl

/-- A fault ends a method, and what was changed before stays changed. -/
theorem on_bind_of_error {fault : Fault} (h : m.on r = (.error fault, after)) :
    (m >>= f).on r = (.error fault, after) := by
  have hrun : (ExceptT.run m).run r = (.error fault, after) := h
  show (ExceptT.run (m >>= f)).run r = _
  rw [ExceptT.run_bind, StateT.run_bind, hrun]
  rfl

@[simp] theorem on_ofExcept (result : Except Fault α) (r : Reference) :
    (ofExcept result).on r = (result, r) := rfl

@[simp] theorem on_setMetadata (tags : List Text) (r : Reference) :
    (setMetadata tags).on r = (.ok (), r.setMetadata tags) := rfl

@[simp] theorem on_appendMetadata (tags : List Text) (r : Reference) :
    (appendMetadata tags).on r = (.ok (), r.appendMetadata tags) := rfl

@[simp] theorem on_validate (r : Reference) : validate.on r = (r.validate, r) := rfl

/-- A reference of the kind passes, and any other is told what kind it is. -/
theorem on_requireKind (expected : Kind) (r : Reference) :
    (requireKind expected).on r =
      (if r.kind = expected then .ok () else .error (.wrongKind expected r.kind), r) := by
  have hrun : (requireKind expected).on r = ((if r.kind = expected then pure ()
      else throw (.wrongKind expected r.kind) : Method Unit)).on r := rfl
  rw [hrun]
  split <;> rfl

/-- A directory is pointed nowhere else, by no input of either grammar. -/
theorem on_setUrl_of_directory {path : Text} (h : r.locator = .directory path) (input : Text)
    (mode : Mode) : (setUrl input mode).on r = (.error (.wrongKind .url .localDirectory), r) := by
  have hkind : r.kind = .localDirectory := by
    rw [Reference.kind, h]
    rfl
  have hrequire : (requireKind .url).on r = (.error (.wrongKind .url .localDirectory), r) := by
    rw [on_requireKind, hkind]
    rfl
  exact on_bind_of_error hrequire

/-- A hosted repository gives way to whatever the input names, if it names anything. -/
theorem on_setUrl_of_hosted {repository : Hosted} (h : r.locator = .hosted repository)
    (input : Text) (mode : Mode) :
    (setUrl input mode).on r =
      match Locator.parse input mode with
      | .ok locator => (.ok (), { r with locator })
      | .error fault => (.error fault, r) := by
  have hkind : r.kind = .url := by
    rw [Reference.kind, h]
    rfl
  have hrequire : (requireKind .url).on r = (.ok (), r) := by
    rw [on_requireKind, if_pos hkind]
  refine (on_bind_of_ok hrequire).trans ?_
  have hparse := on_ofExcept (Locator.parse input mode) r
  cases hlocator : Locator.parse input mode with
  | error fault =>
    rw [hlocator] at hparse
    exact on_bind_of_error hparse
  | ok locator =>
    rw [hlocator] at hparse
    exact on_bind_of_ok hparse

/-- The method looks at the reference and leaves it as it is. -/
def Checks (m : Method α) : Prop := ∀ r, (m.on r).2 = r

/-- If the method fails it leaves the reference as it is. -/
def Atomic (m : Method α) : Prop := ∀ r fault after, m.on r = (.error fault, after) → after = r

/-- What changes nothing changes nothing before it fails. -/
theorem Checks.atomic (h : m.Checks) : m.Atomic := by
  intro r fault after hfails
  have hafter := h r
  rwa [hfails] at hafter

/-- A method that checks first, and is all or nothing from there, is all or nothing. -/
theorem Checks.bind (h : m.Checks) (hf : ∀ a, (f a).Atomic) : (m >>= f).Atomic := by
  intro r fault after hfails
  -- the check leaves the reference as it is, so that the rest starts from there
  obtain ⟨result, left, hm⟩ : ∃ result left, m.on r = (result, left) := ⟨_, _, rfl⟩
  have hleft : left = r := by
    have hafter := h r
    rwa [hm] at hafter
  subst hleft
  cases result with
  | error fault' =>
    rw [on_bind_of_error hm] at hfails
    exact (Prod.mk.inj hfails).2.symm
  | ok a =>
    rw [on_bind_of_ok hm] at hfails
    exact hf a left fault after hfails

/-- A method that never fails is all or nothing. -/
theorem atomic_of_ok {change : Reference → Reference} {a : α}
    (h : ∀ r, m.on r = (.ok a, change r)) : m.Atomic := by
  intro r fault after hfails
  rw [h r] at hfails
  cases hfails

/-- Giving a result changes no reference. -/
theorem checks_ofExcept (result : Except Fault α) : (ofExcept result).Checks := fun _ => rfl

/-- Requiring a kind changes no reference. -/
theorem checks_requireKind (expected : Kind) : (requireKind expected).Checks := by
  intro r
  rw [on_requireKind]

/-- Validating changes no reference. -/
theorem checks_validate : validate.Checks := fun _ => rfl

/-- A reference is pointed elsewhere after its kind was checked and the input was read. -/
theorem atomic_setUrl (input : Text) (mode : Mode) : (setUrl input mode).Atomic := by
  refine (checks_requireKind .url).bind fun _ => ?_
  refine (checks_ofExcept (Locator.parse input mode)).bind fun locator => ?_
  -- the assignment comes last and cannot fail
  intro r fault after hfails
  cases hfails

end Method

namespace Change

-- ---------------------------------------------------------------------------
-- The two halves of a request
-- ---------------------------------------------------------------------------

/-- Whether a request points the reference elsewhere. -/
def isSetUrl : Change → Bool
  | .setUrl _ _ => true
  | _ => false

/-- Whether a request replaces the tags. -/
def isSetMetadata : Change → Bool
  | .setMetadata _ => true
  | _ => false

/-- The tags that a request appends. -/
def appended : Change → List Text
  | .appendMetadata tags => tags
  | _ => []

/-- Where a reference points after a request. -/
def locatorAfter (locator : Locator) : Change → Locator
  | .setUrl input mode =>
    match locator, Locator.parse input mode with
    | .hosted _, .ok found => found
    | _, _ => locator
  | _ => locator

/-- The tags of a reference after a request. -/
def tagsAfter (tags : List Text) : Change → List Text
  | .setMetadata new => new
  | change => tags ++ change.appended

/-- No request points a directory elsewhere. -/
@[simp] theorem locatorAfter_directory (path : Text) (change : Change) :
    locatorAfter (.directory path) change = .directory path := by
  cases change with
  | setUrl input mode => rfl
  | setMetadata tags => rfl
  | appendMetadata tags => rfl
  | validate => rfl

/-- Requests about tags leave the locator alone. -/
theorem locatorAfter_of_not_setUrl {change : Change} (h : change.isSetUrl = false)
    (locator : Locator) : change.locatorAfter locator = locator := by
  cases change with
  | setUrl input mode => cases h
  | setMetadata tags => rfl
  | appendMetadata tags => rfl
  | validate => rfl

/-- Unless tags are set they are only added to. -/
theorem tagsAfter_of_not_setMetadata {change : Change} (h : change.isSetMetadata = false)
    (tags : List Text) : change.tagsAfter tags = tags ++ change.appended := by
  cases change with
  | setMetadata new => cases h
  | setUrl input mode => rfl
  | appendMetadata new => rfl
  | validate => rfl

-- ---------------------------------------------------------------------------
-- One request
-- ---------------------------------------------------------------------------

/-- Every request is all or nothing. -/
theorem atomic_method (change : Change) : change.method.Atomic := by
  cases change with
  | setUrl input mode => exact Method.atomic_setUrl input mode
  | setMetadata tags => exact Method.atomic_of_ok (Method.on_setMetadata tags)
  | appendMetadata tags => exact Method.atomic_of_ok (Method.on_appendMetadata tags)
  | validate => exact Method.checks_validate.atomic

/-- A request does what its method does if that succeeds. -/
theorem apply_of_ok {r after : Reference} {change : Change}
    (h : change.method.on r = (.ok (), after)) : change.apply r = (after, none) := by
  rw [apply, h]

/-- A request whose method fails gives its fault. -/
theorem apply_of_error {r after : Reference} {change : Change} {fault : Fault}
    (h : change.method.on r = (.error fault, after)) : change.apply r = (after, some fault) := by
  rw [apply, h]

/-- A request that fails changes nothing. -/
theorem apply_of_fault {r : Reference} {change : Change} {fault : Fault}
    (h : (change.apply r).2 = some fault) : (change.apply r).1 = r := by
  obtain ⟨result, after, hmethod⟩ : ∃ result after, change.method.on r = (result, after) :=
    ⟨_, _, rfl⟩
  cases result with
  | ok done =>
    rw [apply_of_ok hmethod] at h
    cases h
  | error fault' =>
    rw [apply_of_error hmethod]
    exact change.atomic_method r fault' after hmethod

/-- A check changes nothing, whatever it finds. -/
theorem apply_validate_fst (r : Reference) : (apply r .validate).1 = r := by
  have hmethod : Change.validate.method.on r = (r.validate, r) := Method.on_validate r
  rw [apply, hmethod]
  cases r.validate <;> rfl

/-- A directory cannot be pointed elsewhere. -/
theorem apply_setUrl_of_directory {r : Reference} {path : Text} (h : r.locator = .directory path)
    (input : Text) (mode : Mode) :
    (Change.setUrl input mode).apply r = (r, some (.wrongKind .url .localDirectory)) :=
  apply_of_error (Method.on_setUrl_of_directory h input mode)

/-- A repository is pointed to where the text says, or left alone. -/
theorem apply_setUrl_of_hosted {r : Reference} {repository : Hosted}
    (h : r.locator = .hosted repository) (input : Text) (mode : Mode) :
    (Change.setUrl input mode).apply r =
      match Locator.parse input mode with
      | .ok locator => ({ r with locator }, none)
      | .error fault => (r, some fault) := by
  have hmethod := Method.on_setUrl_of_hosted h input mode
  cases hlocator : Locator.parse input mode with
  | ok locator =>
    rw [hlocator] at hmethod
    exact apply_of_ok hmethod
  | error fault =>
    rw [hlocator] at hmethod
    exact apply_of_error hmethod

/-- A request does to either half what it does to it alone. -/
theorem apply_fst (r : Reference) (change : Change) :
    (change.apply r).1 = ⟨change.locatorAfter r.locator, change.tagsAfter r.metadata⟩ := by
  cases change with
  | setUrl input mode =>
    obtain ⟨locator, tags⟩ := r
    have htags : tagsAfter tags (.setUrl input mode) = tags := List.append_nil tags
    cases locator with
    | directory path =>
      rw [htags, apply_setUrl_of_directory rfl]
      rfl
    | hosted repository =>
      rw [htags, apply_setUrl_of_hosted rfl]
      cases hparse : Locator.parse input mode with
      | error fault => simp [locatorAfter, hparse]
      | ok found => simp [locatorAfter, hparse]
  | setMetadata tags => rfl
  | appendMetadata tags => rfl
  | validate =>
    have htags : tagsAfter r.metadata .validate = r.metadata := List.append_nil _
    rw [htags, apply_validate_fst]
    rfl

/-- A reference that was pointed elsewhere points to what the input names. -/
theorem apply_setUrl_of_success {r : Reference} {input : Text} {mode : Mode}
    (h : (apply r (.setUrl input mode)).2 = none) :
    ∃ locator, Locator.parse input mode = .ok locator ∧
      (apply r (.setUrl input mode)).1 = ⟨locator, r.metadata⟩ := by
  cases hlocator : r.locator with
  | directory path =>
    rw [apply_setUrl_of_directory hlocator] at h
    cases h
  | hosted repository =>
    rw [apply_setUrl_of_hosted hlocator] at h ⊢
    cases hparse : Locator.parse input mode with
    | error fault =>
      rw [hparse] at h
      cases h
    | ok locator => exact ⟨locator, rfl, rfl⟩

end Change

-- ---------------------------------------------------------------------------
-- Runs
-- ---------------------------------------------------------------------------

namespace Reference

theorem eq_of_halves {r : Reference} {locator : Locator} {tags : List Text}
    (hlocator : r.locator = locator) (htags : r.metadata = tags) : r = ⟨locator, tags⟩ := by
  rw [← hlocator, ← htags]

/-- Runs one after the other are one run. -/
theorem after_append (r : Reference) (changes later : List Change) :
    r.after (changes ++ later) = (r.after changes).after later := by
  rw [after, List.foldl_append]
  rfl

/-- The last request of a run comes last. -/
theorem after_concat (r : Reference) (changes : List Change) (change : Change) :
    r.after (changes ++ [change]) = (change.apply (r.after changes)).1 := by
  rw [after_append]
  rfl

/-- A run does to either half what it does to it alone. -/
theorem after_eq (r : Reference) (changes : List Change) :
    r.after changes = ⟨changes.foldl Change.locatorAfter r.locator,
      changes.foldl Change.tagsAfter r.metadata⟩ := by
  induction changes generalizing r with
  | nil => rfl
  | cons change changes ih =>
    show ((change.apply r).1).after changes = _
    rw [ih, Change.apply_fst]
    rfl

/-- No run points a directory elsewhere. -/
theorem foldl_locatorAfter_directory (path : Text) (changes : List Change) :
    changes.foldl Change.locatorAfter (.directory path) = .directory path := by
  induction changes with
  | nil => rfl
  | cons change changes ih => rw [List.foldl_cons, Change.locatorAfter_directory, ih]

/-- Requests about tags, and checks, do not count for where a reference points. -/
theorem foldl_locatorAfter_filter (locator : Locator) (changes : List Change) :
    (changes.filter Change.isSetUrl).foldl Change.locatorAfter locator =
      changes.foldl Change.locatorAfter locator := by
  induction changes generalizing locator with
  | nil => rfl
  | cons change changes ih =>
    cases hchange : change.isSetUrl with
    | true => rw [List.filter_cons_of_pos hchange, List.foldl_cons, List.foldl_cons, ih]
    | false =>
      rw [List.filter_cons_of_neg (by simp [hchange]), ih, List.foldl_cons,
        Change.locatorAfter_of_not_setUrl hchange]

/-- A run that never sets tags adds to them, in order. -/
theorem foldl_tagsAfter (tags : List Text) {changes : List Change}
    (h : ∀ change ∈ changes, change.isSetMetadata = false) :
    changes.foldl Change.tagsAfter tags = tags ++ changes.flatMap Change.appended := by
  induction changes generalizing tags with
  | nil => simp
  | cons change changes ih =>
    have hfirst := Change.tagsAfter_of_not_setMetadata (h change (by simp)) tags
    rw [List.foldl_cons, hfirst, ih _ fun c hc => h c (List.mem_cons_of_mem change hc)]
    simp

/-- The laws of a run of requests, as far as it has come. -/
structure RunLaws (r : Reference) (changes : List Change) : Prop where
  /-- The next request leaves all as it is if it fails, -/
  of_fault : ∀ change fault, (change.apply (r.after changes)).2 = some fault →
    r.after (changes ++ [change]) = r.after changes
  /-- and a check does so even if it succeeds. -/
  of_validate : r.after (changes ++ [.validate]) = r.after changes
  /-- A reference that is pointed elsewhere keeps its tags. -/
  of_setUrl : ∀ input mode, ((Change.setUrl input mode).apply (r.after changes)).2 = none →
    ∃ locator, Locator.parse input mode = .ok locator ∧
      r.after (changes ++ [.setUrl input mode]) = ⟨locator, (r.after changes).metadata⟩
  /-- A directory stays the same directory, and refuses to be pointed elsewhere. -/
  of_directory : ∀ path, (r.after changes).locator = .directory path → ∀ later,
    (r.after (changes ++ later)).locator = .directory path ∧
    ∀ input mode, ((Change.setUrl input mode).apply (r.after (changes ++ later))).2 =
      some (.wrongKind .url .localDirectory)
  /-- The tags are those of the last replacement and all that were appended since, -/
  tags_since : ∀ tags later, (∀ change ∈ later, change.isSetMetadata = false) →
    (r.after (changes ++ .setMetadata tags :: later)).metadata =
      tags ++ later.flatMap Change.appended
  /-- or those from the beginning if they were never replaced. -/
  tags_from_start : (∀ change ∈ changes, change.isSetMetadata = false) →
    (r.after changes).metadata = r.metadata ++ changes.flatMap Change.appended
  /-- The locator is the same after every run with the same requests for it. -/
  locator_of_setUrls : ∀ (r' : Reference) (changes' : List Change), r'.locator = r.locator →
    changes'.filter Change.isSetUrl = changes.filter Change.isSetUrl →
    (r'.after changes').locator = (r.after changes).locator

/-- Requests are all or nothing, a directory is never left, and where a reference points
and what its tags are depend on the requests for that alone, along every run. -/
theorem runLaws (r : Reference) (changes : List Change) : r.RunLaws changes where
  of_fault := by
    intro change fault h
    rw [after_concat, Change.apply_of_fault h]
  of_validate := by rw [after_concat, Change.apply_validate_fst]
  of_setUrl := by
    intro input mode h
    rw [after_concat]
    exact Change.apply_setUrl_of_success h
  of_directory := by
    intro path h later
    have hstays : (r.after (changes ++ later)).locator = .directory path := by
      rw [after_append, after_eq (r.after changes), h]
      exact foldl_locatorAfter_directory path later
    refine ⟨hstays, ?_⟩
    intro input mode
    rw [Change.apply_setUrl_of_directory hstays]
  tags_since := by
    intro tags later h
    rw [after_append, after_eq]
    exact foldl_tagsAfter tags h
  tags_from_start := by
    intro h
    rw [after_eq]
    exact foldl_tagsAfter r.metadata h
  locator_of_setUrls := by
    intro r' changes' hlocator hchanges
    have hfold := foldl_locatorAfter_filter r.locator changes
    have hfold' := foldl_locatorAfter_filter r.locator changes'
    rw [hchanges] at hfold'
    rw [after_eq r', after_eq r, hlocator]
    exact hfold'.symm.trans hfold

/-- A run in which two requests fail: one on a hosted repository, and one after that
gave way to a directory. -/
theorem runLaws_of_two_failures :
    (ofLocator (.hosted ⟨"h".toList, "o".toList, "n".toList⟩)).after
        ([.setUrl "word".toList .legacy, .setUrl "file:///d".toList .strict] ++
          .setMetadata ["y".toList] ::
            [.setUrl "a/b".toList .legacy, .appendMetadata ["z".toList]]) =
      ⟨.directory "/d".toList, ["y".toList, "z".toList]⟩ := by
  have hlaws := runLaws (ofLocator (.hosted ⟨"h".toList, "o".toList, "n".toList⟩))
    [.setUrl "word".toList .legacy, .setUrl "file:///d".toList .strict]
  have hplace := (hlaws.of_directory "/d".toList (by decide +kernel) (.setMetadata ["y".toList] ::
    [.setUrl "a/b".toList .legacy, .appendMetadata ["z".toList]])).1
  have htags := hlaws.tags_since ["y".toList]
    [.setUrl "a/b".toList .legacy, .appendMetadata ["z".toList]] (by simp [Change.isSetMetadata])
  exact eq_of_halves hplace htags

end Reference

end RepoIdentity

import RepoIdentity.Proofs.FilePath
import RepoIdentity.Proofs.Shorthand

/-!
# Why a text is refused

A text is refused at the first stage that it does not pass: for its slashes or its scheme
before there is a URL, then by the reader of URLs, and last for the path of the URL, which
has to be UTF-8 and to have an owner and a name. So it is refused for one reason, however
much is wrong with it. The legacy grammar fills in what is missing, and what is read is
then another text than the one that was given; the fault carries the one that was given.

* `StandsFor` — the URL that a grammar takes a text for, and `elaborate_eq_ok_iff`,
  `elaborate_eq_error_iff`, that this is what the legacy grammar elaborates;
* `UrlRefuses`, `hostedOfUrl_eq_error_iff` — the reasons that lie in a URL;
* `Refuses`, `read_eq_error_iff` — all reasons, by the grammar, and
  `refuses_tooFewSegments_iff`, …, `refuses_noOwnerAndName_iff`, when each is there;
* `Locator.FaultLaws`, `Locator.faultLaws` — each reason, and exactly when it is given.
-/

namespace RepoIdentity

namespace Grammar

-- ---------------------------------------------------------------------------
-- The URL that a text stands for
-- ---------------------------------------------------------------------------

/-- `StandsFor s mode url`: the grammar takes the text for the URL. -/
inductive StandsFor (s : Text) : (mode : Mode) → (url : Text) → Prop where
  /-- Owner and name on the usual host. -/
  | shorthand (h : s.count '/' = 1) : StandsFor s .legacy ("https://github.com/".toList ++ s)
  /-- Host, owner and name. -/
  | bare (h : 2 ≤ s.count '/') (hmark : ¬ "://".toList <:+: s) :
      StandsFor s .legacy ("https://".toList ++ s)
  /-- A URL of any scheme. -/
  | whole (hmark : "://".toList <:+: s) : StandsFor s .legacy s
  | strict (h : "https://".toList <+: s) : StandsFor s .strict s

/-- A text is elaborated to the URL that it stands for. -/
theorem elaborate_of_standsFor {s url : Text} (h : StandsFor s .legacy url) :
    elaborate s = .ok url := by
  cases h with
  | shorthand hone => exact elaborate_shorthand hone
  | bare hmany hmark =>
    exact elaborate_of_two_le_count (Text.hasMark_eq_false_iff.mpr hmark) hmany
  | whole hmark => exact elaborate_of_hasMark (Text.hasMark_iff.mpr hmark)

/-- A text with a slash stands for a URL. -/
theorem exists_standsFor {s : Text} (h : '/' ∈ s) : ∃ url, StandsFor s .legacy url := by
  have hpos : 0 < s.count '/' := List.count_pos_iff.mpr h
  by_cases hmark : "://".toList <:+: s
  · exact ⟨_, .whole hmark⟩
  · rcases Nat.eq_or_lt_of_le hpos with hone | hmany
    · exact ⟨_, .shorthand hone.symm⟩
    · exact ⟨_, .bare hmany hmark⟩

/-- A text without a slash has too few segments. -/
theorem elaborate_of_no_slash {s : Text} (h : '/' ∉ s) :
    elaborate s = .error .tooFewSegments := by
  simp only [elaborate, List.count_eq_zero.mpr h]

/-- A text is elaborated to what it stands for and to nothing else. -/
theorem elaborate_eq_ok_iff {s url : Text} : elaborate s = .ok url ↔ StandsFor s .legacy url := by
  refine ⟨fun h => ?_, elaborate_of_standsFor⟩
  by_cases hslash : '/' ∈ s
  · obtain ⟨url', hurl'⟩ := exists_standsFor hslash
    have heq : url' = url := Except.ok.inj ((elaborate_of_standsFor hurl').symm.trans h)
    rwa [← heq]
  · rw [elaborate_of_no_slash hslash] at h
    cases h

/-- Only a text without a slash is not elaborated. -/
theorem elaborate_eq_error_iff {s : Text} {reason : FormatReason} :
    elaborate s = .error reason ↔ '/' ∉ s ∧ reason = .tooFewSegments := by
  constructor
  · intro h
    by_cases hslash : '/' ∈ s
    · obtain ⟨url, hurl⟩ := exists_standsFor hslash
      rw [elaborate_of_standsFor hurl] at h
      cases h
    · rw [elaborate_of_no_slash hslash] at h
      exact ⟨hslash, (Except.error.inj h).symm⟩
  · rintro ⟨hslash, rfl⟩
    exact elaborate_of_no_slash hslash

-- ---------------------------------------------------------------------------
-- Reasons in a URL
-- ---------------------------------------------------------------------------

/-- Why a URL names no repository: it cannot be read, the bytes of its path are no text,
or no slash is left in that text to divide owner and name. -/
inductive UrlRefuses (url : Text) : FormatReason → Prop where
  | refused {cause : Url.Error} (h : Url.read url = .error cause) :
      UrlRefuses url (.badUrl (.refused cause))
  | undecodable {u : Url} {fault : Utf8.Fault} (hread : Url.read url = .ok u)
      (h : Utf8.decode (Percent.decode u.path) = .error fault) :
      UrlRefuses url (.badUrl (.undecodable fault))
  | undivided {u : Url} {path : Text} (hread : Url.read url = .ok u)
      (hpath : Percent.decode u.path = Utf8.encode path)
      (h : '/' ∉ Text.trim (· == '/') path) : UrlRefuses url .noOwnerAndName

/-- The reason for which a URL is no repository. -/
theorem hostedOfUrl_eq_error_iff {url : Text} {reason : FormatReason} :
    hostedOfUrl url = .error reason ↔ UrlRefuses url reason := by
  constructor
  · intro h
    cases hread : Url.read url with
    | error cause =>
      rw [hostedOfUrl, hread] at h
      cases h
      exact .refused hread
    | ok u =>
      rcases hostedOfUrl_of_read hread with
        ⟨fault, hdecode, hfault⟩ | ⟨path, hpath, ⟨hnone, hfault⟩ | ⟨owner, name, -, hok⟩⟩
      · cases hfault.symm.trans h
        exact .undecodable hread hdecode
      · cases hfault.symm.trans h
        exact .undivided hread hpath (splitOwnerName_eq_none_iff.mp hnone)
      · cases hok.symm.trans h
  · intro h
    cases h with
    | refused hread => rw [hostedOfUrl, hread]
    | undecodable hread hdecode => exact hostedOfUrl_of_undecodable hread hdecode
    | undivided hread hpath hslash =>
      exact hostedOfUrl_of_undivided hread hpath (splitOwnerName_eq_none_iff.mpr hslash)

-- ---------------------------------------------------------------------------
-- Reasons of a grammar
-- ---------------------------------------------------------------------------

/-- `Refuses s mode reason`: the grammar refuses the text for the reason. -/
inductive Refuses (s : Text) : (mode : Mode) → (reason : FormatReason) → Prop where
  | slashless (h : '/' ∉ s) : Refuses s .legacy .tooFewSegments
  | schemeless (h : ¬ "://".toList <:+: s) : Refuses s .strict .missingScheme
  | scheme {scheme rest : Text} (h : Text.FirstMark "://".toList s scheme rest)
      (hhttps : scheme ≠ "https".toList) (hfile : scheme ≠ "file".toList) :
      Refuses s .strict (.unsupportedScheme scheme)
  | filePath {rest : Text} {cause : UrlCause} (h : s = "file://".toList ++ rest)
      (hcheck : FilePath.check rest = .error cause) : Refuses s .strict (.badUrl cause)
  | url {mode : Mode} {url : Text} {reason : FormatReason} (hurl : StandsFor s mode url)
      (h : UrlRefuses url reason) : Refuses s mode reason

section Reasons

variable {s : Text} {mode : Mode}

/-- There are too few segments without a slash. -/
theorem refuses_tooFewSegments_iff :
    Refuses s mode .tooFewSegments ↔ mode = .legacy ∧ '/' ∉ s := by
  constructor
  · intro h
    cases h with
    | slashless hslash => exact ⟨rfl, hslash⟩
    | url _ h => cases h
  · rintro ⟨rfl, hslash⟩
    exact .slashless hslash

/-- A scheme is missing where the strict grammar finds no mark. -/
theorem refuses_missingScheme_iff :
    Refuses s mode .missingScheme ↔ mode = .strict ∧ ¬ "://".toList <:+: s := by
  constructor
  · intro h
    cases h with
    | schemeless hmark => exact ⟨rfl, hmark⟩
    | url _ h => cases h
  · rintro ⟨rfl, hmark⟩
    exact .schemeless hmark

/-- The scheme is what stands before the first mark, and two are supported. -/
theorem refuses_unsupportedScheme_iff {scheme : Text} :
    Refuses s mode (.unsupportedScheme scheme) ↔
      mode = .strict ∧ (∃ rest, Text.FirstMark "://".toList s scheme rest) ∧
        scheme ≠ "https".toList ∧ scheme ≠ "file".toList := by
  constructor
  · intro h
    cases h with
    | scheme hfirst hhttps hfile => exact ⟨rfl, ⟨_, hfirst⟩, hhttps, hfile⟩
    | url _ h => cases h
  · rintro ⟨rfl, ⟨rest, hfirst⟩, hhttps, hfile⟩
    exact .scheme hfirst hhttps hfile

/-- A URL is refused by the reader of URLs. -/
theorem refuses_refused_iff {cause : Url.Error} :
    Refuses s mode (.badUrl (.refused cause)) ↔
      ∃ url, StandsFor s mode url ∧ Url.read url = .error cause := by
  constructor
  · intro h
    cases h with
    | filePath _ hcheck => exact absurd (FilePath.cause_of_check hcheck) (by simp)
    | url hurl h =>
      cases h with
      | refused hread => exact ⟨_, hurl, hread⟩
  · rintro ⟨url, hurl, hread⟩
    exact .url hurl (.refused hread)

/-- A path cannot be decoded if its bytes are no text. -/
theorem refuses_undecodable_iff :
    (∃ fault, Refuses s mode (.badUrl (.undecodable fault))) ↔
      ∃ url u, StandsFor s mode url ∧ Url.read url = .ok u ∧
        ∀ path, Percent.decode u.path ≠ Utf8.encode path := by
  constructor
  · rintro ⟨fault, h⟩
    cases h with
    | filePath _ hcheck => exact absurd (FilePath.cause_of_check hcheck) (by simp)
    | url hurl h =>
      cases h with
      | undecodable hread hdecode =>
        exact ⟨_, _, hurl, hread, Utf8.exists_fault_iff.mp ⟨fault, hdecode⟩⟩
  · rintro ⟨url, u, hurl, hread, hbytes⟩
    obtain ⟨fault, hdecode⟩ := Utf8.exists_fault_iff.mpr hbytes
    exact ⟨fault, .url hurl (.undecodable hread hdecode)⟩

/-- A path that was decoded has no owner and name if it has no inner slash. -/
theorem refuses_noOwnerAndName_iff :
    Refuses s mode .noOwnerAndName ↔
      ∃ url u path, StandsFor s mode url ∧ Url.read url = .ok u ∧
        Percent.decode u.path = Utf8.encode path ∧ '/' ∉ Text.trim (· == '/') path := by
  constructor
  · intro h
    cases h with
    | url hurl h =>
      cases h with
      | undivided hread hpath hslash => exact ⟨_, _, _, hurl, hread, hpath, hslash⟩
  · rintro ⟨url, u, path, hurl, hread, hpath, hslash⟩
    exact .url hurl (.undivided hread hpath hslash)

end Reasons

/-- The lenient grammar refuses a text for the reason that there is. -/
theorem readLegacy_eq_error_iff {s : Text} {reason : FormatReason} :
    readLegacy s = .error reason ↔ Refuses s .legacy reason := by
  constructor
  · intro h
    cases helaborate : elaborate s with
    | error reason' =>
      obtain ⟨hslash, rfl⟩ := elaborate_eq_error_iff.mp helaborate
      rw [readLegacy, helaborate] at h
      cases h
      exact .slashless hslash
    | ok url =>
      rw [readLegacy_of_elaborate helaborate] at h
      exact .url (elaborate_eq_ok_iff.mp helaborate) (hostedOfUrl_eq_error_iff.mp h)
  · intro h
    cases h with
    | slashless hslash => rw [readLegacy, elaborate_of_no_slash hslash]
    | url hurl h =>
      rw [readLegacy_of_elaborate (elaborate_of_standsFor hurl), hostedOfUrl_eq_error_iff.mpr h]

/-- A result that was mapped fails as it did before. -/
theorem map_eq_error_iff {ε α β : Type} {f : α → β} {x : Except ε α} {e : ε} :
    x.map f = .error e ↔ x = .error e := by
  cases x <;> simp [Except.map]

/-- The strict grammar refuses a text for the reason that there is. -/
theorem readStrict_eq_error_iff {s : Text} {reason : FormatReason} :
    readStrict s = .error reason ↔ Refuses s .strict reason := by
  constructor
  · intro h
    -- along the tests of the grammar, in their order
    unfold readStrict at h
    cases hcut : Text.cutAround schemeMark s with
    | none =>
      simp only [hcut] at h
      cases h
      refine .schemeless (Text.hasMark_eq_false_iff.mp ?_)
      rw [Text.hasMark, show "://".toList = schemeMark from rfl, hcut]
      rfl
    | some pieces =>
      obtain ⟨scheme, rest⟩ := pieces
      simp only [hcut] at h
      split at h
      · next hhttps =>
        subst hhttps
        have hbegins : "https://".toList <+: s := ⟨rest, (Text.eq_of_cutAround hcut).symm⟩
        exact .url (.strict hbegins) (hostedOfUrl_eq_error_iff.mp (map_eq_error_iff.mp h))
      · next hhttps =>
        split at h
        · next hfile =>
          subst hfile
          cases hcheck : FilePath.check rest with
          | ok checked =>
            rw [hcheck] at h
            cases h
          | error cause =>
            rw [hcheck] at h
            cases h
            exact .filePath (Text.eq_of_cutAround hcut) hcheck
        · next hfile =>
          cases h
          exact .scheme (Text.cutAround_eq_some_iff.mp hcut) hhttps hfile
  · intro h
    -- the other way, one case for each reason
    cases h with
    | schemeless hmark =>
      have hnone : Text.cutAround schemeMark s = none :=
        Option.not_isSome_iff_eq_none.mp fun hsome => hmark (Text.hasMark_iff.mp hsome)
      rw [readStrict, hnone]
    | scheme hfirst hhttps hfile =>
      have hcut : Text.cutAround schemeMark s = some (_, _) := Text.cutAround_eq_some_iff.mpr hfirst
      rw [readStrict, hcut]
      simp only
      rw [if_neg hhttps, if_neg hfile]
    | filePath heq hcheck =>
      rw [heq, readStrict_file, hcheck]
      rfl
    | url hurl h =>
      cases hurl with
      | strict hbegins =>
        obtain ⟨rest, rfl⟩ := hbegins
        rw [readStrict_https, hostedOfUrl_eq_error_iff.mpr h]
        rfl

theorem read_eq_error_iff {s : Text} {mode : Mode} {reason : FormatReason} :
    read s mode = .error reason ↔ Refuses s mode reason := by
  cases mode with
  | legacy => exact map_eq_error_iff.trans readLegacy_eq_error_iff
  | strict => exact readStrict_eq_error_iff

end Grammar

-- ---------------------------------------------------------------------------
-- Faults
-- ---------------------------------------------------------------------------

namespace Locator

open Grammar

/-- The fault carries the text and the reason for which it is refused. -/
theorem parse_malformed_iff {s : Text} {mode : Mode} {reason : FormatReason} :
    parse s mode = .error (.malformed s reason) ↔ Refuses s mode reason := by
  rw [← read_eq_error_iff, parse]
  cases read s mode <;> simp [Except.mapError]

/-- The only fault of a text is that it is malformed, for one of the reasons. -/
theorem exists_of_parse_eq_error {s : Text} {mode : Mode} {fault : Fault}
    (h : parse s mode = .error fault) : ∃ reason, fault = .malformed s reason ∧
      Refuses s mode reason := by
  cases hread : read s mode with
  | ok locator =>
    rw [parse, hread] at h
    cases h
  | error reason =>
    rw [parse, hread] at h
    exact ⟨reason, (Except.error.inj h).symm, read_eq_error_iff.mp hread⟩

/-- The message of a malformed text shows it. -/
theorem infix_message_malformed (s : Text) (reason : FormatReason) :
    s <:+: (Fault.malformed s reason).message :=
  ⟨"invalid repository reference '".toList, "': ".toList ++ reason.message,
    (List.append_assoc _ _ _).symm⟩

/-- A file path is refused for what stands in it. -/
theorem exists_of_refuses_file {s : Text} {reason : FormatReason} (hbegins : "file://".toList <+: s)
    (h : Refuses s .strict reason) : ∃ cause, reason = .badUrl cause ∧
      (cause = .controlCharacter ∨ ∃ quoted, cause = .badEscape quoted) := by
  rw [← readStrict_eq_error_iff] at h
  obtain ⟨rest, rfl⟩ := hbegins
  rw [readStrict_file] at h
  cases hcheck : FilePath.check rest with
  | ok checked =>
    rw [hcheck] at h
    cases h
  | error cause =>
    rw [hcheck] at h
    exact ⟨cause, (Except.error.inj h).symm, FilePath.cause_of_check hcheck⟩

/-- How both grammars refuse the text: for which reason, and exactly when. -/
structure FaultLaws (s : Text) : Prop where
  /-- A fault carries the text as it was given, and its message shows it. -/
  carries : ∀ mode fault, parse s mode = .error fault →
    ∃ reason, fault = .malformed s reason ∧ s <:+: fault.message
  tooFewSegments_iff : ∀ mode, parse s mode = .error (.malformed s .tooFewSegments) ↔
    mode = .legacy ∧ '/' ∉ s
  missingScheme_iff : ∀ mode, parse s mode = .error (.malformed s .missingScheme) ↔
    mode = .strict ∧ ¬ "://".toList <:+: s
  /-- The scheme is what stands before the first mark, and its case counts. -/
  unsupportedScheme_iff : ∀ mode scheme,
    parse s mode = .error (.malformed s (.unsupportedScheme scheme)) ↔
      mode = .strict ∧ (∃ rest, Text.FirstMark "://".toList s scheme rest) ∧
        scheme ≠ "https".toList ∧ scheme ≠ "file".toList
  /-- A file path is refused as a bad URL, and not by the reader of URLs. -/
  of_file : "file://".toList <+: s → ∀ fault, parse s .strict = .error fault →
    ∃ cause, fault = .malformed s (.badUrl cause) ∧
      (cause = .controlCharacter ∨ ∃ quoted, cause = .badEscape quoted)
  /-- The URL that the text stands for cannot be read, -/
  refused_iff : ∀ mode cause, parse s mode = .error (.malformed s (.badUrl (.refused cause))) ↔
    ∃ url, StandsFor s mode url ∧ Url.read url = .error cause
  /-- or its path is not UTF-8, -/
  undecodable_iff : ∀ mode,
    (∃ fault, parse s mode = .error (.malformed s (.badUrl (.undecodable fault)))) ↔
      ∃ url u, StandsFor s mode url ∧ Url.read url = .ok u ∧
        ∀ path, Percent.decode u.path ≠ Utf8.encode path
  /-- or else no slash is left in it. -/
  noOwnerAndName_iff : ∀ mode, parse s mode = .error (.malformed s .noOwnerAndName) ↔
    ∃ url u path, StandsFor s mode url ∧ Url.read url = .ok u ∧
      Percent.decode u.path = Utf8.encode path ∧ '/' ∉ Text.trim (· == '/') path
  /-- There is no other reason. -/
  others : ∀ mode reason, parse s mode = .error (.malformed s reason) →
    reason ∈ [.tooFewSegments, .missingScheme, .noOwnerAndName] ∨
      (∃ scheme, reason = .unsupportedScheme scheme) ∨
      (mode = .strict ∧ "file://".toList <+: s ∧ ∃ cause, reason = .badUrl cause) ∨
      (∃ cause, reason = .badUrl (.refused cause)) ∨
      ∃ fault, reason = .badUrl (.undecodable fault)

/-- Every fault of a text carries it, names it in its message and has the one reason that there
is, under both grammars. -/
theorem faultLaws (s : Text) : FaultLaws s where
  carries := by
    intro mode fault h
    obtain ⟨reason, rfl, -⟩ := exists_of_parse_eq_error h
    exact ⟨reason, rfl, infix_message_malformed s reason⟩
  tooFewSegments_iff := fun _ => parse_malformed_iff.trans refuses_tooFewSegments_iff
  missingScheme_iff := fun _ => parse_malformed_iff.trans refuses_missingScheme_iff
  unsupportedScheme_iff := fun _ _ => parse_malformed_iff.trans refuses_unsupportedScheme_iff
  of_file := by
    rintro hbegins fault h
    obtain ⟨reason, rfl, hrefuses⟩ := exists_of_parse_eq_error h
    obtain ⟨cause, rfl, hcause⟩ := exists_of_refuses_file hbegins hrefuses
    exact ⟨cause, rfl, hcause⟩
  refused_iff := fun _ _ => parse_malformed_iff.trans refuses_refused_iff
  undecodable_iff := by
    intro mode
    simp only [parse_malformed_iff]
    exact refuses_undecodable_iff
  noOwnerAndName_iff := fun _ => parse_malformed_iff.trans refuses_noOwnerAndName_iff
  others := by
    intro mode reason h
    rw [parse_malformed_iff] at h
    cases h with
    | slashless _ => exact .inl (by simp)
    | schemeless _ => exact .inl (by simp)
    | scheme _ _ _ => exact .inr (.inl ⟨_, rfl⟩)
    | filePath heq _ => exact .inr (.inr (.inl ⟨rfl, ⟨_, heq.symm⟩, _, rfl⟩))
    | url _ h =>
      cases h with
      | refused _ => exact .inr (.inr (.inr (.inl ⟨_, rfl⟩)))
      | undecodable _ _ => exact .inr (.inr (.inr (.inr ⟨_, rfl⟩)))
      | undivided _ _ _ => exact .inl (by simp)

/-- A mark that comes late makes a scheme of all that stands before it, and a URL that
cannot be read. Where a path is no text, it does not count that no slash is in it. -/
theorem faultLaws_of_late_mark :
    parse "a/b?u=://".toList .legacy =
        .error (.malformed "a/b?u=://".toList (.badUrl (.refused .noScheme))) ∧
      parse "a/b?u=://".toList .strict =
        .error (.malformed "a/b?u=://".toList (.unsupportedScheme "a/b?u=".toList)) ∧
      (∃ fault, parse "x://h/%FF".toList .legacy =
        .error (.malformed "x://h/%FF".toList (.badUrl (.undecodable fault)))) := by
  refine ⟨?_, ?_, ?_⟩
  · refine ((faultLaws _).refused_iff .legacy .noScheme).mpr ⟨_, .whole ?_, rfl⟩
    exact Text.hasMark_iff.mp (by decide)
  · refine ((faultLaws _).unsupportedScheme_iff .strict _).mpr ⟨rfl, ⟨[], ?_⟩, by decide, by decide⟩
    exact Text.cutAround_eq_some_iff.mp (by decide)
  · have hread : Url.read "x://h/%FF".toList =
        .ok ⟨"x".toList, some (.opaqueName "h".toList), none, "/%FF".toList⟩ := rfl
    refine ((faultLaws _).undecodable_iff .legacy).mpr ⟨_, _, .whole ?_, hread, ?_⟩
    · exact Text.hasMark_iff.mp (by decide)
    · exact Utf8.exists_fault_iff.mp ⟨_, rfl⟩

end Locator

end RepoIdentity

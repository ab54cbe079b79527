import RepoIdentity.Proofs.Spelling

/-!
# The legacy grammar as elaboration

The legacy grammar decides by the number of slashes and by whether a scheme mark
occurs anywhere, the strict grammar by what stands before the first scheme mark.
Both end with the same reading of a URL, so they agree on every text as soon as
they agree on the URL.

* `elaborate_of_hasMark`, `elaborate_of_two_le_count`, `elaborate_shorthand` — the
  URL that a text stands for, by the three shapes of a reference;
* `readStrict_https` — the strict grammar reads an `https` URL as it is written;
* `parse_legacy_elaborated` — the legacy grammar is the strict grammar after
  elaboration, on successes and on failures.
-/

namespace RepoIdentity.Grammar

-- ---------------------------------------------------------------------------
-- The URL that a text stands for
-- ---------------------------------------------------------------------------

/-- A scheme mark has two slashes of its own. -/
theorem two_le_count_of_hasMark {s : Text} (h : Text.hasMark schemeMark s = true) :
    2 ≤ s.count '/' := by
  have hin := Text.hasMark_iff.mp h
  have hle := hin.sublist.count_le '/'
  have htwo : schemeMark.count '/' = 2 := by decide
  omega

/-- With one slash there is no mark. -/
theorem hasMark_eq_false_of_count_one {s : Text} (h : s.count '/' = 1) :
    Text.hasMark schemeMark s = false := by
  rw [Bool.eq_false_iff]
  intro hmark
  have htwo := two_le_count_of_hasMark hmark
  omega

/-- A text with a scheme stands for itself. -/
theorem elaborate_of_hasMark {s : Text} (h : Text.hasMark schemeMark s = true) :
    elaborate s = .ok s := by
  rw [elaborate_of_two_le (two_le_count_of_hasMark h), withScheme, if_pos h]

/-- A scheme mark anywhere makes a scheme of what stands before it. -/
theorem elaborate_of_scheme (scheme rest : Text) :
    elaborate (scheme ++ "://".toList ++ rest) = .ok (scheme ++ "://".toList ++ rest) :=
  elaborate_of_hasMark (Text.hasMark_iff.mpr ⟨scheme, rest, rfl⟩)

/-- With two slashes and no mark the scheme is filled in. -/
theorem elaborate_of_two_le_count {s : Text} (hmark : Text.hasMark schemeMark s = false)
    (hcount : 2 ≤ s.count '/') : elaborate s = .ok ("https://".toList ++ s) := by
  rw [elaborate_of_two_le hcount, withScheme_of_not_hasMark hmark]
  rfl

/-- The usual host brings no scheme mark along. -/
theorem not_hasMark_defaultHost {s : Text} (h : Text.hasMark schemeMark s = false) :
    Text.hasMark schemeMark ("github.com/".toList ++ s) = false := by
  rw [Bool.eq_false_iff] at h ⊢
  intro hmark
  have hin := Text.hasMark_iff.mp hmark
  have hcolon : ':' ∉ "github.com/".toList := by decide
  exact h (Text.hasMark_iff.mpr (Text.infix_of_infix_append hcolon hin))

/-- A text with a single slash stands for a path on the usual host. -/
theorem elaborate_shorthand {s : Text} (h : s.count '/' = 1) :
    elaborate s = .ok ("https://github.com/".toList ++ s) := by
  have hmark := not_hasMark_defaultHost (hasMark_eq_false_of_count_one h)
  rw [elaborate_of_count_one h]
  show Except.ok (withScheme ("github.com/".toList ++ s)) = _
  rw [withScheme_of_not_hasMark hmark]
  rfl

-- ---------------------------------------------------------------------------
-- The strict grammar on the same URLs
-- ---------------------------------------------------------------------------

/-- The strict grammar reads what follows the scheme as a URL. -/
theorem readStrict_https (rest : Text) :
    readStrict ("https://".toList ++ rest) =
      (hostedOfUrl ("https://".toList ++ rest)).map .hosted := by
  have hcut : Text.cutAround schemeMark (defaultScheme ++ schemeMark ++ rest) =
      some (defaultScheme, rest) := Text.cutAround_append_of_not_mem rest (by decide)
  have hurl : "https://".toList ++ rest = defaultScheme ++ schemeMark ++ rest := rfl
  rw [hurl, readStrict, hcut]
  simp only
  rw [if_pos (show defaultScheme = "https".toList from rfl)]

/-- Only an `https` URL is a hosted repository of the strict grammar. -/
theorem prefix_of_readStrict {s : Text} {r : Hosted} (h : readStrict s = .ok (.hosted r)) :
    "https://".toList <+: s := by
  unfold readStrict at h
  split at h
  · cases h
  · next scheme rest hcut =>
    split at h
    · next hscheme =>
      subst hscheme
      exact ⟨rest, (Text.eq_of_cutAround hcut).symm⟩
    · split at h
      · split at h <;> cases h
      · cases h

-- ---------------------------------------------------------------------------
-- Agreement
-- ---------------------------------------------------------------------------

/-- Two texts, each read by a grammar, name the same repository or are refused for
the same reason. The faults differ in nothing but the text that they quote. -/
def SameOutcome (s : Text) (mode : Mode) (s' : Text) (mode' : Mode) : Prop :=
  ∃ outcome : Except FormatReason Hosted,
    Locator.parse s mode = (outcome.map .hosted).mapError (.malformed s) ∧
    Locator.parse s' mode' = (outcome.map .hosted).mapError (.malformed s')

theorem read_of_parse {s : Text} {mode : Mode} {locator : Locator}
    (h : Locator.parse s mode = .ok locator) : read s mode = .ok locator := by
  rw [Locator.parse] at h
  cases hread : read s mode with
  | error reason =>
    rw [hread] at h
    cases h
  | ok found =>
    rw [hread] at h
    exact congrArg Except.ok (Except.ok.inj h)

/-- The lenient grammar reads the URL that a text is elaborated to. -/
theorem parse_legacy_of_elaborate {s url : Text} (h : elaborate s = .ok url) :
    Locator.parse s .legacy = ((hostedOfUrl url).map .hosted).mapError (.malformed s) := by
  rw [Locator.parse, read, readLegacy_of_elaborate h]

/-- A text names the repository that its URL names. -/
theorem parse_legacy_eq_ok_iff {s url : Text} {r : Hosted} (h : elaborate s = .ok url) :
    Locator.parse s .legacy = .ok (.hosted r) ↔ hostedOfUrl url = .ok r := by
  rw [parse_legacy_of_elaborate h]
  cases hostedOfUrl url <;> simp [Except.map, Except.mapError]

/-- A text is refused for the reason for which its URL is. -/
theorem parse_legacy_eq_error_iff {s url : Text} {reason : FormatReason}
    (h : elaborate s = .ok url) :
    Locator.parse s .legacy = .error (.malformed s reason) ↔ hostedOfUrl url = .error reason := by
  rw [parse_legacy_of_elaborate h]
  cases hostedOfUrl url <;> simp [Except.map, Except.mapError]

/-- The strict grammar reads web addresses as URLs. -/
theorem parse_strict_https (rest : Text) :
    Locator.parse ("https://".toList ++ rest) .strict =
      ((hostedOfUrl ("https://".toList ++ rest)).map .hosted).mapError
        (.malformed ("https://".toList ++ rest)) := by
  rw [Locator.parse, read, readStrict_https]

/-- Both grammars agree on addresses with the scheme. -/
theorem parse_legacy_of_https {s : Text} (h : "https://".toList <+: s) :
    Locator.parse s .legacy = Locator.parse s .strict := by
  obtain ⟨rest, rfl⟩ := h
  have hlegacy := parse_legacy_of_elaborate (elaborate_of_scheme "https".toList rest)
  exact hlegacy.trans (parse_strict_https rest).symm

/-- The legacy grammar is the strict grammar after elaboration. A text that begins
with `https://` is read alike by both, faults included. A text without a scheme mark
is read as the `https` URL that it abbreviates: after the usual host if it has one
slash, and as it is if it has more. So whatever the strict grammar takes for a
hosted repository is the same repository in the legacy grammar. -/
theorem parse_legacy_elaborated (s : Text) :
    ("https://".toList <+: s → Locator.parse s .legacy = Locator.parse s .strict) ∧
    (¬ "://".toList <:+: s → s.count '/' = 1 →
      SameOutcome s .legacy ("github.com/".toList ++ s) .legacy ∧
      SameOutcome s .legacy ("https://github.com/".toList ++ s) .strict) ∧
    (¬ "://".toList <:+: s → 2 ≤ s.count '/' →
      SameOutcome s .legacy ("https://".toList ++ s) .strict) ∧
    ∀ r, Locator.parse s .strict = .ok (.hosted r) → Locator.parse s .legacy = .ok (.hosted r) := by
  have hunmarked (h : ¬ "://".toList <:+: s) : Text.hasMark schemeMark s = false := by
    rw [Bool.eq_false_iff]
    exact fun hmark => h (Text.hasMark_iff.mp hmark)
  refine ⟨parse_legacy_of_https, ?_, ?_, ?_⟩
  · intro hmark hcount
    have hlegacy := parse_legacy_of_elaborate (elaborate_shorthand hcount)
    have hhost : elaborate ("github.com/".toList ++ s) =
        .ok ("https://".toList ++ ("github.com/".toList ++ s)) := by
      refine elaborate_of_two_le_count (not_hasMark_defaultHost (hunmarked hmark)) ?_
      rw [List.count_append, hcount]
      decide
    exact ⟨⟨_, hlegacy, parse_legacy_of_elaborate hhost⟩,
      ⟨_, hlegacy, parse_strict_https ("github.com/".toList ++ s)⟩⟩
  · intro hmark hcount
    have hlegacy := parse_legacy_of_elaborate (elaborate_of_two_le_count (hunmarked hmark) hcount)
    exact ⟨_, hlegacy, parse_strict_https s⟩
  · intro r hstrict
    have hhttps : "https://".toList <+: s := prefix_of_readStrict (read_of_parse hstrict)
    rw [parse_legacy_of_https hhttps, hstrict]

/-- A port and an escaped slash in each of the forms, with an address for a host. -/
theorem parse_legacy_elaborated_address :
    Locator.parse "https://[::1]:80/a%2Fb".toList .legacy =
        Locator.parse "https://[::1]:80/a%2Fb".toList .strict ∧
      SameOutcome "[::1]:80/a%2Fb".toList .legacy
        "https://github.com/[::1]:80/a%2Fb".toList .strict ∧
      SameOutcome "[::1]:80/a/b".toList .legacy "https://[::1]:80/a/b".toList .strict ∧
      Locator.parse "https://[::1]:80/a%2Fb".toList .legacy =
        .ok (.hosted ⟨"[::1]:80".toList, "a".toList, "b".toList⟩) := by
  have hmark {s : Text} (h : Text.hasMark "://".toList s = false) : ¬ "://".toList <:+: s := by
    intro hin
    rw [Text.hasMark_iff.mpr hin] at h
    cases h
  have hstrict : Locator.parse "https://[::1]:80/a%2Fb".toList .strict =
      .ok (.hosted ⟨"[::1]:80".toList, "a".toList, "b".toList⟩) := by decide +kernel
  refine ⟨?_, ?_, ?_, ?_⟩
  · exact (parse_legacy_elaborated _).1 (by decide)
  · exact ((parse_legacy_elaborated _).2.1 (hmark (by decide)) (by decide)).2
  · exact (parse_legacy_elaborated _).2.2.1 (hmark (by decide)) (by decide)
  · exact (parse_legacy_elaborated _).2.2.2 _ hstrict

end RepoIdentity.Grammar

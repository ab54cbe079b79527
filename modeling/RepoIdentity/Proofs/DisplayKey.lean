import RepoIdentity.Proofs.Description
import RepoIdentity.Proofs.Username

/-!
# What a display key tells

A display key is host, owner and name with a hyphen between each two of them, as they are.
Whether it can name a file depends on the name: it takes all slashes after the first one,
and an escaped NUL is decoded like any other character. Whether it tells one repository from
another depends on the hyphens. Those in owner and name are not marked, so that any of
them may be taken for the one between the two. Valid repositories have the same key
exactly if they differ in where that hyphen is.

* `displayKey_component_iff_of_parse` — when a key has neither a slash nor a NUL;
* `Hosted.Shifted`, `Hosted.displayKey_eq_iff` — repositories with the same key on one host;
* `exists_shifted_from_iff`, `exists_shifted_to_iff` — when there is a valid one with the
  hyphen earlier, and when later;
* `Reference.displayKey_eq_iff_of_validate` — the keys of valid references, and which of them
  belong to one repository only.
-/

namespace RepoIdentity

-- ---------------------------------------------------------------------------
-- Characters of a key
-- ---------------------------------------------------------------------------

/-- Apart from its hyphens a key has the characters of host, owner and name. -/
theorem Hosted.mem_displayKey_iff {r : Hosted} {c : Char} (hc : c ≠ '-') :
    c ∈ r.displayKey ↔ c ∈ r.host ∨ c ∈ r.owner ∨ c ∈ r.name := by
  simp [displayKey, hc]

namespace Grammar

/-- The host brings no characters into a key that a host cannot have. -/
theorem not_mem_displayKey_iff {url : Text} {r : Hosted} {c : Char} (h : hostedOfUrl url = .ok r)
    (hc : Url.isHostChar c = false) : c ∉ r.displayKey ↔ c ∉ r.owner ∧ c ∉ r.name := by
  have hhyphen : c ≠ '-' := by
    rintro rfl
    exact absurd hc (by decide)
  rw [Hosted.mem_displayKey_iff hhyphen, or_iff_right (not_mem_host h hc), not_or]

/-- A key holds no slash if the path holds no more than one. -/
theorem slash_not_mem_displayKey_iff {url path : Text} {r : Hosted} (h : hostedOfUrl url = .ok r)
    (hsplit : splitOwnerName path = some (r.owner, r.name)) :
    '/' ∉ r.displayKey ↔ (Text.trim (· == '/') path).count '/' = 1 := by
  rw [not_mem_displayKey_iff h (by decide), slash_not_mem_name_iff hsplit]
  exact and_iff_right (splitOwnerName_cases hsplit).2.2.1

/-- A key holds no NUL if none was written, in either way. -/
theorem nul_not_mem_displayKey_iff {url written path : Text} {r : Hosted}
    (h : hostedOfUrl url = .ok r) (hpath : Percent.decode written = Utf8.encode path)
    (hsplit : splitOwnerName path = some (r.owner, r.name)) :
    '\x00' ∉ r.displayKey ↔ '\x00' ∉ written ∧ ¬ "%00".toList <:+: written := by
  rw [not_mem_displayKey_iff h (by decide), ← not_or, ← not_or,
    mem_owner_or_name_iff rfl (b := 0) (by decide) (by decide) (by decide) (by decide) hpath hsplit,
    Percent.hasEscapeOf_nul_iff]

end Grammar

namespace Locator

open Grammar

/-- The key of what a text names can be a component of a path as far as the path of the URL
allows it. It has no slash exactly if the decoded path has one only, those at its ends aside,
and no NUL exactly if the path has none, escaped or not. -/
theorem displayKey_component_iff_of_parse {input : Text} {mode : Mode} {r : Hosted}
    (h : parse input mode = .ok (.hosted r)) :
    ∃ url u path, StandsFor input mode url ∧ Url.read url = .ok u ∧
      Percent.decode u.path = Utf8.encode path ∧
      ('/' ∉ r.displayKey ↔ (Text.trim (· == '/') path).count '/' = 1) ∧
      ('\x00' ∉ r.displayKey ↔ '\x00' ∉ u.path ∧ ¬ "%00".toList <:+: u.path) := by
  obtain ⟨url, hurl, hhosted⟩ := exists_standsFor_of_read (read_of_parse h)
  obtain ⟨u, path, hread, hdecode, hsplit, -⟩ := hostedOfUrl_cases hhosted
  have hpath := Utf8.decode_eq_ok_iff.mp hdecode
  exact ⟨url, u, path, hurl, hread, hpath, slash_not_mem_displayKey_iff hhosted hsplit,
    nul_not_mem_displayKey_iff hhosted hpath hsplit⟩

/-- Slashes at the ends do no harm, also if they are escaped, and neither does an escaped NUL
in a query. -/
theorem displayKey_component_iff_of_parse_ends :
    parse "git://h/%2Fo%2fn/%2F?a/b%00".toList .legacy =
        .ok (.hosted ⟨"h".toList, "o".toList, "n".toList⟩) ∧
      '/' ∉ (Hosted.mk "h".toList "o".toList "n".toList).displayKey ∧
      '\x00' ∉ (Hosted.mk "h".toList "o".toList "n".toList).displayKey := by
  have hparse : parse "git://h/%2Fo%2fn/%2F?a/b%00".toList .legacy =
      .ok (.hosted ⟨"h".toList, "o".toList, "n".toList⟩) := by decide +kernel
  have hmark : "://".toList <:+: "git://h/%2Fo%2fn/%2F?a/b%00".toList :=
    Text.hasMark_iff.mp (by decide)
  have hread : Url.read "git://h/%2Fo%2fn/%2F?a/b%00".toList =
      .ok ⟨"git".toList, some (.opaqueName "h".toList), none, "/%2Fo%2fn/%2F".toList⟩ := rfl
  have hdecode : Percent.decode "/%2Fo%2fn/%2F".toList = Utf8.encode "//o/n//".toList := by decide
  obtain ⟨url, u, path, hurl, hu, hpath, hslash, hnul⟩ := displayKey_component_iff_of_parse hparse
  cases hurl with
  | shorthand hcount => exact absurd hcount (by decide)
  | bare _ hnone => exact absurd hmark hnone
  | whole _ =>
    obtain rfl := Except.ok.inj (hread.symm.trans hu)
    obtain rfl := Utf8.encode_injective (hdecode.symm.trans hpath)
    have hescape : ¬ "%00".toList <:+: "/%2Fo%2fn/%2F".toList :=
      Text.hasMark_eq_false_iff.mp (by decide)
    exact ⟨hparse, hslash.mpr (by decide), hnul.mpr ⟨by decide, hescape⟩⟩

/-- A segment more is a directory more in the key, and an escaped NUL is one in the key. -/
theorem displayKey_of_parse_segments :
    (parse "github.com/a/b/c".toList .legacy =
        .ok (.hosted ⟨"github.com".toList, "a".toList, "b/c".toList⟩) ∧
      '/' ∈ (Hosted.mk "github.com".toList "a".toList "b/c".toList).displayKey) ∧
    parse "a/b%00c".toList .legacy =
        .ok (.hosted ⟨"github.com".toList, "a".toList, "b\x00c".toList⟩) ∧
      '\x00' ∈ (Hosted.mk "github.com".toList "a".toList "b\x00c".toList).displayKey := by
  refine ⟨⟨?_, by decide⟩, ?_, by decide⟩
  · have hpath : Percent.decode (Url.networkPath (Url.solid
        (Text.trimEnd Ascii.isControlOrSpace "a/b/c".toList))) =
        Utf8.encode "/a/b/c".toList := by decide
    exact parse_legacy_of_defaultHost rfl hpath (by decide)
  · have hpath : Percent.decode (Url.networkPath (Url.solid
        (Text.trimEnd Ascii.isControlOrSpace "a/b%00c".toList))) =
        Utf8.encode "/a/b\x00c".toList := by decide
    exact parse_legacy_of_defaultHost rfl hpath (by decide)

end Locator

-- ---------------------------------------------------------------------------
-- The same key
-- ---------------------------------------------------------------------------

namespace Hosted

variable {r s : Hosted}

/-- `Shifted r s`: the two differ in which hyphen stands between owner and name. That of `s`
is a later one, so that `middle` is in the name of `r` and in the owner of `s`. -/
inductive Shifted : Hosted → Hosted → Prop where
  | mk (host owner middle name : Text) :
      Shifted ⟨host, owner, middle ++ '-' :: name⟩ ⟨host, owner ++ '-' :: middle, name⟩

/-- Shifting a hyphen keeps the key. -/
theorem Shifted.displayKey_eq (h : Shifted r s) : r.displayKey = s.displayKey := by
  obtain ⟨host, owner, middle, name⟩ := h
  simp only [displayKey, List.append_assoc, List.cons_append]

/-- Shifting a hyphen gives another repository. -/
theorem Shifted.ne (h : Shifted r s) : r ≠ s := by
  obtain ⟨host, owner, middle, name⟩ := h
  intro heq
  have hlength := congrArg List.length (Hosted.mk.inj heq).2.1
  rw [List.length_append, List.length_cons] at hlength
  omega

/-- On one host, repositories with the same key are the same or shifted. -/
theorem displayKey_eq_iff (hhost : r.host = s.host) :
    r.displayKey = s.displayKey ↔ r = s ∨ Shifted r s ∨ Shifted s r := by
  constructor
  · intro h
    obtain ⟨host, owner, name⟩ := r
    obtain ⟨host', owner', name'⟩ := s
    obtain rfl : host = host' := hhost
    simp only [displayKey, List.append_assoc, List.cons_append] at h
    have hrest := (List.cons.inj (List.append_cancel_left h)).2
    rcases Text.append_cons_eq_append_cons_iff.mp hrest with
      ⟨rfl, rfl⟩ | ⟨middle, rfl, rfl⟩ | ⟨middle, rfl, rfl⟩
    · exact .inl rfl
    · exact .inr (.inl (.mk host owner middle name'))
    · exact .inr (.inr (.mk host owner' middle name))
  · rintro (rfl | h | h)
    · rfl
    · exact h.displayKey_eq
    · exact h.displayKey_eq.symm

-- ---------------------------------------------------------------------------
-- Valid repositories with the same key
-- ---------------------------------------------------------------------------

/-- The name begins with letters and digits before a hyphen, and these can end the owner as
well: with them it is not too long for a user name, and what is left of the name is not
blank. -/
def LendsRun (r : Hosted) : Prop :=
  ∃ run rest, r.name = run ++ '-' :: rest ∧ run ≠ [] ∧ (∀ c ∈ run, Ascii.isAlphanum c = true) ∧
    r.owner.length + 1 + run.length ≤ 39 ∧ ∃ c ∈ rest, isBlankChar c = false

/-- The hyphen can be an earlier one wherever there is an earlier one: a user name is cut into
user names, and a name that begins with what is cut off is not blank. -/
theorem exists_shifted_from_iff (h : r.validate = .ok ()) :
    (∃ s : Hosted, s.validate = .ok () ∧ Shifted s r) ↔ '-' ∈ r.owner := by
  constructor
  · rintro ⟨s, -, ⟨host, owner, middle, name⟩⟩
    exact List.mem_append_right _ List.mem_cons_self
  · intro hmem
    obtain ⟨hhost, howner, -⟩ := validate_eq_ok_iff.mp h
    obtain ⟨host, owner, name⟩ := r
    obtain ⟨first, middle, rfl⟩ := List.append_of_mem hmem
    refine ⟨⟨host, first, middle ++ '-' :: name⟩, validate_eq_ok_iff.mpr ?_, .mk ..⟩
    refine ⟨hhost, (Username.ofRuns_append_iff.mp howner).1, '-', ?_, rfl⟩
    exact List.mem_append_right _ List.mem_cons_self

/-- The hyphen can be a later one exactly if it can be the next one. -/
theorem exists_shifted_to_iff (h : r.validate = .ok ()) :
    (∃ s : Hosted, s.validate = .ok () ∧ Shifted r s) ↔ r.LendsRun := by
  constructor
  · rintro ⟨s, hs, ⟨host, owner, middle, name⟩⟩
    obtain ⟨-, hlonger, hname⟩ := validate_eq_ok_iff.mp hs
    obtain ⟨-, hmiddle, hlength⟩ := Username.ofRuns_append_iff.mp hlonger
    cases hcut : Text.cutAt '-' middle with
    | none =>
      have hnot := Text.cutAt_eq_none_iff.mp hcut
      obtain ⟨hne, hall, -⟩ := (Username.ofRuns_iff_of_not_mem hnot).mp hmiddle
      exact ⟨middle, name, rfl, hne, hall, hlength, hname⟩
    | some pieces =>
      obtain ⟨run, after⟩ := pieces
      obtain ⟨rfl, hnot⟩ := Text.eq_of_cutAt hcut
      obtain ⟨hrun, -, -⟩ := Username.ofRuns_append_iff.mp hmiddle
      obtain ⟨hne, hall, -⟩ := (Username.ofRuns_iff_of_not_mem hnot).mp hrun
      -- the rest keeps a hyphen, which is not blank
      refine ⟨run, after ++ '-' :: name, by simp, hne, hall, ?_, '-', by simp, rfl⟩
      rw [List.length_append] at hlength
      exact Nat.le_trans (Nat.add_le_add_left (Nat.le_add_right _ _) _) hlength
  · rintro ⟨run, rest, hname, hne, hall, hlength, hvisible⟩
    obtain ⟨hhost, howner, -⟩ := validate_eq_ok_iff.mp h
    obtain ⟨host, owner, name⟩ := r
    obtain rfl : name = run ++ '-' :: rest := hname
    have hrun : Username.OfRuns run := (Username.ofRuns_iff_of_not_mem
      (Username.hyphen_not_mem hall)).mpr ⟨hne, hall, by omega⟩
    refine ⟨⟨host, owner ++ '-' :: run, rest⟩, validate_eq_ok_iff.mpr ?_, .mk ..⟩
    exact ⟨hhost, Username.ofRuns_append_iff.mpr ⟨howner, hrun, hlength⟩, hvisible⟩

theorem displayKey_eq_iff_of_valid (hr : r.validate = .ok ()) (hs : s.validate = .ok ()) :
    r.displayKey = s.displayKey ↔ r = s ∨ Shifted r s ∨ Shifted s r :=
  displayKey_eq_iff ((validate_eq_ok_iff.mp hr).1.trans (validate_eq_ok_iff.mp hs).1.symm)

/-- The key of a valid repository is that of another one exactly if its hyphen can be an
earlier or a later one. -/
theorem exists_ne_displayKey_eq_iff (h : r.validate = .ok ()) :
    (∃ s : Hosted, s.validate = .ok () ∧ r.displayKey = s.displayKey ∧ r ≠ s) ↔
      '-' ∈ r.owner ∨ r.LendsRun := by
  rw [← exists_shifted_from_iff h, ← exists_shifted_to_iff h]
  constructor
  · rintro ⟨s, hs, hkey, hne⟩
    rcases (displayKey_eq_iff_of_valid h hs).mp hkey with heq | hto | hfrom
    · exact absurd heq hne
    · exact .inr ⟨s, hs, hto⟩
    · exact .inl ⟨s, hs, hfrom⟩
  · rintro (⟨s, hs, hfrom⟩ | ⟨s, hs, hto⟩)
    · exact ⟨s, hs, hfrom.displayKey_eq.symm, hfrom.ne.symm⟩
    · exact ⟨s, hs, hto.displayKey_eq, hto.ne⟩

end Hosted

namespace Reference

theorem displayKey_of_hosted {a : Reference} {r : Hosted} (h : a.locator = .hosted r) :
    a.displayKey = r.displayKey := by
  rw [displayKey, h]
  rfl

/-- Valid references have the same key exactly if they have the same locator or shifted ones.
So the key of a valid reference belongs to its repository alone exactly if there is no hyphen
in the owner and the name does not begin with a run that the owner can take over. -/
theorem displayKey_eq_iff_of_validate {a : Reference} (ha : a.validate = .ok ()) :
    (∀ b : Reference, b.validate = .ok () →
      (a.displayKey = b.displayKey ↔ a.locator = b.locator ∨
        ∃ r s, a.locator = .hosted r ∧ b.locator = .hosted s ∧
          (Hosted.Shifted r s ∨ Hosted.Shifted s r))) ∧
    ∃ r, a.locator = .hosted r ∧
      ((∃ b : Reference, b.validate = .ok () ∧ a.displayKey = b.displayKey ∧
        a.locator ≠ b.locator) ↔ '-' ∈ r.owner ∨ r.LendsRun) := by
  obtain ⟨r, hr, hvalid⟩ := validate_eq_ok_iff.mp ha
  refine ⟨fun b hb => ?_, r, hr, ?_⟩
  · obtain ⟨s, hs, hsvalid⟩ := validate_eq_ok_iff.mp hb
    rw [displayKey_of_hosted hr, displayKey_of_hosted hs,
      Hosted.displayKey_eq_iff_of_valid hvalid hsvalid, hr, hs]
    simp
  · rw [← Hosted.exists_ne_displayKey_eq_iff hvalid, displayKey_of_hosted hr, hr]
    constructor
    · rintro ⟨b, hb, hkey, hne⟩
      obtain ⟨s, hs, hsvalid⟩ := validate_eq_ok_iff.mp hb
      rw [displayKey_of_hosted hs] at hkey
      exact ⟨s, hsvalid, hkey, fun heq => hne (heq ▸ hs.symm)⟩
    · rintro ⟨s, hsvalid, hkey, hne⟩
      exact ⟨ofLocator (.hosted s), hsvalid, hkey, fun heq => hne (Locator.hosted.inj heq)⟩

/-- A hyphen that begins the name: the one in an owner can be taken for the one after it all
the same, but where the owner has none the key is of one repository. -/
theorem displayKey_eq_iff_of_validate_leading_hyphen :
    ((ofLocator (.hosted ⟨"github.com".toList, "o-p".toList, "-q".toList⟩)).validate = .ok () ∧
      (ofLocator (.hosted ⟨"github.com".toList, "o".toList, "p--q".toList⟩)).validate = .ok () ∧
      (ofLocator (.hosted ⟨"github.com".toList, "o-p".toList, "-q".toList⟩)).displayKey =
        (ofLocator (.hosted ⟨"github.com".toList, "o".toList, "p--q".toList⟩)).displayKey) ∧
    (ofLocator (.hosted ⟨"github.com".toList, "op".toList, "-q".toList⟩)).validate = .ok () ∧
      ∀ b : Reference, b.validate = .ok () → b.displayKey = "github.com-op--q".toList →
        b.locator = .hosted ⟨"github.com".toList, "op".toList, "-q".toList⟩ := by
  have hlater : (ofLocator (.hosted
      ⟨"github.com".toList, "o-p".toList, "-q".toList⟩)).validate = .ok () := by decide
  have hearlier : (ofLocator (.hosted
      ⟨"github.com".toList, "o".toList, "p--q".toList⟩)).validate = .ok () := by decide
  have hlone : (ofLocator (.hosted
      ⟨"github.com".toList, "op".toList, "-q".toList⟩)).validate = .ok () := by decide
  refine ⟨⟨hlater, hearlier, ?_⟩, hlone, fun b hb hkey => ?_⟩
  · have hshifted := Hosted.Shifted.mk "github.com".toList "o".toList "p".toList "-q".toList
    exact ((displayKey_eq_iff_of_validate hlater).1 _ hearlier).mpr
      (.inr ⟨_, _, rfl, rfl, .inr hshifted⟩)
  · obtain ⟨-, r, hr, hshared⟩ := displayKey_eq_iff_of_validate hlone
    obtain rfl := Locator.hosted.inj hr
    by_contra hne
    rcases hshared.mp ⟨b, hb, hkey.symm, Ne.symm hne⟩ with hmem | ⟨run, rest, hname, hrun, hall, -⟩
    · exact absurd hmem (by decide)
    · obtain ⟨c, run, rfl⟩ := List.exists_cons_of_ne_nil hrun
      obtain rfl : '-' = c := (List.cons.inj hname).1
      exact absurd (hall '-' List.mem_cons_self) (by decide)

/-- Two valid repositories of one key: what divides owner and name of each is a hyphen of the
other one. -/
theorem displayKey_eq_of_hyphens :
    parse "a-b/c".toList .legacy =
        .ok (ofLocator (.hosted ⟨"github.com".toList, "a-b".toList, "c".toList⟩)) ∧
      parse "a/b-c".toList .legacy =
        .ok (ofLocator (.hosted ⟨"github.com".toList, "a".toList, "b-c".toList⟩)) ∧
      (ofLocator (.hosted ⟨"github.com".toList, "a-b".toList, "c".toList⟩)).validate = .ok () ∧
      (ofLocator (.hosted ⟨"github.com".toList, "a".toList, "b-c".toList⟩)).validate = .ok () ∧
      (ofLocator (.hosted ⟨"github.com".toList, "a-b".toList, "c".toList⟩)).displayKey =
        (ofLocator (.hosted ⟨"github.com".toList, "a".toList, "b-c".toList⟩)).displayKey ∧
      (ofLocator (.hosted ⟨"github.com".toList, "a-b".toList, "c".toList⟩)).locator ≠
        (ofLocator (.hosted ⟨"github.com".toList, "a".toList, "b-c".toList⟩)).locator := by
  have hfirst : Percent.decode (Url.networkPath (Url.solid
      (Text.trimEnd Ascii.isControlOrSpace "a-b/c".toList))) =
      Utf8.encode "/a-b/c".toList := by decide
  have hsecond : Percent.decode (Url.networkPath (Url.solid
      (Text.trimEnd Ascii.isControlOrSpace "a/b-c".toList))) =
      Utf8.encode "/a/b-c".toList := by decide
  refine ⟨?_, ?_, by decide, by decide, by decide, by decide⟩
  · rw [parse, Grammar.parse_legacy_of_defaultHost rfl hfirst rfl]
    rfl
  · rw [parse, Grammar.parse_legacy_of_defaultHost rfl hsecond rfl]
    rfl

end Reference

end RepoIdentity

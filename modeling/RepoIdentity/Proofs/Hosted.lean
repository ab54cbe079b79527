import RepoIdentity.Proofs.Authority
import RepoIdentity.Proofs.Run

/-!
# Well-formed repositories

A hosted repository that comes out of a grammar has an owner without slashes and
a name that does not end in one, and its host has no slash either. Owner and name
are what is left after decoding, which may bring new slashes: that the owner has
none is due to the cut at the first slash, and that the name does not end in one
to the trimming before it. The host is made of host characters.

* `Hosted.WellFormed` is this invariant;
* `wellFormed_of_read` — both grammars establish it;
* `wellFormed_apply`, `wellFormed_after` — one request keeps it, and so does a run
  of requests, whether they succeed or fail;
* `wellFormed_of_obtained` — all references have it;
* `Hosted.eq_of_canonicalUrl_eq` — it makes host, owner and name readable from the
  canonical URL, so that this identifies the repository.
-/

namespace RepoIdentity

/-- What holds of every hosted repository that is named by a text. -/
structure Hosted.WellFormed (r : Hosted) : Prop where
  owner_ne_nil : r.owner ≠ []
  slash_not_mem_owner : '/' ∉ r.owner
  name_ne_nil : r.name ≠ []
  getLast?_name : r.name.getLast? ≠ some '/'
  slash_not_mem_host : '/' ∉ r.host

-- ---------------------------------------------------------------------------
-- Owner and name
-- ---------------------------------------------------------------------------

namespace Grammar

/-- A path of an owner and a name is split into them. -/
theorem splitOwnerName_eq {owner name : Text} (howner : owner ≠ []) (hslash : '/' ∉ owner)
    (hname : name ≠ []) (hlast : name.getLast? ≠ some '/') :
    splitOwnerName ('/' :: (owner ++ '/' :: name)) = some (owner, name) := by
  have htrim : Text.trim (· == '/') ('/' :: (owner ++ '/' :: name)) = owner ++ '/' :: name := by
    refine Text.trim_cons rfl ?_ ?_
    · intro c hc
      obtain ⟨d, rest, rfl⟩ := List.exists_cons_of_ne_nil howner
      cases hc
      rw [beq_eq_false_iff_ne]
      rintro rfl
      exact hslash List.mem_cons_self
    · intro c hc
      obtain ⟨d, rest, rfl⟩ := List.exists_cons_of_ne_nil hname
      rw [List.getLast?_append_cons, List.getLast?_cons_cons] at hc
      rw [beq_eq_false_iff_ne]
      rintro rfl
      exact hlast hc
  rw [splitOwnerName, htrim, Text.cutAt_append _ hslash]

/-- A path that is split is made of an owner and a name. -/
theorem splitOwnerName_cases {path owner name : Text}
    (h : splitOwnerName path = some (owner, name)) :
    Text.trim (· == '/') path = owner ++ '/' :: name ∧ owner ≠ [] ∧ '/' ∉ owner ∧
      name ≠ [] ∧ name.getLast? ≠ some '/' := by
  obtain ⟨htrim, hslash⟩ := Text.eq_of_cutAt h
  have hlast {c : Char} (hc : (owner ++ '/' :: name).getLast? = some c) : c ≠ '/' := by
    rw [← htrim] at hc
    have := Text.getLast?_trimEnd hc
    simpa using this
  refine ⟨htrim, ?_, hslash, ?_, ?_⟩
  · rintro rfl
    have hhead : (Text.trim (· == '/') path).head? = some '/' := by
      rw [htrim]
      rfl
    exact absurd (Text.head?_trim hhead) (by decide)
  · rintro rfl
    exact hlast List.getLast?_concat rfl
  · intro hname
    obtain ⟨d, rest, rfl⟩ := List.exists_cons_of_ne_nil (l := name) (by rintro rfl; cases hname)
    refine hlast (c := '/') ?_ rfl
    rw [List.getLast?_append_cons, List.getLast?_cons_cons]
    exact hname

-- ---------------------------------------------------------------------------
-- The grammars
-- ---------------------------------------------------------------------------

/-- A repository is read from the host and the decoded path of a URL. -/
theorem hostedOfUrl_cases {s : Text} {r : Hosted} (h : hostedOfUrl s = .ok r) :
    ∃ u path, Url.read s = .ok u ∧ Utf8.decode (Percent.decode u.path) = .ok path ∧
      splitOwnerName path = some (r.owner, r.name) ∧ r.host = u.hostText := by
  unfold hostedOfUrl at h
  split at h
  · cases h
  · next u hu =>
    split at h
    · cases h
    · next path hpath =>
      split at h
      · cases h
      · next owner name hsplit =>
        cases h
        exact ⟨u, path, hu, hpath, hsplit, rfl⟩

/-- A host that was read holds characters for hosts alone. -/
theorem not_mem_host {s : Text} {r : Hosted} {c : Char} (h : hostedOfUrl s = .ok r)
    (hc : Url.isHostChar c = false) : c ∉ r.host := by
  obtain ⟨u, path, hu, -, -, hhost⟩ := hostedOfUrl_cases h
  rw [hhost]
  intro hmem
  rw [Url.isHostChar_hostText hu c hmem] at hc
  cases hc

/-- A repository that was read from a URL is well formed. -/
theorem wellFormed_of_hostedOfUrl {s : Text} {r : Hosted} (h : hostedOfUrl s = .ok r) :
    r.WellFormed := by
  obtain ⟨u, path, -, -, hsplit, -⟩ := hostedOfUrl_cases h
  obtain ⟨-, howner, hslash, hname, hlast⟩ := splitOwnerName_cases hsplit
  exact ⟨howner, hslash, hname, hlast, not_mem_host h (by decide)⟩

theorem eq_of_map_hosted {x : Except FormatReason Hosted} {r : Hosted}
    (h : x.map Locator.hosted = .ok (.hosted r)) : x = .ok r := by
  obtain ⟨r', hr', heq⟩ := exists_of_map_eq_ok h
  rw [hr', Locator.hosted.inj heq]

theorem exists_url_of_readLegacy {input : Text} {r : Hosted} (h : readLegacy input = .ok r) :
    ∃ s, hostedOfUrl s = .ok r := by
  unfold readLegacy at h
  split at h
  · cases h
  · next url _ => exact ⟨url, h⟩

/-- Both grammars read a hosted repository as the one that some URL names. -/
theorem exists_url_of_read {input : Text} {mode : Mode} {r : Hosted}
    (h : read input mode = .ok (.hosted r)) : ∃ s, hostedOfUrl s = .ok r := by
  cases mode with
  | legacy => exact exists_url_of_readLegacy (eq_of_map_hosted h)
  | strict =>
    replace h : readStrict input = .ok (.hosted r) := h
    unfold readStrict at h
    split at h
    · cases h
    · split at h
      · exact ⟨input, eq_of_map_hosted h⟩
      · split at h
        · split at h <;> cases h
        · cases h

/-- A repository that was read by either grammar is well formed. -/
theorem wellFormed_of_read {input : Text} {mode : Mode} {r : Hosted}
    (h : read input mode = .ok (.hosted r)) : r.WellFormed := by
  obtain ⟨s, hs⟩ := exists_url_of_read h
  exact wellFormed_of_hostedOfUrl hs

end Grammar

/-- A repository that was parsed is well formed. -/
theorem Locator.wellFormed_of_parse {input : Text} {mode : Mode} {r : Hosted}
    (h : parse input mode = .ok (.hosted r)) : r.WellFormed := by
  rw [parse] at h
  cases hread : Grammar.read input mode with
  | error reason =>
    rw [hread] at h
    cases h
  | ok locator =>
    rw [hread] at h
    cases h
    exact Grammar.wellFormed_of_read hread

-- ---------------------------------------------------------------------------
-- Requests
-- ---------------------------------------------------------------------------

/-- If the reference is to a hosted repository, that is well-formed. -/
def Reference.WellFormed (r : Reference) : Prop :=
  ∀ repository, r.locator = .hosted repository → repository.WellFormed

/-- A reference that was parsed is well formed. -/
theorem Reference.wellFormed_of_parse {input : Text} {mode : Mode} {r : Reference}
    (h : parse input mode = .ok r) : r.WellFormed := by
  obtain ⟨locator, hlocator, rfl⟩ := exists_of_map_eq_ok h
  rintro repository rfl
  exact Locator.wellFormed_of_parse hlocator

theorem Reference.wellFormed_ofDirectory (path : Text) : (ofDirectory path).WellFormed := by
  intro repository h
  cases h

/-- A request leaves a reference well-formed, whether it succeeds or fails: it points where
it did, or where a text said. -/
theorem Change.wellFormed_apply {r : Reference} (h : r.WellFormed) (change : Change) :
    (change.apply r).1.WellFormed := by
  rw [apply_fst]
  intro repository hrepository
  cases change with
  | setUrl input mode =>
    cases hlocator : r.locator with
    | directory path =>
      rw [hlocator] at hrepository
      cases hrepository
    | hosted found =>
      rw [hlocator] at hrepository
      cases hparse : Locator.parse input mode with
      | error fault =>
        simp only [locatorAfter, hparse] at hrepository
        exact h repository (hlocator.trans hrepository)
      | ok locator =>
        simp only [locatorAfter, hparse] at hrepository
        exact Locator.wellFormed_of_parse (hrepository ▸ hparse)
  | setMetadata tags => exact h repository hrepository
  | appendMetadata tags => exact h repository hrepository
  | validate => exact h repository hrepository

/-- A run of requests keeps a reference well formed. -/
theorem Reference.wellFormed_after {r : Reference} (h : r.WellFormed) (changes : List Change) :
    (r.after changes).WellFormed := by
  induction changes generalizing r with
  | nil => exact h
  | cons change changes ih => exact ih (Change.wellFormed_apply h change)

/-- The references there are: made from a text or for a directory, and then asked
for anything. A clone of a reference is the same value. -/
inductive Reference.Obtained : Reference → Prop where
  | parsed {input : Text} {mode : Mode} {r : Reference} : parse input mode = .ok r → Obtained r
  | ofText {input : Text} {r : Reference} : ofText input = .ok r → Obtained r
  | ofDirectory (path : Text) : Obtained (ofDirectory path)
  | changed {r : Reference} (change : Change) : Obtained r → Obtained (change.apply r).1

/-- Every reference that can be obtained is well formed. -/
theorem Reference.wellFormed_of_obtained {r : Reference} (h : Obtained r) : r.WellFormed := by
  induction h with
  | parsed h => exact wellFormed_of_parse h
  | ofText h => exact wellFormed_of_parse h
  | ofDirectory path => exact wellFormed_ofDirectory path
  | changed change _ ih => exact Change.wellFormed_apply ih change

/-- Whatever is asked of a reference, and whether it succeeds or fails, the
repository that it points to in the end is well-formed. -/
theorem Reference.wellFormed_hosted_of_run {r : Reference} {changes : List Change}
    {repository : Hosted} (h : Obtained r)
    (hlocator : (r.after changes).locator = .hosted repository) :
    repository.WellFormed :=
  wellFormed_after (wellFormed_of_obtained h) changes repository hlocator

/-- A run in which requests fail and one brings slashes out of escapes. -/
theorem Reference.wellFormed_hosted_of_run_escapes :
    (Hosted.mk "Git.example.org:22".toList "a".toList "/b/c".toList).WellFormed := by
  have hobtained : Obtained (ofLocator (.hosted ⟨"h".toList, "o".toList, "n".toList⟩)) := by
    have hparse : parse "git://h/o/n".toList .legacy =
        .ok (ofLocator (.hosted ⟨"h".toList, "o".toList, "n".toList⟩)) := by decide +kernel
    exact .parsed hparse
  have hlocator : ((ofLocator (.hosted ⟨"h".toList, "o".toList, "n".toList⟩)).after
      [.setUrl "onlyoneword".toList .legacy, .appendMetadata ["tag".toList], .validate,
        .setUrl "git://Git.example.org:22/a%2F%2Fb%2fc/".toList .legacy]).locator =
      .hosted ⟨"Git.example.org:22".toList, "a".toList, "/b/c".toList⟩ := by decide +kernel
  exact wellFormed_hosted_of_run hobtained hlocator

-- ---------------------------------------------------------------------------
-- Canonical URLs
-- ---------------------------------------------------------------------------

/-- The first two slashes of a canonical URL are those between host, owner and
name. -/
theorem Hosted.eq_of_canonicalUrl_eq {r r' : Hosted} (h : r.WellFormed) (h' : r'.WellFormed)
    (heq : r.canonicalUrl = r'.canonicalUrl) : r = r' := by
  obtain ⟨host, owner, name⟩ := r
  obtain ⟨host', owner', name'⟩ := r'
  simp only [canonicalUrl, List.append_assoc, List.cons_append] at heq
  obtain ⟨hhost, heq⟩ := Text.eq_of_append_cons h.slash_not_mem_host h'.slash_not_mem_host heq
  obtain ⟨howner, hname⟩ := Text.eq_of_append_cons h.slash_not_mem_owner h'.slash_not_mem_owner heq
  simp only at hhost howner hname
  rw [hhost, howner, hname]

/-- Two texts name the same repository exactly if the canonical URLs of what they
name are the same, whichever grammars read them. -/
theorem Locator.canonicalUrl_eq_iff_of_parse {s₁ s₂ : Text} {m₁ m₂ : Mode} {r₁ r₂ : Hosted}
    (h₁ : parse s₁ m₁ = .ok (.hosted r₁)) (h₂ : parse s₂ m₂ = .ok (.hosted r₂)) :
    r₁.canonicalUrl = r₂.canonicalUrl ↔ r₁ = r₂ := by
  refine ⟨fun heq => ?_, fun heq => congrArg Hosted.canonicalUrl heq⟩
  exact Hosted.eq_of_canonicalUrl_eq (wellFormed_of_parse h₁) (wellFormed_of_parse h₂) heq

/-- Slashes that begin a name do not move the cut between owner and name. -/
theorem Locator.canonicalUrl_eq_iff_of_parse_slashes :
    (Hosted.mk "h".toList "o".toList "/n".toList).canonicalUrl =
        (Hosted.mk "h".toList "o".toList "n".toList).canonicalUrl ↔
      Hosted.mk "h".toList "o".toList "/n".toList = Hosted.mk "h".toList "o".toList "n".toList := by
  have h₁ : parse "git://h/o%2F/n".toList .legacy =
      .ok (.hosted ⟨"h".toList, "o".toList, "/n".toList⟩) := by decide +kernel
  have h₂ : parse "git://h//o/n".toList .legacy =
      .ok (.hosted ⟨"h".toList, "o".toList, "n".toList⟩) := by decide +kernel
  exact canonicalUrl_eq_iff_of_parse h₁ h₂

end RepoIdentity

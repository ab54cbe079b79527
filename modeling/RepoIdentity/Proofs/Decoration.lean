import RepoIdentity.Proofs.OwnerName
import RepoIdentity.Proofs.Shorthand

/-!
# Decorations

Slashes at the end of a reference, a query and a fragment are decorations: they are
read past, and the repository is the same without them. In a URL this holds whatever
the path is made of. The slashes that are appended may complete dots to a segment and
be taken for one slash less, but no escape reaches over a slash, and those that are
left are trimmed from the decoded path.

Without a scheme the same holds only as long as no scheme mark appears. Whether a
scheme is missing is seen by looking for the mark in the whole text, so one in a query
or at the seam, where a colon meets the slashes, makes the text a URL of its own.

* `readNetwork_decorated` — what is appended changes nothing but the slashes at the
  end of the path;
* `hostedOfUrl_decorated` — and so the same repository is named;
* `parse_decorated` — `https` URLs in both grammars;
* `parse_decorated_bare` — references without a scheme, as far as it is true of them.
-/

namespace RepoIdentity

-- ---------------------------------------------------------------------------
-- Slashes after a decoded path
-- ---------------------------------------------------------------------------

namespace Percent

/-- Slashes at the end are slashes at the end, also after an escape that is cut short. -/
theorem decode_append_slashes (s : Text) (k : Nat) :
    decode (s ++ List.replicate k '/') = decode s ++ Utf8.encode (List.replicate k '/') := by
  cases k with
  | zero => simp [show Utf8.encode [] = [] from rfl]
  | succ k =>
    have hpercent : '%' ∉ '/' :: List.replicate k '/' := by
      rw [← List.replicate_succ]
      exact fun h => absurd (List.eq_of_mem_replicate h) (by decide)
    rw [List.replicate_succ, decode_append (by decide),
      decode_eq_encode (not_hasEscape_of_not_mem hpercent)]

end Percent

namespace Url

-- ---------------------------------------------------------------------------
-- Decorated network URLs
-- ---------------------------------------------------------------------------

/-- The parts of a network URL: slashes, what stands before the next one, and the
rest. -/
theorem exists_place (w : Text) :
    ∃ slashes place path, w = slashes ++ (place ++ path) ∧
      (∀ c ∈ slashes, SchemeKind.network.isSlash c = true) ∧ (∀ c ∈ place, endsPort c = false) ∧
      (∀ c ∈ path.head?, endsPort c = true) ∧
      ∀ c ∈ (place ++ path).head?, SchemeKind.network.isSlash c = false := by
  have hbody := List.head?_dropWhile_not SchemeKind.network.isSlash w
  have hafter := List.head?_dropWhile_not (fun c => !endsPort c)
    (w.dropWhile SchemeKind.network.isSlash)
  refine ⟨w.takeWhile SchemeKind.network.isSlash,
    (w.dropWhile SchemeKind.network.isSlash).takeWhile fun c => !endsPort c,
    (w.dropWhile SchemeKind.network.isSlash).dropWhile fun c => !endsPort c, ?_, ?_, ?_, ?_, ?_⟩
  · rw [List.takeWhile_append_dropWhile, List.takeWhile_append_dropWhile]
  · exact List.all_eq_true.mp List.all_takeWhile
  · intro c hc
    have hends := List.all_eq_true.mp List.all_takeWhile c hc
    simpa using hends
  · intro c hc
    rw [Option.mem_def.mp hc] at hafter
    simpa using hafter
  · intro c hc
    rw [List.takeWhile_append_dropWhile] at hc
    rw [Option.mem_def.mp hc] at hbody
    simpa using hbody

/-- A URL of slashes alone has no host. -/
theorem readNetwork_nil (scheme : Text) : readNetwork scheme [] = .error .emptyHost := rfl

/-- Without a query or a fragment a network URL ends with its authority, or it goes on
with a slash. -/
theorem readNetwork_cases {scheme w : Text} {u : Url} (hw : ∀ c ∈ w, isPathEnd c = false)
    (h : readNetwork scheme w = .ok u) :
    u.path = ['/'] ∨ ∃ slashes place e t, w = slashes ++ (place ++ e :: t) ∧
      (∀ c ∈ slashes, SchemeKind.network.isSlash c = true) ∧ place ≠ [] ∧
      (∀ c ∈ place, endsPort c = false) ∧ SchemeKind.network.isSlash e = true := by
  obtain ⟨slashes, place, path, rfl, hslashes, hplace, hpath, hhead⟩ := exists_place w
  have hslash {c : Char} (hends : endsPort c = true) (hc : c ∈ path) :
      SchemeKind.network.isSlash c = true := by
    have hnot := hw c (List.mem_append_right _ (List.mem_append_right _ hc))
    rw [endsPort, hnot, Bool.or_false] at hends
    exact hends
  rw [readNetwork_append hslashes] at h
  cases path with
  | nil =>
    left
    rw [List.append_nil] at h
    by_cases hne : place = []
    · rw [hne, readNetwork_nil] at h
      cases h
    · rw [readNetwork_bare hne hplace] at h
      obtain ⟨_, -, rfl⟩ := exists_of_map_eq_ok h
      rfl
  | cons e t =>
    right
    have he := hslash (hpath e rfl) List.mem_cons_self
    refine ⟨slashes, place, e, t, rfl, hslashes, ?_, hplace, he⟩
    rintro rfl
    rw [hhead e rfl] at he
    cases he

/-- Decorations change nothing in a network URL but the slashes at the end of its
path. -/
theorem readNetwork_decorated {scheme w tail : Text} {u : Url} (k : Nat)
    (hw : ∀ c ∈ w, isPathEnd c = false) (hpath : u.path ≠ ['/'])
    (htail : ∀ c ∈ tail.head?, isPathEnd c = true) (h : readNetwork scheme w = .ok u) :
    ∃ j, readNetwork scheme (w ++ List.replicate k '/' ++ tail) =
      .ok { u with path := u.path ++ List.replicate j '/' } := by
  obtain ⟨slashes, place, e, t, rfl, hslashes, hne, hplace, he⟩ :=
    (readNetwork_cases hw h).resolve_left hpath
  have hparts : slashes ++ (place ++ e :: t) ++ List.replicate k '/' ++ tail =
      slashes ++ (place ++ e :: (t ++ List.replicate k '/' ++ tail)) := by simp
  obtain ⟨j, hj⟩ := networkPath_replicate t k
  rw [readNetwork_append hslashes, readNetwork_slash hne hplace he] at h
  obtain ⟨read, hread, rfl⟩ := exists_of_map_eq_ok h
  refine ⟨j, ?_⟩
  rw [hparts, readNetwork_append hslashes, readNetwork_slash hne hplace he, hread,
    networkPath_append _ htail, hj]
  rfl

/-- Blanks are dropped at the end of a tail only, since slashes and what begins a tail
are none. -/
theorem solid_trimEnd_decorated {s tail : Text} (k : Nat)
    (hlast : ∀ c ∈ s.getLast?, Ascii.isControlOrSpace c = false)
    (htail : ∀ c ∈ tail.head?, isPathEnd c = true) :
    ∃ tail', (∀ c ∈ tail'.head?, isPathEnd c = true) ∧
      solid (Text.trimEnd Ascii.isControlOrSpace (s ++ List.replicate k '/' ++ tail)) =
        solid s ++ List.replicate k '/' ++ tail' := by
  have hslashes : solid (List.replicate k '/') = List.replicate k '/' := by
    refine solid_eq_self fun c hc => ?_
    rw [List.eq_of_mem_replicate hc]
    rfl
  cases tail with
  | nil =>
    -- what was there does not end in blanks, and neither do slashes
    have hkept : ∀ c ∈ (s ++ List.replicate k '/').getLast?, Ascii.isControlOrSpace c = false := by
      cases k with
      | zero => simpa using hlast
      | succ k =>
        rw [List.replicate_succ', ← List.append_assoc, List.getLast?_concat]
        rintro c ⟨⟩
        rfl
    refine ⟨[], by simp, ?_⟩
    rw [List.append_nil, List.append_nil, Text.trimEnd_eq_self hkept, solid_append, hslashes]
  | cons e tail =>
    have he := htail e rfl
    have hkinds : Ascii.isControlOrSpace e = false ∧ Ascii.isTabOrNewline e = false := by
      rw [isPathEnd, Bool.or_eq_true, beq_iff_eq, beq_iff_eq] at he
      rcases he with rfl | rfl <;> exact ⟨rfl, rfl⟩
    refine ⟨e :: solid (Text.trimEnd Ascii.isControlOrSpace tail), ?_, ?_⟩
    · rintro c ⟨⟩
      exact he
    · rw [Text.trimEnd_append _ _ hkinds.1, solid_append, solid_append, hslashes, solid, solid,
        List.filter_cons_of_pos (by simp [hkinds.2])]
      rfl

end Url

namespace Grammar

-- ---------------------------------------------------------------------------
-- Decorated references
-- ---------------------------------------------------------------------------

/-- What may stand before a decoration: text without a query and a fragment that does
not end in blanks. -/
structure Decorable (s : Text) : Prop where
  question_not_mem : '?' ∉ s
  hash_not_mem : '#' ∉ s
  last : ∀ c ∈ s.getLast?, 0x20 < c.toNat

/-- Nothing, a query or a fragment. -/
def IsTail (tail : Text) : Prop := ∀ c ∈ tail.head?, c = '?' ∨ c = '#'

/-- The text with slashes at its end, and after them a query or a fragment. -/
def decorate (s : Text) (k : Nat) (tail : Text) : Text := s ++ List.replicate k '/' ++ tail

theorem splitOwnerName_root : splitOwnerName ['/'] = none := rfl

/-- Decorations do not change what a network URL names. -/
theorem hostedOfUrl_decorated {scheme rest tail : Text} {r : Hosted} (k : Nat)
    (hkind : Url.Scheme.kind scheme = .network) (hrest : Decorable rest) (htail : IsTail tail)
    (h : hostedOfUrl (scheme ++ ':' :: rest) = .ok r) :
    hostedOfUrl (scheme ++ ':' :: decorate rest k tail) = .ok r := by
  obtain ⟨url, path, hread, hdecode, hsplit, hhost⟩ := hostedOfUrl_cases h
  have hlast : ∀ c ∈ rest.getLast?, Ascii.isControlOrSpace c = false := by
    intro c hc
    rw [Ascii.isControlOrSpace, decide_eq_false_iff_not]
    exact Nat.not_le.mpr (hrest.last c hc)
  have hends : ∀ c ∈ Url.solid rest, Url.isPathEnd c = false := by
    intro c hc
    rw [Url.isPathEnd, Bool.or_eq_false_iff, beq_eq_false_iff_ne, beq_eq_false_iff_ne]
    have hmem := (Url.mem_solid.mp hc).1
    exact ⟨fun heq => hrest.question_not_mem (heq ▸ hmem),
      fun heq => hrest.hash_not_mem (heq ▸ hmem)⟩
  have htail' : ∀ c ∈ tail.head?, Url.isPathEnd c = true := by
    intro c hc
    rcases htail c hc with rfl | rfl <;> rfl
  -- the root has no owner, so that slashes come after a path and not after the authority
  have hpath : url.path ≠ ['/'] := by
    intro hroot
    rw [hroot, show Utf8.decode (Percent.decode ['/']) = .ok ['/'] from rfl] at hdecode
    rw [← Except.ok.inj hdecode, splitOwnerName_root] at hsplit
    cases hsplit
  obtain ⟨tail', hend, hsolid⟩ := Url.solid_trimEnd_decorated k hlast htail'
  rw [Url.read_of_network hkind, Text.trimEnd_eq_self hlast] at hread
  obtain ⟨j, hdecorated⟩ := Url.readNetwork_decorated k hends hpath hend hread
  rw [← hsolid, ← Url.read_of_network hkind] at hdecorated
  -- the slashes that are left come after the path and do not count
  have hbytes : Percent.decode (url.path ++ List.replicate j '/') =
      Utf8.encode (path ++ List.replicate j '/') := by
    rw [Percent.decode_append_slashes, Utf8.decode_eq_ok_iff.mp hdecode, Utf8.encode_append]
  rw [decorate, hostedOfUrl_of_divided hdecorated hbytes
    ((splitOwnerName_append_slashes path j).trans hsplit)]
  show Except.ok (Hosted.mk url.hostText r.owner r.name) = .ok r
  rw [← hhost]

theorem Decorable.of_append {before after : Text} (h : Decorable (before ++ after)) :
    Decorable after where
  question_not_mem := fun hmem => h.question_not_mem (List.mem_append_right _ hmem)
  hash_not_mem := fun hmem => h.hash_not_mem (List.mem_append_right _ hmem)
  last := by
    intro c hc
    refine h.last c ?_
    rw [List.getLast?_append, Option.mem_def.mp hc]
    rfl

theorem decorate_append (before after : Text) (k : Nat) (tail : Text) :
    decorate (before ++ after) k tail = before ++ decorate after k tail := by
  simp only [decorate, List.append_assoc]

/-- An `https` URL is decorated after its colon. -/
theorem hostedOfUrl_decorated_https {rest tail : Text} {r : Hosted} (k : Nat)
    (hrest : Decorable rest) (htail : IsTail tail)
    (h : hostedOfUrl ("https://".toList ++ rest) = .ok r) :
    hostedOfUrl ("https://".toList ++ decorate rest k tail) = .ok r := by
  have hkind : Url.Scheme.kind "https".toList = .network := by decide
  have hslashes : Decorable ("//".toList ++ rest) := by
    refine ⟨?_, ?_, ?_⟩
    · simpa using hrest.question_not_mem
    · simpa using hrest.hash_not_mem
    · intro c hc
      rw [List.getLast?_append] at hc
      cases hrest' : rest.getLast? with
      | none =>
        rw [hrest'] at hc
        cases hc
        decide
      | some d =>
        rw [hrest'] at hc
        cases hc
        exact hrest.last c hrest'
  have hread : hostedOfUrl ("https".toList ++ ':' :: ("//".toList ++ rest)) = .ok r := h
  have hdecorated := hostedOfUrl_decorated k hkind hslashes htail hread
  rw [decorate_append] at hdecorated
  exact hdecorated

/-- Decorations never change the repository that an `https` URL names: in the strict
grammar it stays what it was, whatever the path is made of, and the legacy grammar
reads the same. -/
theorem parse_decorated {s tail : Text} {r : Hosted} (k : Nat) (hhttps : "https://".toList <+: s)
    (hs : Decorable s) (htail : IsTail tail) (h : Locator.parse s .strict = .ok (.hosted r)) :
    Locator.parse (decorate s k tail) .strict = .ok (.hosted r) ∧
      Locator.parse (decorate s k tail) .legacy = .ok (.hosted r) := by
  obtain ⟨rest, rfl⟩ := hhttps
  have hstart (rest : Text) : "https://".toList <+: "https://".toList ++ rest :=
    List.prefix_append _ rest
  have helaborate (rest : Text) := elaborate_of_scheme "https".toList rest
  rw [← parse_legacy_of_https (hstart rest)] at h
  have hread := (parse_legacy_eq_ok_iff (helaborate rest)).mp h
  have hdecorated := hostedOfUrl_decorated_https k hs.of_append htail hread
  have hlegacy := (parse_legacy_eq_ok_iff (helaborate (decorate rest k tail))).mpr hdecorated
  rw [decorate_append, ← parse_legacy_of_https (hstart _)]
  exact ⟨hlegacy, hlegacy⟩

/-- A path with dots and an escape that is cut short, under slashes, a query and a
fragment with blanks at its end. -/
theorem parse_decorated_dots :
    Locator.parse "https://me@[::1]\\o/n%4/x/..//?a b#://\t".toList .strict =
        .ok (.hosted ⟨"[::1]".toList, "o".toList, "n%4".toList⟩) ∧
      Locator.parse "https://me@[::1]\\o/n%4/x/..//?a b#://\t".toList .legacy =
        .ok (.hosted ⟨"[::1]".toList, "o".toList, "n%4".toList⟩) := by
  have hdecorable : Decorable "https://me@[::1]\\o/n%4/x/..".toList := by
    refine ⟨by decide, by decide, ?_⟩
    rintro c ⟨⟩
    decide
  have htail : IsTail "?a b#://\t".toList := by
    rintro c ⟨⟩
    exact Or.inl rfl
  have hread : Locator.parse "https://me@[::1]\\o/n%4/x/..".toList .strict =
      .ok (.hosted ⟨"[::1]".toList, "o".toList, "n%4".toList⟩) := by decide +kernel
  exact parse_decorated 2 ⟨_, rfl⟩ hdecorable htail hread

-- ---------------------------------------------------------------------------
-- References without a scheme
-- ---------------------------------------------------------------------------

/-- Decorations do not change the repository that a reference without a scheme names,
as long as no scheme mark appears with them. With one nothing is filled in any more,
and the text is read as the URL that it is. -/
theorem parse_decorated_bare {s tail : Text} {r : Hosted} (k : Nat) (hcount : 2 ≤ s.count '/')
    (hmark : ¬ "://".toList <:+: s) (hs : Decorable s) (htail : IsTail tail)
    (h : Locator.parse s .legacy = .ok (.hosted r)) :
    (¬ "://".toList <:+: decorate s k tail →
      Locator.parse (decorate s k tail) .legacy = .ok (.hosted r)) ∧
    ("://".toList <:+: decorate s k tail →
      Locator.parse (decorate s k tail) .legacy =
        ((hostedOfUrl (decorate s k tail)).map .hosted).mapError
          (.malformed (decorate s k tail))) := by
  have hmore : 2 ≤ (decorate s k tail).count '/' := by
    rw [decorate, List.append_assoc, List.count_append]
    omega
  have helaborate := elaborate_of_two_le_count (Text.hasMark_eq_false_iff.mpr hmark) hcount
  have hread := (parse_legacy_eq_ok_iff helaborate).mp h
  refine ⟨fun hnone => ?_, fun hin => ?_⟩
  · have hmore' := elaborate_of_two_le_count (Text.hasMark_eq_false_iff.mpr hnone) hmore
    exact (parse_legacy_eq_ok_iff hmore').mpr (hostedOfUrl_decorated_https k hs htail hread)
  · exact parse_legacy_of_elaborate (elaborate_of_hasMark (Text.hasMark_iff.mpr hin))

/-- A reference that names the usual host. -/
theorem parse_github : Locator.parse "github.com/a/b".toList .legacy =
    .ok (.hosted ⟨"github.com".toList, "a".toList, "b".toList⟩) := by
  have hpath : Percent.decode (Url.networkPath (Url.solid
      (Text.trimEnd Ascii.isControlOrSpace "a/b".toList))) = Utf8.encode "/a/b".toList := by decide
  exact parse_legacy_of_defaultHost rfl hpath rfl

/-- Two slashes, and a query with a slash less than a scheme mark. -/
theorem parse_decorated_bare_query :
    Locator.parse "github.com/a/b//?u=https:/x".toList .legacy =
      .ok (.hosted ⟨"github.com".toList, "a".toList, "b".toList⟩) := by
  have hdecorable : Decorable "github.com/a/b".toList := by
    refine ⟨by decide, by decide, ?_⟩
    rintro c ⟨⟩
    decide
  have htail : IsTail "?u=https:/x".toList := by
    rintro c ⟨⟩
    exact Or.inl rfl
  have hmark : ¬ "://".toList <:+: "github.com/a/b".toList :=
    Text.hasMark_eq_false_iff.mp (by decide)
  have hread := parse_decorated_bare 2 (by decide) hmark hdecorable htail parse_github
  exact hread.1 (Text.hasMark_eq_false_iff.mp (by decide))

/-- A scheme mark in the query makes a scheme of all that stands before it, and no
scheme begins like that. -/
theorem parse_decorated_bare_mark :
    2 ≤ "github.com/a/b".toList.count '/' ∧ ¬ "://".toList <:+: "github.com/a/b".toList ∧
      Decorable "github.com/a/b".toList ∧ IsTail "?u=https://x".toList ∧
      Locator.parse "github.com/a/b".toList .legacy =
        .ok (.hosted ⟨"github.com".toList, "a".toList, "b".toList⟩) ∧
      Locator.parse (decorate "github.com/a/b".toList 0 "?u=https://x".toList) .legacy =
        .error (.malformed "github.com/a/b?u=https://x".toList (.badUrl (.refused .noScheme))) := by
  refine ⟨by decide, Text.hasMark_eq_false_iff.mp (by decide), ⟨by decide, by decide, ?_⟩, ?_,
    parse_github, by decide +kernel⟩
  · rintro c ⟨⟩
    decide
  · rintro c ⟨⟩
    exact Or.inl rfl

end Grammar

end RepoIdentity

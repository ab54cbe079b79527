import RepoIdentity.Proofs.OpaqueHost
import RepoIdentity.Proofs.Shorthand

/-!
# URLs without a host

A reference that names no host is meant to have the usual one, and that is filled in
where the whole text is an owner and a name. A URL is read as it is, and it may name no
host either; then nothing is filled in, and the host of the repository is empty. There
are two kinds of such URLs. Where the scheme is not special, the authority may be left
out or name nothing. A file URL has no host if the machine itself is named, or none, and
it loses the one it has if its path goes to a drive: the drive letter may come after
other segments, if dots have taken all of them back.

* `Trail.EntersDrive`, `Trail.onDrive_follow` — the segments that lead to a drive, from
  what one segment does (`Trail.onDrive_step`);
* `NamesNone`, `Hostless` — the forms of a URL that names no host;
* `host_eq_none_iff` — that there are no others;
* `Grammar.host_eq_nil_iff_of_parse` — repositories without a host in the legacy grammar.
-/

namespace RepoIdentity

namespace Url

-- ---------------------------------------------------------------------------
-- Drive letters
-- ---------------------------------------------------------------------------

/-- Tabs and line ends at the beginning are left out like all others. -/
theorem solid_dropWhile (s : Text) : solid (s.dropWhile Ascii.isTabOrNewline) = solid s := by
  have hblank : solid (s.takeWhile Ascii.isTabOrNewline) = [] := by
    rw [solid, List.filter_eq_nil_iff]
    intro c hc
    simpa using List.all_eq_true.mp (List.all_takeWhile (p := Ascii.isTabOrNewline) (l := s)) c hc
  calc solid (s.dropWhile Ascii.isTabOrNewline)
      = solid (s.takeWhile Ascii.isTabOrNewline) ++ solid (s.dropWhile Ascii.isTabOrNewline) := by
        rw [hblank, List.nil_append]
    _ = solid s := by rw [← solid_append, List.takeWhile_append_dropWhile]

/-- The first character that is kept is the first that is no tab or line break. -/
theorem solid_cons_of_head {s rest : Text} {c : Char}
    (h : s.dropWhile Ascii.isTabOrNewline = c :: rest) : solid s = c :: solid rest := by
  have hc : Ascii.isTabOrNewline c = false := by
    have hhead := List.head?_dropWhile_not Ascii.isTabOrNewline s
    rw [h] at hhead
    simpa using hhead
  rw [← solid_dropWhile, h, solid, List.filter_cons, hc]
  rfl

namespace Path

/-- A drive letter is a segment of its own: nothing is cut off it. -/
theorem cutDrive_of_isDriveLetter {w : Text} (h : isDriveLetter (solid w) = true) :
    cutDrive w = none := by
  unfold cutDrive
  split
  · rfl
  · next letter more hw =>
    split
    · next gap rest hmore =>
      split
      · next hcut =>
        -- the letter, the colon and the rest would be three characters or more
        have hgap : solid (gap :: rest) = solid rest := by
          have hblank : Ascii.isTabOrNewline gap = true := by
            simp only [Bool.and_eq_true] at hcut
            exact hcut.1.2
          rw [solid, List.filter_cons, hblank]
          rfl
        rw [solid_cons_of_head hw, solid_cons_of_head hmore, hgap] at h
        cases hrest : solid rest with
        | nil => simp [hrest] at hcut
        | cons c more =>
          rw [hrest] at h
          cases h
      · rfl
    · rfl

/-- A drive letter is not made of dots. -/
theorem isDots_of_isDriveLetter {segment : Text} (h : isDriveLetter segment = true) :
    isDoubleDot segment = false ∧ isSingleDot segment = false := by
  match segment, h with
  | [letter, c], h =>
    rw [isDriveLetter, Bool.and_eq_true, Bool.or_eq_true, beq_iff_eq, beq_iff_eq] at h
    rcases h.2 with rfl | rfl <;> simp [isDoubleDot, isSingleDot, Ascii.lower]

end Path

namespace Trail

/-- Leaving a directory does not leave the drive. -/
theorem onDrive_leave (t : Trail) : t.leave.onDrive = t.onDrive := by
  unfold leave
  split
  · rfl
  · split <;> rfl

/-- A drive is entered by its letter, as the first segment. -/
theorem onDrive_enter {t : Trail} {w : Text} :
    (t.enter .file w).onDrive = true ↔
      t.onDrive = true ∨ t.passed = [] ∧ Path.isDriveLetter (solid w) = true := by
  unfold enter
  dsimp only
  split
  · next hroot =>
    cases hdrive : Path.isDriveLetter (solid w) with
    | true => simp [Path.cutDrive_of_isDriveLetter hdrive, hroot.2]
    | false => split <;> simp
  · next hroot =>
    have hpassed : t.passed ≠ [] := fun hnil => hroot ⟨rfl, hnil⟩
    simp [hpassed]

/-- One segment leads to a drive if it is a drive letter and nothing is before it. No
later segment leads away again. -/
theorem onDrive_step {t : Trail} {w : Text} :
    (t.step .file w).onDrive = true ↔
      t.onDrive = true ∨ t.passed = [] ∧ Path.isDriveLetter (solid w) = true := by
  unfold step
  cases hdrive : Path.isDriveLetter (solid w) with
  | true =>
    obtain ⟨hdouble, hsingle⟩ := Path.isDots_of_isDriveLetter hdrive
    rw [hdouble, hsingle, if_neg Bool.false_ne_true, if_neg Bool.false_ne_true, onDrive_enter,
      hdrive]
  | false =>
    split
    · simp [onDrive_leave]
    · split
      · simp
      · rw [onDrive_enter, hdrive]

/-- The last segment counts as any other. -/
theorem onDrive_finish (kind : SchemeKind) (t : Trail) (w : Text) :
    (t.finish kind w).onDrive = (t.step kind w).onDrive := by
  unfold finish
  dsimp only
  split <;> rfl

/-- From the trail the segments lead to a drive: one of them is a drive letter, and the
ones before it leave nothing before it. -/
def EntersDrive (t : Trail) (segments : List Text) : Prop :=
  ∃ before letter after, segments = before ++ letter :: after ∧
    Path.isDriveLetter (solid letter) = true ∧ (before.foldl (step .file) t).passed = []

theorem not_entersDrive_nil (t : Trail) : ¬ t.EntersDrive [] := by
  rintro ⟨before, letter, after, heq, -⟩
  exact absurd heq.symm (List.append_ne_nil_of_right_ne_nil before (List.cons_ne_nil letter after))

/-- A drive is entered with the first segment or later. -/
theorem entersDrive_cons {t : Trail} {w : Text} {segments : List Text} :
    t.EntersDrive (w :: segments) ↔
      (t.passed = [] ∧ Path.isDriveLetter (solid w) = true) ∨
        (t.step .file w).EntersDrive segments := by
  constructor
  · rintro ⟨before, letter, after, heq, hletter, hroot⟩
    rcases List.cons_eq_append_iff.mp heq with ⟨rfl, hafter⟩ | ⟨before, rfl, htail⟩
    · obtain ⟨rfl, -⟩ := List.cons_eq_cons.mp hafter
      exact .inl ⟨hroot, hletter⟩
    · exact .inr ⟨before, letter, after, htail, hletter, hroot⟩
  · rintro (⟨hroot, hletter⟩ | ⟨before, letter, after, rfl, hletter, hroot⟩)
    · exact ⟨[], w, segments, rfl, hletter, hroot⟩
    · exact ⟨w :: before, letter, after, rfl, hletter, hroot⟩

/-- A path ends on a drive if it began on one or enters one. -/
theorem onDrive_follow (t : Trail) (segments : List Text) :
    (t.follow .file segments).onDrive = true ↔ t.onDrive = true ∨ t.EntersDrive segments := by
  induction segments generalizing t with
  | nil => exact (or_iff_left t.not_entersDrive_nil).symm
  | cons w rest ih =>
    cases rest with
    | nil =>
      rw [follow, onDrive_finish, onDrive_step, entersDrive_cons,
        or_iff_left (not_entersDrive_nil _)]
    | cons next rest =>
      rw [follow, ih, onDrive_step, or_assoc, ← entersDrive_cons]
      exact List.cons_ne_nil next rest

end Trail

-- ---------------------------------------------------------------------------
-- File URLs
-- ---------------------------------------------------------------------------

/-- The written path of a file URL leads to a drive. -/
def LeadsToDrive (written : Text) : Prop :=
  Trail.start.EntersDrive (Path.segmentsOf .file (beforeQuery written))

/-- A file URL is without a host if none was given, or if its path leads to a drive. -/
theorem fileUrl_host_eq_none_iff {host : Option Host} {written : Text} :
    (fileUrl host written).host = none ↔ host = none ∨ LeadsToDrive written := by
  have hdrive := Trail.onDrive_follow Trail.start (Path.segmentsOf .file (beforeQuery written))
  rw [or_iff_right (show ¬ Trail.start.onDrive = true from Bool.false_ne_true)] at hdrive
  rw [fileUrl, LeadsToDrive, ← hdrive, ← Path.resolve]
  dsimp only
  split
  · next h => simp [h]
  · next h => simp [h]

/-- What follows the two slashes of a file URL. -/
def filePlace? (rest : Text) : Option Text :=
  (Path.afterSlash? .file rest).bind (Path.afterSlash? .file)

/-- What stands where the host of a file URL would. -/
def fileName (place : Text) : Text := solid (place.takeWhile fun c => !endsAuthority .file c)

/-- The written path of a file URL after its host. -/
def afterFileName (place : Text) : Text :=
  Path.dropSlash .file (place.dropWhile fun c => !endsAuthority .file c)

/-- Nothing, a drive letter or the machine itself. -/
def NamesNoMachine (name : Text) : Prop :=
  name = [] ∨ Path.isDriveLetter name = true ∨
    Host.readSpecial name = .ok (.domain "localhost".toList)

theorem isLocal_iff {host : Host} : host.isLocal = true ↔ host = .domain "localhost".toList := by
  cases host with
  | domain name => rw [Host.isLocal, beq_iff_eq, Host.domain.injEq]
  | _ => exact iff_of_false Bool.false_ne_true nofun

/-- The host of a file URL is absent if it names no machine or the path leads to a drive. -/
theorem readFileHost_host_eq_none_iff {place : Text} {u : Url} (h : readFileHost place = .ok u) :
    u.host = none ↔ NamesNoMachine (fileName place) ∨ LeadsToDrive (afterFileName place) := by
  unfold readFileHost at h
  dsimp only at h
  rw [← fileName] at h
  have hnone {written : Text} (hname : NamesNoMachine (fileName place)) :
      (fileUrl none written).host = none ↔
        NamesNoMachine (fileName place) ∨ LeadsToDrive (afterFileName place) :=
    iff_of_true (fileUrl_host_eq_none_iff.mpr (.inl rfl)) (.inl hname)
  split at h
  · next hletter =>
    cases h
    exact hnone (.inr (.inl hletter))
  · next hletter =>
    split at h
    · next hempty =>
      cases h
      exact hnone (.inl (List.isEmpty_iff.mp hempty))
    · next hempty =>
      split at h
      · cases h
      · next host hhost =>
        split at h
        · next hlocal =>
          cases h
          rw [isLocal_iff] at hlocal
          exact hnone (.inr (.inr (hlocal ▸ hhost)))
        · next hlocal =>
          cases h
          -- the host that was read is named by the text
          have hnamed : ¬ NamesNoMachine (fileName place) := by
            rintro (hnil | hdrive | hself)
            · exact hempty (List.isEmpty_iff.mpr hnil)
            · exact hletter hdrive
            · rw [hhost] at hself
              exact hlocal (isLocal_iff.mpr (Except.ok.inj hself))
          rw [fileUrl_host_eq_none_iff, or_iff_right hnamed, or_iff_right (Option.some_ne_none _),
            afterFileName]

-- ---------------------------------------------------------------------------
-- All URLs
-- ---------------------------------------------------------------------------

/-- What follows the colon of a URL names no host. A network URL always names one. -/
inductive NamesNone : SchemeKind → (rest : Text) → Prop where
  /-- There is no authority. -/
  | noAuthority {rest : Text} (h : ¬ "//".toList <+: solid rest) : NamesNone .other rest
  /-- The authority names nothing. -/
  | noName {rest place : Text} (hplace : solid rest = "//".toList ++ place)
      (hname : hostName .other place = []) : NamesNone .other rest
  /-- There is no place for a host between two slashes and the path. -/
  | fewSlashes {rest : Text} (h : filePlace? rest = none) : NamesNone .file rest
  | noMachine {rest place : Text} (hplace : filePlace? rest = some place)
      (hname : NamesNoMachine (fileName place)) : NamesNone .file rest
  /-- The path has a drive instead. -/
  | drive {rest place : Text} (hplace : filePlace? rest = some place)
      (hdrive : LeadsToDrive (afterFileName place)) : NamesNone .file rest

/-- The text is a URL that names no host. -/
def Hostless (s : Text) : Prop :=
  ∃ scheme rest, Scheme.read (Text.trim Ascii.isControlOrSpace s) = some (scheme, rest) ∧
    NamesNone (Scheme.kind scheme) rest

/-- When a file URL has no host, as it is written. -/
theorem readFile_host_eq_none_iff {rest : Text} {u : Url} (h : readFile rest = .ok u) :
    u.host = none ↔ NamesNone .file rest := by
  have hplace : filePlace? rest =
      (Path.afterSlash? .file rest).bind (Path.afterSlash? .file) := rfl
  -- a path after fewer than two slashes
  have hfew {written : Text} (hnone : filePlace? rest = none) :
      (fileUrl none written).host = none ↔ NamesNone .file rest :=
    iff_of_true (fileUrl_host_eq_none_iff.mpr (.inl rfl)) (.fewSlashes hnone)
  unfold readFile at h
  split at h
  · next hfirst =>
    cases h
    exact hfew (by rw [hplace, hfirst]; rfl)
  · next after hfirst =>
    rw [hfirst, Option.bind_some] at hplace
    split at h
    · next hsecond =>
      cases h
      exact hfew (hplace.trans hsecond)
    · next place hsecond =>
      rw [hsecond] at hplace
      rw [readFileHost_host_eq_none_iff h]
      constructor
      · rintro (hname | hdrive)
        · exact .noMachine hplace hname
        · exact .drive hplace hdrive
      · rintro (_ | _ | hnone | ⟨hplace', hname⟩ | ⟨hplace', hdrive⟩)
        · rw [hplace] at hnone
          cases hnone
        · obtain rfl := Option.some.inj (hplace.symm.trans hplace')
          exact .inl hname
        · obtain rfl := Option.some.inj (hplace.symm.trans hplace')
          exact .inr hdrive

/-- A host of another scheme is absent if its name is empty. -/
theorem readOpaque_eq_none_iff {name : Text} {host : Option Host}
    (h : Host.readOpaque name = .ok host) : host = none ↔ name = [] := by
  unfold Host.readOpaque at h
  split at h
  · next hhead =>
    obtain ⟨found, -, rfl⟩ := exists_of_map_eq_ok h
    refine iff_of_false (Option.some_ne_none _) ?_
    rintro rfl
    cases hhead
  · split at h
    · cases h
    · split at h
      · next hempty =>
        cases h
        exact iff_of_true rfl (List.isEmpty_iff.mp hempty)
      · next hempty =>
        cases h
        exact iff_of_false (Option.some_ne_none _) fun hnil => hempty (List.isEmpty_iff.mpr hnil)

/-- When a URL of another scheme has no host, as it is written. -/
theorem readOther_host_eq_none_iff {scheme rest : Text} {u : Url}
    (h : readOther scheme (solid rest) = .ok u) : u.host = none ↔ NamesNone .other rest := by
  rcases readOther_cases h with ⟨hnone, hhost⟩ | ⟨place, hsome, hhost⟩
  · refine iff_of_true hhost (.noAuthority fun hstarts => ?_)
    rw [← Text.dropPrefix?_isSome_iff, hnone] at hstarts
    cases hstarts
  · have hplace := Text.eq_append_of_dropPrefix? hsome
    rw [readOpaque_eq_none_iff hhost]
    constructor
    · exact fun hname => .noName hplace hname
    · rintro (hnone | ⟨hplace', hname⟩)
      · exact absurd ⟨place, hplace.symm⟩ hnone
      · rw [List.append_cancel_left (hplace.symm.trans hplace')]
        exact hname

/-- A URL has no host exactly if it is written in one of the forms that name none. -/
theorem host_eq_none_iff {s : Text} {u : Url} (h : read s = .ok u) :
    u.host = none ↔ Hostless s := by
  unfold read at h
  unfold Hostless
  cases hscheme : Scheme.read (Text.trim Ascii.isControlOrSpace s) with
  | none =>
    rw [hscheme] at h
    cases h
  | some pieces =>
    obtain ⟨scheme, rest⟩ := pieces
    rw [hscheme] at h
    have hone : (∃ scheme' rest', some (scheme, rest) = some (scheme', rest') ∧
        NamesNone (Scheme.kind scheme') rest') ↔ NamesNone (Scheme.kind scheme) rest := by
      simp
    rw [hone]
    simp only at h
    cases hkind : Scheme.kind scheme with
    | file =>
      rw [hkind] at h
      exact readFile_host_eq_none_iff h
    | network =>
      rw [hkind] at h
      exact iff_of_false (exists_host_of_readNetwork h).2 nofun
    | other =>
      rw [hkind] at h
      exact readOther_host_eq_none_iff h

/-- Host and port are written with some text if there is a host. -/
theorem hostText_eq_nil_iff {s : Text} {u : Url} (h : read s = .ok u) :
    u.hostText = [] ↔ u.host = none := by
  have hplaced := placed_of_read h
  rw [hostText_eq]
  cases hhost : u.host with
  | none =>
    rw [hplaced.port_eq_none hhost]
    exact iff_of_true rfl rfl
  | some host =>
    refine iff_of_false (fun hnil => ?_) (Option.some_ne_none host)
    exact Host.text_ne_nil (hplaced.isRead host hhost) (List.append_eq_nil_iff.mp hnil).1

end Url

-- ---------------------------------------------------------------------------
-- The legacy grammar
-- ---------------------------------------------------------------------------

namespace Grammar

/-- A repository of the legacy grammar has an empty host exactly if the URL that the text
stands for names none. A text without a scheme mark stands for a URL that does, and one
with a single slash for a URL on the usual host. -/
theorem host_eq_nil_iff_of_parse {s : Text} {r : Hosted}
    (h : Locator.parse s .legacy = .ok (.hosted r)) :
    (∃ url, elaborate s = .ok url ∧ (r.host = [] ↔ Url.Hostless url)) ∧
    (¬ "://".toList <:+: s → r.host ≠ []) ∧
    (s.count '/' = 1 → r.host = "github.com".toList) := by
  have hlegacy : readLegacy s = .ok r := eq_of_map_hosted (read_of_parse h)
  cases helaborate : elaborate s with
  | error reason =>
    rw [readLegacy, helaborate] at hlegacy
    cases hlegacy
  | ok url =>
    rw [readLegacy_of_elaborate helaborate] at hlegacy
    obtain ⟨u, path, hread, -, -, hhost⟩ := hostedOfUrl_cases hlegacy
    rw [hhost]
    refine ⟨⟨url, rfl, ?_⟩, fun hnone => ?_, fun hone => ?_⟩
    · rw [Url.hostText_eq_nil_iff hread, Url.host_eq_none_iff hread]
    · obtain ⟨rest, rfl⟩ :=
        prefix_of_elaborate (Text.hasMark_eq_false_iff.mpr hnone) helaborate
      have hkind : Url.Scheme.kind "https".toList = .network := by decide
      have hcolon : Url.read ("https".toList ++ ':' :: ("//".toList ++ rest)) = .ok u := hread
      exact Url.hostText_ne_nil_of_network hkind hcolon
    · rw [elaborate_shorthand hone] at helaborate
      obtain rfl := Except.ok.inj helaborate
      rw [read_after_defaultHost] at hread
      obtain rfl := Except.ok.inj hread
      rfl

/-- An address that is given up for a drive: the dots take back the segment before the
drive letter. -/
theorem host_eq_nil_iff_of_parse_drive :
    Locator.parse "file://[::1]/x/../C|/b/c".toList .legacy =
        .ok (.hosted ⟨[], "C:".toList, "b/c".toList⟩) ∧
      Url.Hostless "file://[::1]/x/../C|/b/c".toList := by
  have hparse : Locator.parse "file://[::1]/x/../C|/b/c".toList .legacy =
      .ok (.hosted ⟨[], "C:".toList, "b/c".toList⟩) := by decide +kernel
  obtain ⟨⟨url, helaborate, hiff⟩, -⟩ := host_eq_nil_iff_of_parse hparse
  obtain rfl : "file://[::1]/x/../C|/b/c".toList = url := Except.ok.inj helaborate
  exact ⟨hparse, hiff.mp rfl⟩

/-- A path on the machine itself is taken for a repository without a host. The usual host
is not filled in, and the naming rules refuse it. -/
theorem host_eq_nil_of_parse_file :
    Locator.parse "file:///a/b".toList .legacy =
        .ok (.hosted ⟨[], "a".toList, "b".toList⟩) ∧
      (Hosted.mk [] "a".toList "b".toList).validate = .error (.unsupportedHost []) := by
  refine ⟨by decide +kernel, by decide⟩

end Grammar

end RepoIdentity

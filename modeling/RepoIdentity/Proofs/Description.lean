import RepoIdentity.Proofs.OwnerName
import RepoIdentity.Proofs.Refusal
import RepoIdentity.Reference.Forms

/-!
# What a description looks like

A description has a line for each field, and the values stand in it as they are. So it
can be read line by line as long as no value has a line feed. A host never has one, and
neither has the path of a directory, which is checked for controls. Owner and name come out
of a path that was decoded after the reader of URLs had dropped its line ends; an escaped
line feed gets past it, and what follows it begins a line that may look like a field.

* `isSolid_path_of_read` — a path is read without tabs and line ends;
* `lineFeed_not_mem_iff` — owner and name have a line feed exactly if one is escaped;
* `splitOn_describe_eq_lines_iff` — when a description is divided into its lines;
* `Reference.splitOn_describe_iff_of_parse` — when the description of what a text names is.
-/

namespace RepoIdentity

-- ---------------------------------------------------------------------------
-- Paths without line ends
-- ---------------------------------------------------------------------------

namespace Url

theorem isSolid_path_fileUrl (host : Option Host) (written : Text) :
    IsSolid (fileUrl host written).path := by
  refine List.forall_mem_cons.mpr ⟨rfl, ?_⟩
  exact (isSolid_text_resolve .file _).of_sublist (List.dropWhile_suffix _).sublist

theorem isSolid_path_of_readOther {scheme s : Text} {u : Url} (hs : IsSolid s)
    (h : readOther scheme s = .ok u) : IsSolid u.path := by
  unfold readOther at h
  split at h
  · split at h
    · cases h
    · cases h
      unfold pathAfterAuthority
      dsimp only
      split
      · exact List.forall_mem_nil _
      · exact isSolid_text_resolve .other _
  · cases h
    exact isSolid_text_resolve .other _
  · cases h
    exact hs.of_sublist (beforeQuery_sublist _)

/-- The path of a web address is solid. -/
theorem isSolid_path_of_readNetwork {scheme s : Text} {u : Url}
    (h : readNetwork scheme s = .ok u) : IsSolid u.path := by
  unfold readNetwork at h
  split at h
  · cases h
  · cases h
    exact isSolid_text_resolve .network _

/-- A path is read without tabs and line ends. -/
theorem isSolid_path_of_read {s : Text} {u : Url} (h : read s = .ok u) : IsSolid u.path := by
  unfold read at h
  split at h
  · cases h
  · next scheme rest _ =>
    split at h
    · obtain ⟨host, written, rfl, -⟩ := readFile_cases h
      exact isSolid_path_fileUrl host written
    · exact isSolid_path_of_readNetwork h
    · exact isSolid_path_of_readOther (isSolid_solid rest) h

end Url

-- ---------------------------------------------------------------------------
-- Line feeds in paths, owners and names
-- ---------------------------------------------------------------------------

namespace Grammar

/-- A hosted repository is named by the URL that the text stands for. -/
theorem exists_standsFor_of_read {input : Text} {mode : Mode} {r : Hosted}
    (h : read input mode = .ok (.hosted r)) :
    ∃ url, StandsFor input mode url ∧ hostedOfUrl url = .ok r := by
  cases mode with
  | legacy =>
    have hlegacy : readLegacy input = .ok r := eq_of_map_hosted h
    unfold readLegacy at hlegacy
    split at hlegacy
    · cases hlegacy
    · next url helaborate => exact ⟨url, elaborate_eq_ok_iff.mp helaborate, hlegacy⟩
  | strict =>
    have hstrict : readStrict input = .ok (.hosted r) := h
    have hbegins := prefix_of_readStrict hstrict
    obtain ⟨rest, rfl⟩ := hbegins
    rw [readStrict_https] at hstrict
    exact ⟨_, .strict ⟨rest, rfl⟩, eq_of_map_hosted hstrict⟩

/-- Only the strict grammar names a directory, and only one that passes its check. -/
theorem check_of_read_directory {input path : Text} {mode : Mode}
    (h : read input mode = .ok (.directory path)) : FilePath.check path = .ok () := by
  cases mode with
  | legacy =>
    obtain ⟨r, -, hr⟩ := exists_of_map_eq_ok h
    cases hr
  | strict =>
    have hstrict : readStrict input = .ok (.directory path) := h
    rw [eq_of_readStrict_directory hstrict, readStrict_file] at hstrict
    cases hcheck : FilePath.check path with
    | ok checked => rfl
    | error cause =>
      rw [hcheck] at hstrict
      cases hstrict

/-- No directory that was read holds a line feed. -/
theorem lineFeed_not_mem_directory {input path : Text} {mode : Mode}
    (h : read input mode = .ok (.directory path)) : '\n' ∉ path := by
  have hunits := FilePath.check_eq_ok_iff.mp (check_of_read_directory h)
  exact fun hmem => absurd (FilePath.isControl_of_mem hunits _ hmem) (by decide)

/-- Owner and name have no line feed exactly if the path of the URL has no escape of one. -/
theorem lineFeed_not_mem_iff {url : Text} {r : Hosted} {u : Url} (hread : Url.read url = .ok u)
    (h : hostedOfUrl url = .ok r) : ('\n' ∉ r.owner ∧ '\n' ∉ r.name) ↔
      ¬ "%0A".toList <:+: u.path ∧ ¬ "%0a".toList <:+: u.path := by
  obtain ⟨u', path, hread', hdecode, hsplit, -⟩ := hostedOfUrl_cases h
  obtain rfl := Except.ok.inj (hread.symm.trans hread')
  have hwritten : '\n' ∉ u.path := fun hmem =>
    absurd (Url.isSolid_path_of_read hread _ hmem) (by decide)
  rw [← not_or, ← not_or, mem_owner_or_name_iff rfl (b := 0x0A) (by decide) (by decide) (by decide)
    (by decide) (Utf8.decode_eq_ok_iff.mp hdecode) hsplit, or_iff_right hwritten,
    Percent.hasEscapeOf_lineFeed_iff]

end Grammar

-- ---------------------------------------------------------------------------
-- Lines
-- ---------------------------------------------------------------------------

namespace Reference

theorem lines_ne_nil (r : Reference) : r.lines ≠ [] := List.cons_ne_nil _ _

/-- A description is divided into its lines exactly if no line has a line feed. -/
theorem splitOn_describe_eq_lines_iff (r : Reference) :
    Text.splitOn '\n' r.describe = r.lines ↔ ∀ line ∈ r.lines, '\n' ∉ line := by
  constructor
  · intro h line hline
    rw [← h] at hline
    exact Text.not_mem_of_mem_splitOn hline
  · exact Text.splitOn_join r.lines_ne_nil

theorem lines_hosted (repository : Hosted) :
    (ofLocator (.hosted repository)).lines =
      ["kind: url".toList, "host: ".toList ++ repository.host,
        "owner: ".toList ++ repository.owner, "name: ".toList ++ repository.name,
        "url: ".toList ++ repository.canonicalUrl, "key: ".toList ++ repository.displayKey] := rfl

theorem lines_directory (path : Text) :
    (ofLocator (.directory path)).lines =
      ["kind: local directory".toList, "path: ".toList ++ path, "key: ".toList ++ path] := rfl

/-- Canonical URL and display key bring no line feeds of their own. -/
theorem lineFeed_not_mem_lines_hosted_iff {repository : Hosted} (hhost : '\n' ∉ repository.host) :
    (∀ line ∈ (ofLocator (.hosted repository)).lines, '\n' ∉ line) ↔
      '\n' ∉ repository.owner ∧ '\n' ∉ repository.name := by
  rw [lines_hosted]
  constructor
  · intro h
    refine ⟨fun howner => h ("owner: ".toList ++ repository.owner) (by simp) ?_,
      fun hname => h ("name: ".toList ++ repository.name) (by simp) ?_⟩
    · exact List.mem_append_right _ howner
    · exact List.mem_append_right _ hname
  · rintro ⟨howner, hname⟩
    simp [Hosted.canonicalUrl, Hosted.displayKey, hhost, howner, hname]

/-- The lines on a directory hold no line feed if its path does not. -/
theorem lineFeed_not_mem_lines_directory_iff {path : Text} :
    (∀ line ∈ (ofLocator (.directory path)).lines, '\n' ∉ line) ↔ '\n' ∉ path := by
  rw [lines_directory]
  simp

open Grammar

/-- The description of what a text names. One of a directory always has a line for
each field. One of a hosted repository has exactly if no line feed is escaped in the path of
the URL. -/
theorem splitOn_describe_iff_of_parse {input : Text} {mode : Mode} {r : Reference}
    (h : parse input mode = .ok r) :
    (∃ path, r.locator = .directory path ∧
      Text.splitOn '\n' r.describe =
        ["kind: local directory".toList, "path: ".toList ++ path, "key: ".toList ++ path]) ∨
    ∃ repository url u, r.locator = .hosted repository ∧
      StandsFor input mode url ∧ Url.read url = .ok u ∧
      (Text.splitOn '\n' r.describe =
        ["kind: url".toList, "host: ".toList ++ repository.host,
          "owner: ".toList ++ repository.owner, "name: ".toList ++ repository.name,
          "url: ".toList ++ repository.canonicalUrl, "key: ".toList ++ repository.displayKey] ↔
        ¬ "%0A".toList <:+: u.path ∧ ¬ "%0a".toList <:+: u.path) := by
  obtain ⟨locator, hlocator, rfl⟩ := exists_of_map_eq_ok h
  have hread := read_of_parse hlocator
  cases locator with
  | directory path =>
    refine .inl ⟨path, rfl, ?_⟩
    rw [← lines_directory, splitOn_describe_eq_lines_iff, lineFeed_not_mem_lines_directory_iff]
    exact lineFeed_not_mem_directory hread
  | hosted repository =>
    obtain ⟨url, hurl, hhosted⟩ := exists_standsFor_of_read hread
    obtain ⟨u, -, hu, -⟩ := hostedOfUrl_cases hhosted
    refine .inr ⟨repository, url, u, rfl, hurl, hu, ?_⟩
    rw [← lines_hosted, splitOn_describe_eq_lines_iff,
      lineFeed_not_mem_lines_hosted_iff (not_mem_host hhosted (by decide)),
      lineFeed_not_mem_iff hu hhosted]

/-- An escape that a pair of dots takes along does no harm, and neither does one in a query. -/
theorem splitOn_describe_iff_of_parse_dots :
    parse "git://h/o/%0A/../n?%0a".toList .legacy =
        .ok (ofLocator (.hosted ⟨"h".toList, "o".toList, "n".toList⟩)) ∧
      Text.splitOn '\n'
          (ofLocator (.hosted ⟨"h".toList, "o".toList, "n".toList⟩)).describe =
        ["kind: url".toList, "host: h".toList, "owner: o".toList, "name: n".toList,
          "url: h/o/n".toList, "key: h-o-n".toList] := by
  have hparse : parse "git://h/o/%0A/../n?%0a".toList .legacy =
      .ok (ofLocator (.hosted ⟨"h".toList, "o".toList, "n".toList⟩)) := by decide +kernel
  have hmark : "://".toList <:+: "git://h/o/%0A/../n?%0a".toList :=
    Text.hasMark_iff.mp (by decide)
  have hread : Url.read "git://h/o/%0A/../n?%0a".toList =
      .ok ⟨"git".toList, some (.opaqueName "h".toList), none, "/o/n".toList⟩ := rfl
  refine ⟨hparse, ?_⟩
  rcases splitOn_describe_iff_of_parse hparse with
    ⟨path, hlocator, -⟩ | ⟨repository, url, u, hlocator, hurl, hu, hiff⟩
  · cases hlocator
  · cases hlocator
    cases hurl with
    | shorthand hcount => exact absurd hcount (by decide)
    | bare _ hnone => exact absurd hmark hnone
    | whole _ =>
      obtain rfl := Except.ok.inj (hread.symm.trans hu)
      exact hiff.mpr ⟨fun h => absurd (Text.hasMark_iff.mpr h) (by decide),
        fun h => absurd (Text.hasMark_iff.mpr h) (by decide)⟩

/-- An escaped line feed brings a line that looks like a field. -/
theorem splitOn_describe_of_parse_escaped :
    parse "o/n%0Akey: x".toList .legacy =
        .ok (ofLocator (.hosted ⟨"github.com".toList, "o".toList, "n\nkey: x".toList⟩)) ∧
      Text.splitOn '\n'
          (ofLocator (.hosted ⟨"github.com".toList, "o".toList, "n\nkey: x".toList⟩)).describe =
        ["kind: url".toList, "host: github.com".toList, "owner: o".toList, "name: n".toList,
          "key: x".toList, "url: github.com/o/n".toList, "key: x".toList,
          "key: github.com-o-n".toList, "key: x".toList] := by
  refine ⟨?_, by decide⟩
  have hparse : Locator.parse "o/n%0Akey: x".toList .legacy =
      .ok (.hosted ⟨"github.com".toList, "o".toList, "n\nkey: x".toList⟩) := by
    have hcount : "o/n%0Akey: x".toList.count '/' = 1 := by decide
    have hdecode : Percent.decode (Url.networkPath (Url.solid
        (Text.trimEnd Ascii.isControlOrSpace "o/n%0Akey: x".toList))) =
        Utf8.encode "/o/n\nkey: x".toList := by decide
    refine (parse_legacy_eq_ok_iff (elaborate_shorthand hcount)).mpr ?_
    exact hostedOfUrl_of_divided (read_after_defaultHost _) hdecode (by decide)
  rw [parse, hparse]
  rfl

end Reference

end RepoIdentity

import RepoIdentity.Proofs.Percent
import RepoIdentity.Proofs.Text
import RepoIdentity.Url.Basic

/-!
# Paths of network URLs

What resolving does to a written path, measured in bytes. Every segment that is
dots costs at least one (`size_follow`), and so does a query or a fragment; a
path that has none of them keeps all its segments (`follow_of_not_dots`).

* `networkPath` is the path of a network URL from what is written after the
  slash that begins it;
* `networkPath_eq_self` tells which paths are left as they are written, and
  `networkPath_cases` that any other one loses bytes or backslashes;
* `isSolid_text_resolve` — no kind of path has tabs and line ends, however it is written.
-/

namespace RepoIdentity.Url

-- ---------------------------------------------------------------------------
-- Segments
-- ---------------------------------------------------------------------------

namespace Path

/-- A segment of one dot or two, however they are spelled. -/
def isDots (segment : Text) : Bool := isDoubleDot segment || isSingleDot segment

/-- The bytes of segments with a slash before each. -/
def size : List Text → Nat
  | [] => 0
  | s :: segments => 1 + (Utf8.encode s).length + size segments

theorem size_cons (s : Text) (segments : List Text) :
    size (s :: segments) = 1 + (Utf8.encode s).length + size segments := rfl

/-- Sizes of paths add up. -/
theorem size_append (before after : List Text) :
    size (before ++ after) = size before + size after := by
  induction before with
  | nil => exact (Nat.zero_add _).symm
  | cons s before ih =>
    rw [List.cons_append, size_cons, size_cons, ih]
    omega

/-- The order of the segments does not count for the size. -/
theorem size_reverse (segments : List Text) : size segments.reverse = size segments := by
  induction segments with
  | nil => rfl
  | cons s segments ih =>
    have hnil : size [] = 0 := rfl
    rw [List.reverse_cons, size_append, ih, size_cons, size_cons, hnil]
    omega

/-- The size of a path is the number of bytes of its text. -/
theorem length_encode_text (segments : List Text) :
    (Utf8.encode (text segments)).length = size segments := by
  induction segments with
  | nil => rfl
  | cons s segments ih =>
    have hslash : (String.utf8EncodeChar '/').length = 1 := rfl
    rw [text, List.flatMap_cons, Utf8.encode_append, Utf8.encode_cons, List.length_append,
      List.length_append, hslash, size_cons, ← ih]
    rfl

/-- The text of a path is its segments with a slash between them, after one slash. -/
theorem text_eq_join {segments : List Text} (h : segments ≠ []) :
    text segments = '/' :: Text.join ['/'] segments := by
  induction segments with
  | nil => exact absurd rfl h
  | cons s rest ih =>
    cases rest with
    | nil => simp [text, Text.join]
    | cons s' rest =>
      have hrest := ih (List.cons_ne_nil s' rest)
      have hjoin : Text.join ['/'] (s :: s' :: rest) =
          s ++ '/' :: Text.join ['/'] (s' :: rest) := by
        simp [Text.join, List.intercalate_cons_cons]
      rw [text, List.flatMap_cons, ← text, hrest, hjoin]
      rfl

/-- Cutting a text at its slashes and writing it as a path puts a slash in front of it. -/
theorem text_splitOn (t : Text) : text (Text.splitOn '/' t) = '/' :: t := by
  rw [text_eq_join (Text.splitOn_ne_nil '/' t), Text.join_splitOn]

/-- The size of a path that a text is cut into is that of the text and one slash. -/
theorem size_splitOn (t : Text) : size (Text.splitOn '/' t) = 1 + (Utf8.encode t).length := by
  rw [← length_encode_text, text_splitOn, Utf8.encode_cons, List.length_append]
  rfl

/-- Dots are not empty. -/
theorem encode_ne_nil_of_isDots {segment : Text} (h : isDots segment = true) :
    0 < (Utf8.encode segment).length := by
  cases segment with
  | nil => exact absurd h (by decide)
  | cons c segment =>
    have hpos := Utf8.length_encodeChar_pos c
    rw [Utf8.encode_cons, List.length_append]
    omega

-- ---------------------------------------------------------------------------
-- Spelled dots
-- ---------------------------------------------------------------------------

/-- A dot at the beginning of a segment, as it is or as an escape. -/
theorem decode_of_lower {w rest : Text}
    (h : Ascii.lower w = '.' :: rest ∨ Ascii.lower w = '%' :: '2' :: 'e' :: rest) :
    ∃ w', Ascii.lower w' = rest ∧ Percent.decode w = 0x2E :: Percent.decode w' := by
  rcases h with h | h
  · obtain ⟨c, w', rfl, hc, hrest⟩ := List.map_eq_cons_iff.mp h
    obtain rfl := Ascii.eq_of_toLower.1 hc
    exact ⟨w', hrest, Percent.decode_cons_of_ne (by decide) w'⟩
  · obtain ⟨c, w, rfl, hc, hw⟩ := List.map_eq_cons_iff.mp h
    obtain ⟨d, w, rfl, hd, hw⟩ := List.map_eq_cons_iff.mp hw
    obtain ⟨e, w, rfl, he, hrest⟩ := List.map_eq_cons_iff.mp hw
    obtain rfl := Ascii.eq_of_toLower.2.1 hc
    obtain rfl := Ascii.eq_of_toLower.2.2.1 hd
    refine ⟨w, hrest, ?_⟩
    rcases Ascii.eq_of_toLower.2.2.2 he with rfl | rfl <;>
      exact Percent.decode_escape (by decide) w

/-- Dots stand for dots, however they are spelled. -/
theorem decode_of_isDots {segment : Text} (h : isDots segment = true) :
    ∃ dots ∈ [".".toList, "..".toList], Percent.decode segment = Utf8.encode dots := by
  have hone {w : Text} (hw : Ascii.lower w = ".".toList ∨ Ascii.lower w = "%2e".toList) :
      Percent.decode w = Utf8.encode ".".toList := by
    obtain ⟨w', hw', hdecode⟩ := decode_of_lower hw
    rw [hdecode, List.map_eq_nil_iff.mp hw']
    rfl
  have htwo {w rest : Text}
      (hw : Ascii.lower w = '.' :: rest ∨ Ascii.lower w = '%' :: '2' :: 'e' :: rest)
      (hrest : rest = ".".toList ∨ rest = "%2e".toList) :
      Percent.decode w = Utf8.encode "..".toList := by
    obtain ⟨w', hw', hdecode⟩ := decode_of_lower hw
    rw [← hw'] at hrest
    rw [hdecode, hone hrest]
    rfl
  simp only [isDots, isDoubleDot, isSingleDot, Bool.or_eq_true, List.contains_eq_mem,
    decide_eq_true_eq, List.mem_cons, List.not_mem_nil, or_false] at h
  rcases h with (h | h | h | h) | (h | h)
  · exact ⟨_, List.mem_cons_of_mem _ List.mem_cons_self, htwo (Or.inl h) (Or.inl rfl)⟩
  · exact ⟨_, List.mem_cons_of_mem _ List.mem_cons_self, htwo (Or.inl h) (Or.inr rfl)⟩
  · exact ⟨_, List.mem_cons_of_mem _ List.mem_cons_self, htwo (Or.inr h) (Or.inl rfl)⟩
  · exact ⟨_, List.mem_cons_of_mem _ List.mem_cons_self, htwo (Or.inr h) (Or.inr rfl)⟩
  · exact ⟨_, List.mem_cons_self, hone (Or.inl h)⟩
  · exact ⟨_, List.mem_cons_self, hone (Or.inr h)⟩

end Path

-- ---------------------------------------------------------------------------
-- Reading segments
-- ---------------------------------------------------------------------------

namespace Trail

/-- Leaving a directory never makes the path longer. -/
theorem size_leave_le (t : Trail) : Path.size t.leave.passed ≤ Path.size t.passed := by
  unfold leave
  split
  · exact Nat.le_refl _
  · next last before hpassed =>
    split
    · exact Nat.le_refl _
    · rw [hpassed, Path.size_cons]
      show Path.size before ≤ _
      omega

/-- A segment that is not dots is passed as it is written. -/
theorem step_of_not_dots {t : Trail} {segment : Text} (hsolid : solid segment = segment)
    (h : Path.isDots segment = false) :
    t.step .network segment = { t with passed := segment :: t.passed } := by
  obtain ⟨hdouble, hsingle⟩ := Bool.or_eq_false_iff.mp h
  simp [step, enter, hsolid, hdouble, hsingle]

/-- A segment of dots takes its place and more. -/
theorem size_step_of_dots {t : Trail} {segment : Text} (hsolid : solid segment = segment)
    (h : Path.isDots segment = true) :
    Path.size (t.step .network segment).passed ≤ Path.size t.passed := by
  rw [step, hsolid]
  by_cases hdouble : Path.isDoubleDot segment = true
  · rw [if_pos hdouble]
    exact size_leave_le t
  · have hsingle : Path.isSingleDot segment = true := by
      rw [Path.isDots, Bool.or_eq_true] at h
      exact h.resolve_left hdouble
    rw [if_neg hdouble, if_pos hsingle]

/-- Every segment of dots costs at least a byte. -/
theorem size_follow {segments : List Text} (hsolid : ∀ s ∈ segments, solid s = s) (t : Trail) :
    Path.size (t.follow .network segments).passed + segments.countP Path.isDots ≤
      Path.size t.passed + Path.size segments := by
  induction segments generalizing t with
  | nil => exact Nat.le_refl _
  | cons segment rest ih =>
    have hsegment := hsolid segment List.mem_cons_self
    -- the last segment leaves an empty one behind if it is dots
    cases rest with
    | nil =>
      rw [follow, finish, hsegment, ← Path.isDots, Path.size_cons]
      by_cases hdots : Path.isDots segment = true
      · have hstep := size_step_of_dots (t := t) hsegment hdots
        have hpos := Path.encode_ne_nil_of_isDots hdots
        have hempty : (Utf8.encode []).length = 0 := rfl
        rw [if_pos hdots, Path.size_cons, List.countP_singleton, if_pos hdots, hempty]
        omega
      · rw [Bool.not_eq_true] at hdots
        rw [step_of_not_dots hsegment hdots, hdots, List.countP_singleton, hdots]
        simp only [Bool.false_eq_true, if_false, Path.size_cons]
        omega
    | cons next rest =>
      have hrest := ih (fun s hs => hsolid s (List.mem_cons_of_mem segment hs))
        (t.step .network segment)
      rw [follow, List.countP_cons, Path.size_cons]
      · by_cases hdots : Path.isDots segment = true
        · have hstep := size_step_of_dots (t := t) hsegment hdots
          have hpos := Path.encode_ne_nil_of_isDots hdots
          rw [if_pos hdots]
          omega
        · rw [Bool.not_eq_true] at hdots
          rw [step_of_not_dots hsegment hdots, Path.size_cons] at hrest
          rw [hdots, step_of_not_dots hsegment hdots]
          simp only [Bool.false_eq_true, if_false]
          omega
      · exact List.cons_ne_nil next rest

/-- Segments that are not dots are all passed, one after the other. -/
theorem follow_of_not_dots {segments : List Text} (hsolid : ∀ s ∈ segments, solid s = s)
    (hdots : ∀ s ∈ segments, Path.isDots s = false) (t : Trail) :
    (t.follow .network segments).passed = segments.reverse ++ t.passed := by
  induction segments generalizing t with
  | nil => rfl
  | cons segment rest ih =>
    have hsegment := hsolid segment List.mem_cons_self
    have hstep := step_of_not_dots (t := t) hsegment (hdots segment List.mem_cons_self)
    cases rest with
    | nil =>
      rw [follow, finish, hsegment, ← Path.isDots, hdots segment List.mem_cons_self, hstep]
      rfl
    | cons next rest =>
      rw [follow, ih (fun s hs => hsolid s (List.mem_cons_of_mem segment hs))
        (fun s hs => hdots s (List.mem_cons_of_mem segment hs)), hstep]
      · simp
      · exact List.cons_ne_nil next rest

/-- An empty segment more at the end is one more in the path, unless the path had one
already for ending in dots. -/
theorem follow_concat {segments : List Text} (h : segments ≠ []) (t : Trail) :
    (t.follow .network (segments ++ [[]])).passed = (t.follow .network segments).passed ∨
      (t.follow .network (segments ++ [[]])).passed =
        [] :: (t.follow .network segments).passed := by
  induction segments generalizing t with
  | nil => exact absurd rfl h
  | cons segment rest ih =>
    cases rest with
    | nil =>
      have hlast : (t.follow .network ([segment] ++ [[]])).passed =
          [] :: (t.step .network segment).passed := rfl
      rw [hlast, follow, finish]
      split
      · exact Or.inl rfl
      · exact Or.inr rfl
    | cons next rest => exact ih (List.cons_ne_nil next rest) (t.step .network segment)

end Trail

-- ---------------------------------------------------------------------------
-- Paths as a whole
-- ---------------------------------------------------------------------------

namespace Path

/-- The text with slashes for the backslashes of a network URL. -/
def withSlashes (t : Text) : Text := t.map fun c => if SchemeKind.network.isSlash c then '/' else c

/-- The path of a web address is cut at both kinds of slash. -/
theorem segmentsOf_network (t : Text) : segmentsOf .network t = Text.splitOn '/' (withSlashes t) :=
  rfl

theorem isSlash_network (c : Char) : SchemeKind.network.isSlash c = (c == '/' || c == '\\') := rfl

/-- Without a backslash there is nothing to turn round. -/
theorem withSlashes_eq_self {t : Text} (h : '\\' ∉ t) : withSlashes t = t := by
  have hself : ∀ c ∈ t, (if SchemeKind.network.isSlash c then '/' else c) = c := by
    intro c hc
    split
    · next hslash =>
      rw [isSlash_network, Bool.or_eq_true, beq_iff_eq, beq_iff_eq] at hslash
      rcases hslash with rfl | rfl
      · rfl
      · exact absurd hc h
    · rfl
  rw [withSlashes, List.map_congr_left hself, List.map_id']

/-- No backslash is left. -/
theorem not_mem_withSlashes (t : Text) : '\\' ∉ withSlashes t := by
  intro hmem
  obtain ⟨c, -, hc⟩ := List.mem_map.mp hmem
  by_cases hslash : SchemeKind.network.isSlash c = true
  · rw [if_pos hslash] at hc
    exact absurd hc (by decide)
  · rw [if_neg hslash] at hc
    rw [hc] at hslash
    exact hslash (by decide)

/-- Turning backslashes round keeps the number of bytes. -/
theorem length_encode_withSlashes (t : Text) :
    (Utf8.encode (withSlashes t)).length = (Utf8.encode t).length := by
  induction t with
  | nil => rfl
  | cons c t ih =>
    have hchar : (String.utf8EncodeChar (if SchemeKind.network.isSlash c then '/' else c)).length
        = (String.utf8EncodeChar c).length := by
      split
      · next hslash =>
        rw [isSlash_network, Bool.or_eq_true, beq_iff_eq, beq_iff_eq] at hslash
        rcases hslash with rfl | rfl <;> rfl
      · rfl
    rw [withSlashes, List.map_cons, ← withSlashes, Utf8.encode_cons, Utf8.encode_cons,
      List.length_append, List.length_append, ih, hchar]

/-- Turning backslashes round brings in no tabs and no line breaks. -/
theorem isTabOrNewline_withSlashes {t : Text} (h : ∀ c ∈ t, Ascii.isTabOrNewline c = false) :
    ∀ c ∈ withSlashes t, Ascii.isTabOrNewline c = false := by
  intro c hc
  obtain ⟨d, hd, rfl⟩ := List.mem_map.mp hc
  split
  · rfl
  · exact h d hd

end Path

/-- The path of a network URL that has `t` written after the slash that begins
its path. -/
def networkPath (t : Text) : Text :=
  Path.text (Path.resolve .network (Path.segmentsOf .network (beforeQuery t))).segments

/-- A path is empty or begins with a slash. -/
theorem networkPath_eq_nil_or_cons (t : Text) :
    networkPath t = [] ∨ ∃ rest, networkPath t = '/' :: rest := by
  rw [networkPath, Path.text]
  cases (Path.resolve .network (Path.segmentsOf .network (beforeQuery t))).segments with
  | nil => exact Or.inl rfl
  | cons s segments => exact Or.inr ⟨_, rfl⟩

theorem beforeQuery_sublist (t : Text) : (beforeQuery t).Sublist t :=
  (List.takeWhile_prefix _).sublist

/-- A text without query and fragment is all before them. -/
theorem beforeQuery_eq_self {t : Text} (h : ∀ c ∈ t, isPathEnd c = false) : beforeQuery t = t := by
  rw [beforeQuery, List.takeWhile_eq_self_iff]
  intro c hc
  rw [h c hc]
  rfl

/-- A slash more at the end is one more in the path, or none. -/
theorem networkPath_concat (t : Text) :
    networkPath (t ++ ['/']) = networkPath t ∨ networkPath (t ++ ['/']) = networkPath t ++ ['/'] := by
  rw [networkPath, beforeQuery, List.takeWhile_append]
  -- in a query the slash is not reached; otherwise an empty segment begins with it
  split
  · next hwhole =>
    have hself : beforeQuery t = t :=
      (List.takeWhile_prefix _).eq_of_length hwhole
    have hsegments : Path.segmentsOf .network (t ++ ['/']) =
        Path.segmentsOf .network t ++ [[]] := by
      rw [Path.segmentsOf_network, Path.segmentsOf_network, Path.withSlashes, List.map_append]
      exact Text.splitOn_append_cons '/' (Path.withSlashes t) []
    have hne : Path.segmentsOf .network t ≠ [] := Text.splitOn_ne_nil _ _
    have hslash : List.takeWhile (fun c => !isPathEnd c) ['/'] = ['/'] := rfl
    rw [networkPath, hself, hslash, hsegments, Trail.segments, Trail.segments, Path.resolve,
      Path.resolve]
    rcases Trail.follow_concat hne Trail.start with hpassed | hpassed
    · exact Or.inl (by rw [hpassed])
    · refine Or.inr ?_
      rw [hpassed, List.reverse_cons, Path.text, List.flatMap_append]
      rfl
  · exact Or.inl rfl

/-- Slashes at the end are slashes at the end of the path, though not always as many. -/
theorem networkPath_replicate (t : Text) (k : Nat) :
    ∃ j, networkPath (t ++ List.replicate k '/') = networkPath t ++ List.replicate j '/' := by
  induction k with
  | zero => exact ⟨0, by simp⟩
  | succ k ih =>
    obtain ⟨j, hj⟩ := ih
    rw [List.replicate_succ', ← List.append_assoc]
    rcases networkPath_concat (t ++ List.replicate k '/') with hslash | hslash
    · exact ⟨j, by rw [hslash, hj]⟩
    · exact ⟨j + 1, by rw [hslash, hj, List.replicate_succ', List.append_assoc]⟩

/-- A query or a fragment does not count. -/
theorem networkPath_append (t : Text) {tail : Text} (h : ∀ c ∈ tail.head?, isPathEnd c = true) :
    networkPath (t ++ tail) = networkPath t := by
  have htail : tail.takeWhile (fun c => !isPathEnd c) = [] := by
    cases tail with
    | nil => rfl
    | cons c tail => rw [List.takeWhile_cons_of_neg (by simp [h c rfl])]
  have hbefore : beforeQuery (t ++ tail) = beforeQuery t := by
    rw [beforeQuery, List.takeWhile_append, htail, List.append_nil]
    split
    · next hwhole => exact ((List.takeWhile_prefix _).eq_of_length hwhole).symm
    · rfl
  rw [networkPath, hbefore, ← networkPath]

/-- Segments of a text without tabs and line breaks hold none. -/
theorem solid_segment {t : Text} (hsolid : ∀ c ∈ t, Ascii.isTabOrNewline c = false) :
    ∀ s ∈ Text.splitOn '/' (Path.withSlashes (beforeQuery t)), solid s = s := by
  have hwritten := Path.isTabOrNewline_withSlashes fun c hc =>
    hsolid c ((beforeQuery_sublist t).mem hc)
  exact fun s hs => solid_eq_self fun c hc => hwritten c (Text.mem_of_mem_splitOn hs hc)

/-- A path with no dots among its segments is as it is written, but for its slashes. -/
theorem networkPath_of_not_dots {t : Text} (hsolid : ∀ c ∈ t, Ascii.isTabOrNewline c = false)
    (hdots : ∀ s ∈ Text.splitOn '/' (Path.withSlashes (beforeQuery t)), Path.isDots s = false) :
    networkPath t = '/' :: Path.withSlashes (beforeQuery t) := by
  have hfollow := Trail.follow_of_not_dots (solid_segment hsolid) hdots Trail.start
  rw [networkPath, Path.segmentsOf_network, Trail.segments, Path.resolve, hfollow,
    List.reverse_append, List.reverse_reverse]
  exact Path.text_splitOn _

/-- A path loses bytes to its dots, and to a query or a fragment; otherwise only
its backslashes change. -/
theorem networkPath_cases {t : Text} (hsolid : ∀ c ∈ t, Ascii.isTabOrNewline c = false) :
    (networkPath t = '/' :: Path.withSlashes t ∧ (∀ c ∈ t, isPathEnd c = false) ∧
      ∀ s ∈ Text.splitOn '/' (Path.withSlashes t), Path.isDots s = false) ∨
    (Utf8.encode (networkPath t)).length ≤ (Utf8.encode t).length := by
  have hsub := beforeQuery_sublist t
  have hlength : (Utf8.encode (networkPath t)).length =
      Path.size (Trail.start.follow .network
        (Text.splitOn '/' (Path.withSlashes (beforeQuery t)))).passed := by
    rw [networkPath, Path.length_encode_text, Trail.segments, Path.size_reverse]
    rfl
  by_cases hdots : ∀ s ∈ Text.splitOn '/' (Path.withSlashes (beforeQuery t)), Path.isDots s = false
  · have hpath := networkPath_of_not_dots hsolid hdots
    -- a query that is left out costs a byte at least
    by_cases hwhole : (Utf8.encode t).length ≤ (Utf8.encode (beforeQuery t)).length
    · have heq := Utf8.eq_of_sublist_of_length_le hsub hwhole
      rw [heq] at hpath hdots
      refine Or.inl ⟨hpath, fun c hc => ?_, hdots⟩
      rw [← heq] at hc
      have := List.all_eq_true.mp (List.all_takeWhile (p := fun c => !isPathEnd c) (l := t)) c hc
      simpa using this
    · have hslash : (String.utf8EncodeChar '/').length = 1 := rfl
      rw [hpath, Utf8.encode_cons, List.length_append, hslash, Path.length_encode_withSlashes]
      omega
  · -- Some segment is dots, and the byte it costs makes up for the first slash.
    have hcount : 0 < (Text.splitOn '/' (Path.withSlashes (beforeQuery t))).countP Path.isDots := by
      rw [List.countP_pos_iff]
      by_contra hnone
      refine hdots fun s hs => ?_
      by_contra hs'
      exact hnone ⟨s, hs, by simpa using hs'⟩
    have hsize := Trail.size_follow (solid_segment hsolid) Trail.start
    have hstart : Path.size Trail.start.passed = 0 := rfl
    have hle := Utf8.length_encode_le_of_sublist hsub
    rw [Path.size_splitOn, Path.length_encode_withSlashes, hstart] at hsize
    omega

/-- The characters that are read as themselves wherever they stand in a path are
all but these; slashes and percent signs depend on what is around them. -/
theorem not_mem_delimiters_iff {c : Char} :
    c ∉ ['\\', '?', '#', '\t', '\n', '\r'] ↔
      c ≠ '\\' ∧ isPathEnd c = false ∧ Ascii.isTabOrNewline c = false := by
  simp [isPathEnd, Ascii.isTabOrNewline, and_assoc]

/-- A path is left as it is written if nothing in it has a meaning of its own. -/
theorem networkPath_eq_self {t : Text}
    (hchars : ∀ c ∈ t, c ≠ '\\' ∧ isPathEnd c = false ∧ Ascii.isTabOrNewline c = false)
    (hdots : ∀ s ∈ Text.splitOn '/' t, Path.isDots s = false) : networkPath t = '/' :: t := by
  have hwhole := beforeQuery_eq_self fun c hc => (hchars c hc).2.1
  have hslashes := Path.withSlashes_eq_self fun h => (hchars _ h).1 rfl
  have hpath := networkPath_of_not_dots (fun c hc => (hchars c hc).2.2)
    (by rwa [hwhole, hslashes])
  rw [hpath, hwhole, hslashes]

-- ---------------------------------------------------------------------------
-- What is left out of a path
-- ---------------------------------------------------------------------------

/-- The text has no tabs and line ends. -/
def IsSolid (s : Text) : Prop := ∀ c ∈ s, Ascii.isTabOrNewline c = false

/-- What is taken out is not left. -/
theorem isSolid_solid (s : Text) : IsSolid (solid s) := fun _ hc => (mem_solid.mp hc).2

theorem IsSolid.of_sublist {s t : Text} (h : IsSolid t) (hsub : s.Sublist t) : IsSolid s :=
  fun c hc => h c (hsub.mem hc)

theorem isTabOrNewline_of_isAlpha {c : Char} (h : c.isAlpha = true) :
    Ascii.isTabOrNewline c = false := by
  rw [Ascii.isTabOrNewline, Bool.or_eq_false_iff, Bool.or_eq_false_iff, beq_eq_false_iff_ne,
    beq_eq_false_iff_ne, beq_eq_false_iff_ne]
  refine ⟨⟨?_, ?_⟩, ?_⟩ <;> rintro rfl <;> exact absurd h (by decide)

/-- Both parts that a drive letter is cut into are solid. -/
theorem Path.isSolid_of_cutDrive {written drive rest : Text}
    (h : cutDrive written = some (drive, rest)) : IsSolid drive ∧ IsSolid rest := by
  unfold cutDrive at h
  split at h
  · cases h
  · next letter more _ =>
    split at h
    · next gap after _ =>
      split at h
      · next hcut =>
        cases h
        simp only [Bool.and_eq_true] at hcut
        refine ⟨?_, isSolid_solid after⟩
        intro c hc
        simp only [List.mem_cons, List.not_mem_nil, or_false] at hc
        rcases hc with rfl | rfl
        · exact isTabOrNewline_of_isAlpha hcut.1.1
        · rfl
      · cases h
    · cases h

namespace Trail

/-- No segment so far has tabs and line ends. -/
def IsSolid (t : Trail) : Prop := ∀ segment ∈ t.passed, Url.IsSolid segment

variable {t : Trail} {kind : SchemeKind}

/-- A solid trail stays solid when a directory is left. -/
theorem isSolid_leave (h : t.IsSolid) : t.leave.IsSolid := by
  unfold leave
  split
  · exact h
  · next last before hpassed =>
    split
    · exact h
    · exact fun segment hs => h segment (hpassed ▸ List.mem_cons_of_mem last hs)

theorem isSolid_enter (h : t.IsSolid) (written : Text) : (t.enter kind written).IsSolid := by
  have hsolid := isSolid_solid written
  unfold enter
  dsimp only
  split
  · split
    · next drive rest hcut =>
      obtain ⟨hdrive, hrest⟩ := Path.isSolid_of_cutDrive hcut
      exact List.forall_mem_cons.mpr ⟨hrest, List.forall_mem_singleton.mpr hdrive⟩
    · split
      · refine List.forall_mem_singleton.mpr (List.forall_mem_append.mpr ⟨?_, ?_⟩)
        · exact hsolid.of_sublist (List.take_sublist 1 _)
        · exact List.forall_mem_singleton.mpr rfl
      · exact List.forall_mem_singleton.mpr hsolid
  · exact List.forall_mem_cons.mpr ⟨hsolid, h⟩

theorem isSolid_step (h : t.IsSolid) (written : Text) : (t.step kind written).IsSolid := by
  unfold step
  split
  · exact isSolid_leave h
  · split
    · exact h
    · exact isSolid_enter h written

theorem isSolid_finish (h : t.IsSolid) (written : Text) : (t.finish kind written).IsSolid := by
  have hstep : (t.step kind written).IsSolid := isSolid_step h written
  unfold finish
  dsimp only
  split
  · exact List.forall_mem_cons.mpr ⟨List.forall_mem_nil _, hstep⟩
  · exact hstep

/-- A solid trail stays solid all along a path. -/
theorem isSolid_follow (h : t.IsSolid) (written : List Text) : (t.follow kind written).IsSolid := by
  fun_induction follow kind t written with
  | case1 => exact h
  | case2 t last => exact isSolid_finish h last
  | case3 t segment rest _ ih => exact ih (isSolid_step h segment)

end Trail

/-- Whatever a path is resolved from, nothing that the reader drops is left in it. -/
theorem isSolid_text_resolve (kind : SchemeKind) (written : List Text) :
    IsSolid (Path.text (Path.resolve kind written).segments) := by
  have hsegments : (Path.resolve kind written).IsSolid :=
    Trail.isSolid_follow (t := Trail.start) (List.forall_mem_nil _) written
  intro c hc
  obtain ⟨segment, hs, hc⟩ := List.mem_flatMap.mp hc
  rcases List.mem_cons.mp hc with rfl | hc
  · rfl
  · exact hsegments segment (List.mem_reverse.mp hs) c hc

end RepoIdentity.Url

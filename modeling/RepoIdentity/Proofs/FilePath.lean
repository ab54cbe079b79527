import RepoIdentity.Proofs.Elaboration
import RepoIdentity.Proofs.Utf8

/-!
# What a file path is made of

The check of a file path looks at every percent sign by itself, wherever it stands. The
paths that pass are nevertheless those that can be read from left to right in units, a
plain character or a whole escape: no digit of an escape is a percent sign, so that the
signs are exactly the beginnings of the escapes.

* `IsUnit`, `OfUnits`, `badEscape?_eq_none_iff` — the units, and that the check finds no
  fault in what is made of them;
* `Leftmost`, `leftmost_of_badEscape?` — which sign is refused where one is;
* `Quotes`, `quotes_quoteEscape` — what is shown of it, in bytes: three of them, unless
  the third one ends inside a character;
* `Locator.parse_strict_file` — which of the two faults a path is refused for.
-/

namespace RepoIdentity

namespace FilePath

-- ---------------------------------------------------------------------------
-- Units
-- ---------------------------------------------------------------------------

/-- What a path is put together from: a character that is neither a percent sign nor a
control, or a percent sign with two hexadecimal digits. -/
inductive IsUnit : Text → Prop where
  | plain {c : Char} (hsign : c ≠ '%') (hcontrol : Ascii.isControl c = false) : IsUnit [c]
  | escape {high low : Char} (hhigh : Ascii.isHexDigit high = true)
      (hlow : Ascii.isHexDigit low = true) : IsUnit ['%', high, low]

/-- The text is a row of units. -/
def OfUnits (s : Text) : Prop := ∃ units : List Text, (∀ u ∈ units, IsUnit u) ∧ s = units.flatten

theorem ofUnits_nil : OfUnits [] := ⟨[], fun _ h => absurd h List.not_mem_nil, rfl⟩

/-- A unit more keeps a path made of units. -/
theorem OfUnits.append {u s : Text} (hu : IsUnit u) (hs : OfUnits s) : OfUnits (u ++ s) := by
  obtain ⟨units, hunits, rfl⟩ := hs
  exact ⟨u :: units, List.forall_mem_cons.mpr ⟨hu, hunits⟩, rfl⟩

/-- A hexadecimal digit is itself a plain character. -/
theorem plain_of_isHexDigit {c : Char} (h : Ascii.isHexDigit c = true) :
    c ≠ '%' ∧ Ascii.isControl c = false := by
  obtain ⟨hlow, hhigh⟩ := Ascii.bounds_of_isHexDigit h
  refine ⟨?_, ?_⟩
  · rintro rfl
    exact absurd h (by decide)
  · rw [Ascii.isControl, Bool.or_eq_false_iff, decide_eq_false_iff_not, beq_eq_false_iff_ne]
    omega

theorem isControl_of_mem_unit {u : Text} (hu : IsUnit u) : ∀ c ∈ u, Ascii.isControl c = false := by
  cases hu with
  | plain _ hcontrol => simpa using hcontrol
  | escape hhigh hlow =>
    simp only [List.forall_mem_cons]
    exact ⟨rfl, (plain_of_isHexDigit hhigh).2, (plain_of_isHexDigit hlow).2, by simp⟩

/-- A path made of units holds no control characters. -/
theorem isControl_of_mem {s : Text} (h : OfUnits s) : ∀ c ∈ s, Ascii.isControl c = false := by
  obtain ⟨units, hunits, rfl⟩ := h
  intro c hc
  obtain ⟨u, hu, hcu⟩ := List.mem_flatten.mp hc
  exact isControl_of_mem_unit (hunits u hu) c hcu

-- ---------------------------------------------------------------------------
-- The search for a bad escape
-- ---------------------------------------------------------------------------

/-- A character that is no percent sign is passed over. -/
theorem badEscape?_cons_of_ne {c : Char} (h : c ≠ '%') (s : Text) :
    badEscape? (c :: s) = badEscape? s := by
  rw [badEscape?, if_neg (fun hbad => h hbad.1)]

/-- A percent sign with two digits after it is passed over. -/
theorem badEscape?_sign {s : Text} (h : beginsWithHexPair s = true) :
    badEscape? ('%' :: s) = badEscape? s := by
  rw [badEscape?, h, if_neg (by simp)]

/-- A percent sign without two digits after it is quoted. -/
theorem badEscape?_of_not_pair {s : Text} (h : beginsWithHexPair s = false) :
    badEscape? ('%' :: s) = some (quoteEscape s) := by
  rw [badEscape?, h, if_pos ⟨rfl, rfl⟩]

theorem exists_of_beginsWithHexPair {s : Text} (h : beginsWithHexPair s = true) :
    ∃ high low rest, s = high :: low :: rest ∧ Ascii.isHexDigit high = true ∧
      Ascii.isHexDigit low = true := by
  match s, h with
  | high :: low :: rest, h => exact ⟨high, low, rest, rfl, Bool.and_eq_true_iff.mp h⟩

/-- The search passes over a whole unit at once: the digits of an escape are no signs. -/
theorem badEscape?_unit {u : Text} (hu : IsUnit u) (s : Text) :
    badEscape? (u ++ s) = badEscape? s := by
  cases hu with
  | plain hsign _ => exact badEscape?_cons_of_ne hsign s
  | @escape high low hhigh hlow =>
    have hpair : beginsWithHexPair (high :: low :: s) = true := by
      rw [beginsWithHexPair, hhigh, hlow, Bool.and_true]
    calc badEscape? ('%' :: high :: low :: s)
        = badEscape? (high :: low :: s) := badEscape?_sign hpair
      _ = badEscape? (low :: s) := badEscape?_cons_of_ne (plain_of_isHexDigit hhigh).1 _
      _ = badEscape? s := badEscape?_cons_of_ne (plain_of_isHexDigit hlow).1 _

/-- A path made of units has no bad escape. -/
theorem badEscape?_of_ofUnits {s : Text} (h : OfUnits s) : badEscape? s = none := by
  obtain ⟨units, hunits, rfl⟩ := h
  induction units with
  | nil => rfl
  | cons u units ih =>
    obtain ⟨hu, hunits⟩ := List.forall_mem_cons.mp hunits
    rw [List.flatten_cons, badEscape?_unit hu]
    exact ih hunits

/-- Read from the left, unit by unit: each sign that is met begins an escape. -/
theorem ofUnits_of_badEscape? {s : Text} (hcontrol : ∀ c ∈ s, Ascii.isControl c = false)
    (h : badEscape? s = none) : OfUnits s := by
  match s with
  | [] => exact ofUnits_nil
  | c :: rest =>
    obtain ⟨hc, hrest⟩ := List.forall_mem_cons.mp hcontrol
    by_cases hsign : c = '%'
    · subst hsign
      cases hpair : beginsWithHexPair rest with
      | false =>
        rw [badEscape?_of_not_pair hpair] at h
        cases h
      | true =>
        obtain ⟨high, low, rest', rfl, hhigh, hlow⟩ := exists_of_beginsWithHexPair hpair
        have hunit : IsUnit ['%', high, low] := .escape hhigh hlow
        rw [show '%' :: high :: low :: rest' = ['%', high, low] ++ rest' from rfl,
          badEscape?_unit hunit] at h
        have hrest' : ∀ c ∈ rest', Ascii.isControl c = false := fun c hmem =>
          hrest c (List.mem_cons_of_mem _ (List.mem_cons_of_mem _ hmem))
        exact OfUnits.append hunit (ofUnits_of_badEscape? hrest' h)
    · rw [badEscape?_cons_of_ne hsign] at h
      exact OfUnits.append (.plain hsign hc) (ofUnits_of_badEscape? hrest h)
termination_by s.length

/-- Among texts without controls, the search finds nothing in those made of units. -/
theorem badEscape?_eq_none_iff {s : Text} (h : ∀ c ∈ s, Ascii.isControl c = false) :
    badEscape? s = none ↔ OfUnits s :=
  ⟨ofUnits_of_badEscape? h, badEscape?_of_ofUnits⟩

/-- The text has a percent sign between `before` and `after`, no two hexadecimal digits
follow it, and two follow every earlier one. -/
structure Leftmost (s before after : Text) : Prop where
  eq : s = before ++ '%' :: after
  not_pair : ¬ ∃ high low rest, after = high :: low :: rest ∧ Ascii.isHexDigit high = true ∧
    Ascii.isHexDigit low = true
  pair_of_lt : ∀ before' after', s = before' ++ '%' :: after' → before'.length < before.length →
    ∃ high low rest, after' = high :: low :: rest ∧ Ascii.isHexDigit high = true ∧
      Ascii.isHexDigit low = true

/-- A further character in front, unless it is itself a sign without digits. -/
theorem Leftmost.cons {c : Char} {s before after : Text} (h : Leftmost s before after)
    (hc : c = '%' → beginsWithHexPair s = true) : Leftmost (c :: s) (c :: before) after where
  eq := by rw [h.eq, List.cons_append]
  not_pair := h.not_pair
  pair_of_lt := by
    intro before' after' heq hlt
    cases before' with
    | nil =>
      obtain ⟨rfl, rfl⟩ := List.cons_eq_cons.mp heq
      exact exists_of_beginsWithHexPair (hc rfl)
    | cons d before' =>
      obtain ⟨-, htail⟩ := List.cons_eq_cons.mp heq
      exact h.pair_of_lt before' after' htail (Nat.lt_of_succ_lt_succ hlt)

/-- The leftmost bad escape is the one that is quoted. -/
theorem leftmost_of_badEscape? {s quoted : Text} (h : badEscape? s = some quoted) :
    ∃ before after, Leftmost s before after ∧ quoted = quoteEscape after := by
  induction s with
  | nil => cases h
  | cons c rest ih =>
    by_cases hbad : c = '%' ∧ beginsWithHexPair rest = false
    · obtain ⟨rfl, hpair⟩ := hbad
      rw [badEscape?_of_not_pair hpair] at h
      refine ⟨[], rest, ⟨rfl, ?_, fun _ _ _ hlt => absurd hlt (Nat.not_lt_zero _)⟩,
        (Option.some.inj h).symm⟩
      rintro ⟨high, low, rest, rfl, hhigh, hlow⟩
      rw [beginsWithHexPair, hhigh, hlow] at hpair
      cases hpair
    · have hc : c = '%' → beginsWithHexPair rest = true := fun hsign =>
        (Bool.not_eq_false _).mp fun hpair => hbad ⟨hsign, hpair⟩
      have hskip : badEscape? (c :: rest) = badEscape? rest := by
        by_cases hsign : c = '%'
        · subst hsign
          exact badEscape?_sign (hc rfl)
        · exact badEscape?_cons_of_ne hsign rest
      obtain ⟨before, after, hleft, hquoted⟩ := ih (hskip ▸ h)
      exact ⟨c :: before, after, hleft.cons hc, hquoted⟩

-- ---------------------------------------------------------------------------
-- What is shown of it
-- ---------------------------------------------------------------------------

/-- What is shown of the text that begins with a bad escape: the beginning of it that
has three bytes, or all of a shorter text; the sign alone if no beginning has three. -/
inductive Quotes (s : Text) : (quoted : Text) → Prop where
  | bytes {quoted more : Text} (heq : s = quoted ++ more)
      (hlength : (Utf8.encode quoted).length = min 3 (Utf8.encode s).length) : Quotes s quoted
  | sign (h : ∀ quoted more, s = quoted ++ more →
      (Utf8.encode quoted).length ≠ min 3 (Utf8.encode s).length) : Quotes s ['%']

/-- A short rest is quoted as a whole. -/
theorem quotes_one {c : Char} (after : Text) (h : c.utf8Size = 2 ∨ c.utf8Size ≤ 2 ∧ after = []) :
    Quotes ('%' :: c :: after) ['%', c] := by
  refine .bytes rfl ?_
  simp only [Utf8.length_encode_cons, Utf8.encode_nil, List.length_nil]
  have hsign : ('%').utf8Size = 1 := rfl
  rcases h with h | ⟨h, rfl⟩
  · omega
  · rw [Utf8.encode_nil, List.length_nil]
    omega

/-- No beginning ends at the third byte if a character begins before and ends after it. -/
theorem quotes_sign {c : Char} {after : Text}
    (h : 3 ≤ c.utf8Size ∨ ∃ d rest, after = d :: rest ∧ c.utf8Size = 1 ∧ 2 ≤ d.utf8Size) :
    Quotes ('%' :: c :: after) ['%'] := by
  have hsign : ('%').utf8Size = 1 := rfl
  have hlong : 3 ≤ (Utf8.encode ('%' :: c :: after)).length := by
    simp only [Utf8.length_encode_cons]
    rcases h with h | ⟨d, rest, rfl, hc, hd⟩
    · omega
    · rw [Utf8.length_encode_cons]
      omega
  refine .sign fun quoted more heq => ?_
  rw [Nat.min_eq_left hlong]
  -- the beginnings one by one: none of them has three bytes
  rcases List.cons_eq_append_iff.mp heq with ⟨rfl, -⟩ | ⟨quoted, rfl, hafter⟩
  · decide
  rcases List.cons_eq_append_iff.mp hafter with ⟨rfl, -⟩ | ⟨quoted, rfl, hrest⟩
  · decide
  rw [Utf8.length_encode_cons, Utf8.length_encode_cons]
  rcases h with h | ⟨d, rest, rfl, hc, hd⟩
  · omega
  rcases List.cons_eq_append_iff.mp hrest with ⟨rfl, -⟩ | ⟨quoted, rfl, -⟩
  · rw [Utf8.encode_nil, List.length_nil]
    omega
  · rw [Utf8.length_encode_cons]
    omega

/-- A bad escape is quoted in up to three bytes, and no character is cut. -/
theorem quotes_quoteEscape (after : Text) : Quotes ('%' :: after) (quoteEscape after) := by
  match after with
  | [] => exact .bytes (List.append_nil _).symm (by decide)
  | [c] =>
    rw [quoteEscape]
    split
    · next h => exact quotes_one [] (.inr ⟨h, rfl⟩)
    · next h => exact quotes_sign (.inl (by omega))
  | c :: d :: rest =>
    have hc := Char.utf8Size_pos c
    have hd := Char.utf8Size_pos d
    rw [quoteEscape]
    split
    · next h => exact quotes_one _ (.inl h)
    · next htwo =>
      split
      · next h =>
        refine .bytes (show '%' :: c :: d :: rest = ['%', c, d] ++ rest from rfl) ?_
        have hsign : ('%').utf8Size = 1 := rfl
        simp only [Utf8.length_encode_cons, Utf8.encode_nil, List.length_nil]
        omega
      · next h =>
        refine quotes_sign ?_
        by_cases hone : c.utf8Size = 1
        · exact .inr ⟨d, rest, rfl, hone, by omega⟩
        · exact .inl (by omega)

-- ---------------------------------------------------------------------------
-- The check
-- ---------------------------------------------------------------------------

/-- How the check ends: a control is a fault wherever it stands, and before any escape. -/
theorem check_cases (path : Text) :
    (OfUnits path ∧ check path = .ok ()) ∨
    ((∃ c ∈ path, Ascii.isControl c = true) ∧ check path = .error .controlCharacter) ∨
    ((∀ c ∈ path, Ascii.isControl c = false) ∧ ∃ before after quoted,
      Leftmost path before after ∧ Quotes ('%' :: after) quoted ∧
      check path = .error (.badEscape quoted)) := by
  rw [check]
  by_cases hcontrol : ∃ c ∈ path, Ascii.isControl c = true
  · rw [if_pos (List.any_eq_true.mpr hcontrol)]
    exact .inr (.inl ⟨hcontrol, rfl⟩)
  · have hnone : ∀ c ∈ path, Ascii.isControl c = false := by
      simpa only [not_exists, not_and, Bool.not_eq_true] using hcontrol
    rw [if_neg fun hany => hcontrol (List.any_eq_true.mp hany)]
    cases hbad : badEscape? path with
    | none => exact .inl ⟨(badEscape?_eq_none_iff hnone).mp hbad, rfl⟩
    | some quoted =>
      obtain ⟨before, after, hleft, rfl⟩ := leftmost_of_badEscape? hbad
      exact .inr (.inr ⟨hnone, before, after, _, hleft, quotes_quoteEscape after, rfl⟩)

/-- There are no other faults of a path. -/
theorem cause_of_check {path : Text} {cause : UrlCause} (h : check path = .error cause) :
    cause = .controlCharacter ∨ ∃ quoted, cause = .badEscape quoted := by
  rcases check_cases path with ⟨-, hok⟩ | ⟨-, hcontrol⟩ | ⟨-, _, _, quoted, -, -, hescape⟩
  · rw [hok] at h
    cases h
  · exact .inl (Except.error.inj (h.symm.trans hcontrol))
  · exact .inr ⟨quoted, Except.error.inj (h.symm.trans hescape)⟩

/-- The paths that pass are those made of units. -/
theorem check_eq_ok_iff {path : Text} : check path = .ok () ↔ OfUnits path := by
  constructor
  · intro h
    rcases check_cases path with ⟨hunits, -⟩ | ⟨-, herror⟩ | ⟨-, _, _, _, -, -, herror⟩
    · exact hunits
    · rw [herror] at h
      cases h
    · rw [herror] at h
      cases h
  · intro hunits
    have hcontrol := isControl_of_mem hunits
    rw [check, badEscape?_of_ofUnits hunits, if_neg]
    simpa using hcontrol

end FilePath

-- ---------------------------------------------------------------------------
-- File paths in the strict grammar
-- ---------------------------------------------------------------------------

namespace Grammar

/-- The rest of a file URL is checked and taken as it is. -/
theorem readStrict_file (rest : Text) :
    readStrict ("file://".toList ++ rest) =
      ((FilePath.check rest).map fun _ => .directory rest).mapError .badUrl := by
  have hcut : Text.cutAround schemeMark ("file".toList ++ schemeMark ++ rest) =
      some ("file".toList, rest) := Text.cutAround_append_of_not_mem rest (by decide)
  have hurl : "file://".toList ++ rest = "file".toList ++ schemeMark ++ rest := rfl
  have hother : ¬ "file".toList = "https".toList := by decide
  rw [hurl, readStrict, hcut]
  show (if "file".toList = "https".toList then _ else if "file".toList = "file".toList then _
    else _) = _
  rw [if_neg hother, if_pos rfl]
  cases FilePath.check rest <;> rfl

/-- Only a file path is a directory of the strict grammar, and it is that path. -/
theorem eq_of_readStrict_directory {s path : Text} (h : readStrict s = .ok (.directory path)) :
    s = "file://".toList ++ path := by
  unfold readStrict at h
  split at h
  · cases h
  · next scheme rest hcut =>
    split at h
    · obtain ⟨r, -, hr⟩ := exists_of_map_eq_ok h
      cases hr
    · split at h
      · next hscheme =>
        subst hscheme
        split at h
        · cases h
        · cases h
          exact Text.eq_of_cutAround hcut
      · cases h

end Grammar

namespace Locator

open FilePath

/-- A path after `file://` is taken over as it is written if it is a row of units. Where
it is not, a control in it is the fault; where there is none, the fault is the leftmost
sign that no two digits follow, shown with what comes after it. No other text names a
directory. -/
theorem parse_strict_file (rest : Text) :
    (parse ("file://".toList ++ rest) .strict = .ok (.directory rest) ↔ OfUnits rest) ∧
    (¬ OfUnits rest → ∃ cause,
      parse ("file://".toList ++ rest) .strict =
        .error (.malformed ("file://".toList ++ rest) (.badUrl cause)) ∧
      ((∃ c ∈ rest, Ascii.isControl c = true) →
        cause.message = "invalid control character in URL".toList) ∧
      ((∀ c ∈ rest, Ascii.isControl c = false) → ∃ before after quoted,
        Leftmost rest before after ∧ Quotes ('%' :: after) quoted ∧
        cause.message = "invalid URL escape '".toList ++ quoted ++ "'".toList)) ∧
    (∀ s path, parse s .strict = .ok (.directory path) → s = "file://".toList ++ path) := by
  refine ⟨?_, ?_, ?_⟩
  · rw [parse, Grammar.read, Grammar.readStrict_file, ← check_eq_ok_iff]
    cases check rest <;> simp [Except.map, Except.mapError]
  · intro hunits
    rw [parse, Grammar.read, Grammar.readStrict_file]
    rcases check_cases rest with ⟨hok, -⟩ | ⟨⟨c, hc, hcontrol⟩, herror⟩ |
      ⟨hnone, before, after, quoted, hleft, hquotes, herror⟩
    · exact absurd hok hunits
    · rw [herror]
      refine ⟨.controlCharacter, rfl, fun _ => rfl, fun hnone => ?_⟩
      rw [hnone c hc] at hcontrol
      cases hcontrol
    · rw [herror]
      refine ⟨.badEscape quoted, rfl, ?_, fun _ => ⟨before, after, quoted, hleft, hquotes, rfl⟩⟩
      rintro ⟨c, hc, hcontrol⟩
      rw [hnone c hc] at hcontrol
      cases hcontrol
  · intro s path h
    exact Grammar.eq_of_readStrict_directory (Grammar.read_of_parse h)

/-- The escape before the bad sign is passed over. In the first path the three bytes from
the sign on are a whole character with it; in the second they end inside one. -/
theorem parse_strict_file_inside_character :
    ¬ OfUnits "a%20/%é%€%".toList ∧ ¬ OfUnits "%€%".toList ∧
    parse "file://a%20/%é%€%".toList .strict =
      .error (.malformed "file://a%20/%é%€%".toList (.badUrl (.badEscape "%é".toList))) ∧
    parse "file://%€%".toList .strict =
      .error (.malformed "file://%€%".toList (.badUrl (.badEscape ['%']))) :=
  ⟨fun h => absurd ((parse_strict_file _).1.mpr h) (by decide),
    fun h => absurd ((parse_strict_file _).1.mpr h) (by decide), by decide, by decide⟩

end Locator

end RepoIdentity

import RepoIdentity.Proofs.Text
import RepoIdentity.Reference.Basic

/-!
# User names and the naming rules

The rule for user names is written as a pattern with a bounded middle part, and a
separate test refuses two hyphens in a row. What the two allow together is simpler:
runs of letters and digits with a hyphen between each two of them. Cut at the hyphens,
a text has an empty piece exactly if a hyphen stands at an end of it or next to another
one, and both are excluded, the ends by the pattern and doubled hyphens by the test.

* `FitsPattern`, `isValid_iff_fitsPattern` — the pattern, and the test beside it;
* `OfRuns`, `ofRuns_iff` — the runs, and that they are the same texts;
* `ofRuns_append_iff` — a user name is cut at any of its hyphens into two user names;
* `Hosted.validate_iff` — which repositories each fault is for. A user name is never
  blank, so that a blank owner is always refused as an owner.
-/

namespace RepoIdentity

namespace Username

-- ---------------------------------------------------------------------------
-- The pattern
-- ---------------------------------------------------------------------------

/-- The pattern of user names: a letter or a digit, alone or before another one, with up
to thirty-seven letters, digits and hyphens between the two. -/
inductive FitsPattern : Text → Prop where
  | alone {c : Char} (h : Ascii.isAlphanum c = true) : FitsPattern [c]
  | between {first last : Char} {inner : Text} (hfirst : Ascii.isAlphanum first = true)
      (hinner : ∀ c ∈ inner, isInside c = true) (hlength : inner.length ≤ 37)
      (hlast : Ascii.isAlphanum last = true) : FitsPattern (first :: (inner ++ [last]))

theorem isInside_of_isAlphanum {c : Char} (h : Ascii.isAlphanum c = true) : isInside c = true := by
  rw [isInside, h, Bool.true_or]

/-- The pattern read off the characters: all are inner ones, and a letter or a digit
stands at each end. -/
theorem fitsPattern_iff {s : Text} :
    FitsPattern s ↔ (∀ c ∈ s, isInside c = true) ∧ 1 ≤ s.length ∧ s.length ≤ 39 ∧
      (∀ c ∈ s.head?, Ascii.isAlphanum c = true) ∧
      ∀ c ∈ s.getLast?, Ascii.isAlphanum c = true := by
  constructor
  · rintro (h | ⟨hfirst, hinner, hlength, hlast⟩)
    · refine ⟨?_, by simp, by simp, ?_, ?_⟩
      · intro d hd
        rw [List.mem_singleton.mp hd]
        exact isInside_of_isAlphanum h
      · rintro d ⟨⟩
        exact h
      · rintro d ⟨⟩
        exact h
    · refine ⟨?_, by simp, ?_, ?_, ?_⟩
      · intro d hd
        rw [List.mem_cons, List.mem_append, List.mem_singleton] at hd
        rcases hd with rfl | hd | rfl
        · exact isInside_of_isAlphanum hfirst
        · exact hinner d hd
        · exact isInside_of_isAlphanum hlast
      · simp only [List.length_cons, List.length_append, List.length_nil]
        omega
      · rintro d ⟨⟩
        exact hfirst
      · intro d hd
        rw [← List.cons_append, List.getLast?_concat] at hd
        cases hd
        exact hlast
  · rintro ⟨hinside, hpos, hlength, hhead, hlast⟩
    cases s with
    | nil => exact absurd hpos (by decide)
    | cons first rest =>
      have hfirst := hhead first rfl
      -- one character, or a first and a last one with the others between them
      rcases List.eq_nil_or_concat rest with rfl | ⟨inner, last, rfl⟩
      · exact .alone hfirst
      · rw [List.concat_eq_append] at hinside hlength hlast ⊢
        rw [← List.cons_append, List.getLast?_concat] at hlast
        simp only [List.length_cons, List.length_append, List.length_nil] at hlength
        refine .between hfirst (fun c hc => hinside c ?_) (by omega) (hlast last rfl)
        exact List.mem_cons_of_mem first (List.mem_append_left _ hc)

/-- A user name fits the pattern and has no two hyphens in a row. -/
theorem isValid_iff_fitsPattern {s : Text} :
    isValid s = true ↔ FitsPattern s ∧ ¬ "--".toList <:+: s := by
  have hends (o : Option Char) :
      o.all Ascii.isAlphanum = true ↔ ∀ c ∈ o, Ascii.isAlphanum c = true := by
    cases o <;> simp
  rw [fitsPattern_iff, isValid, ← Text.hasMark_eq_false_iff]
  simp only [Bool.and_eq_true, decide_eq_true_eq, List.all_eq_true, hends, Bool.not_eq_true',
    and_assoc]
  rfl

-- ---------------------------------------------------------------------------
-- Runs
-- ---------------------------------------------------------------------------

/-- One or more runs of letters and digits, none of them empty, with a hyphen between
each two of them, and one to thirty-nine characters in all. -/
def OfRuns (s : Text) : Prop :=
  ∃ runs : List Text, runs ≠ [] ∧
    (∀ run ∈ runs, run ≠ [] ∧ ∀ c ∈ run, Ascii.isAlphanum c = true) ∧
    s = Text.join ['-'] runs ∧ 1 ≤ s.length ∧ s.length ≤ 39

theorem hyphen_not_mem {run : Text} (h : ∀ c ∈ run, Ascii.isAlphanum c = true) : '-' ∉ run :=
  fun hmem => absurd (h '-' hmem) (by decide)

/-- The runs of a text are what its hyphens divide it into. -/
theorem ofRuns_iff_splitOn {s : Text} :
    OfRuns s ↔ (∀ run ∈ Text.splitOn '-' s, run ≠ [] ∧ ∀ c ∈ run, Ascii.isAlphanum c = true) ∧
      1 ≤ s.length ∧ s.length ≤ 39 := by
  constructor
  · rintro ⟨runs, hne, hruns, rfl, hlength⟩
    rw [Text.splitOn_join hne fun run hrun => hyphen_not_mem (hruns run hrun).2]
    exact ⟨hruns, hlength⟩
  · rintro ⟨hruns, hlength⟩
    exact ⟨_, Text.splitOn_ne_nil '-' s, hruns, (Text.join_splitOn '-' s).symm, hlength⟩

/-- The characters of the pieces are all characters but the hyphens. -/
theorem forall_splitOn_iff {s : Text} :
    (∀ run ∈ Text.splitOn '-' s, ∀ c ∈ run, Ascii.isAlphanum c = true) ↔
      ∀ c ∈ s, isInside c = true := by
  constructor
  · intro h c hc
    rw [← Text.join_splitOn '-' s] at hc
    rcases Text.mem_of_mem_join hc with hc | ⟨run, hrun, hc⟩
    · rw [List.mem_singleton.mp hc]
      rfl
    · exact isInside_of_isAlphanum (h run hrun c hc)
  · intro h run hrun c hc
    have hinside := h c (Text.mem_of_mem_splitOn hrun hc)
    rw [isInside, Bool.or_eq_true, beq_iff_eq] at hinside
    refine hinside.resolve_right ?_
    rintro rfl
    exact Text.not_mem_of_mem_splitOn hrun hc

/-- Without hyphens a user name is one run. -/
theorem ofRuns_iff_of_not_mem {s : Text} (h : '-' ∉ s) :
    OfRuns s ↔ s ≠ [] ∧ (∀ c ∈ s, Ascii.isAlphanum c = true) ∧ s.length ≤ 39 := by
  rw [ofRuns_iff_splitOn, Text.splitOn_of_not_mem h, List.forall_mem_singleton,
    ← List.length_pos_iff]
  tauto

/-- Two texts with a hyphen between them are a user name exactly if each of them is one and
they are not too long together. -/
theorem ofRuns_append_iff {a b : Text} :
    OfRuns (a ++ '-' :: b) ↔ OfRuns a ∧ OfRuns b ∧ a.length + 1 + b.length ≤ 39 := by
  have hpos {s : Text} (h : ∀ run ∈ Text.splitOn '-' s,
      run ≠ [] ∧ ∀ c ∈ run, Ascii.isAlphanum c = true) : 1 ≤ s.length := by
    refine List.length_pos_iff.mpr ?_
    rintro rfl
    exact (h [] List.mem_cons_self).1 rfl
  rw [ofRuns_iff_splitOn, ofRuns_iff_splitOn, ofRuns_iff_splitOn, Text.splitOn_append_cons,
    List.forall_mem_append, List.length_append, List.length_cons]
  constructor
  · rintro ⟨⟨ha, hb⟩, -, hlength⟩
    exact ⟨⟨ha, hpos ha, by omega⟩, ⟨hb, hpos hb, by omega⟩, by omega⟩
  · rintro ⟨⟨ha, -, -⟩, ⟨hb, -, -⟩, hlength⟩
    exact ⟨⟨ha, hb⟩, by omega, by omega⟩

/-- Among inner characters only the hyphen is no letter and no digit. -/
theorem isAlphanum_iff_of_isInside {c : Char} (h : isInside c = true) :
    Ascii.isAlphanum c = true ↔ c ≠ '-' := by
  rw [isInside, Bool.or_eq_true, beq_iff_eq] at h
  refine ⟨?_, h.resolve_right⟩
  rintro halphanum rfl
  exact absurd halphanum (by decide)

/-- The pattern and the test for doubled hyphens allow the texts made of runs. -/
theorem ofRuns_iff {s : Text} : OfRuns s ↔ FitsPattern s ∧ ¬ "--".toList <:+: s := by
  have hnonempty : (∀ run ∈ Text.splitOn '-' s, run ≠ []) ↔ [] ∉ Text.splitOn '-' s :=
    ⟨fun h hmem => h [] hmem rfl, fun h run hrun hnil => h (hnil ▸ hrun)⟩
  have hsome : s ≠ [] ↔ 1 ≤ s.length := List.length_pos_iff.symm
  rw [ofRuns_iff_splitOn, forall₂_and, forall_splitOn_iff, hnonempty, Text.nil_mem_splitOn_iff,
    fitsPattern_iff]
  simp only [not_or, hsome]
  constructor
  · rintro ⟨⟨⟨-, hhead, hlast, hdoubled⟩, hinside⟩, hpos, hlength⟩
    refine ⟨⟨hinside, hpos, hlength, ?_, ?_⟩, hdoubled⟩
    · intro c hc
      refine (isAlphanum_iff_of_isInside (hinside c (List.mem_of_head? hc))).mpr ?_
      rintro rfl
      exact hhead hc
    · intro c hc
      refine (isAlphanum_iff_of_isInside (hinside c (List.mem_of_getLast? hc))).mpr ?_
      rintro rfl
      exact hlast hc
  · rintro ⟨⟨hinside, hpos, hlength, hhead, hlast⟩, hdoubled⟩
    refine ⟨⟨⟨hpos, ?_, ?_, hdoubled⟩, hinside⟩, hpos, hlength⟩
    · exact fun hc => absurd (hhead '-' hc) (by decide)
    · exact fun hc => absurd (hlast '-' hc) (by decide)

theorem isValid_iff_ofRuns {s : Text} : isValid s = true ↔ OfRuns s :=
  isValid_iff_fitsPattern.trans ofRuns_iff.symm

/-- A user name begins with a letter or a digit, and these are not blank. -/
theorem not_ofRuns_of_blank {s : Text} (h : ∀ c ∈ s, isBlankChar c = true) : ¬ OfRuns s := by
  have hall : ∀ n < 128, Ascii.isAlphanum (Char.ofNat n) = true →
      isBlankChar (Char.ofNat n) = false := by decide
  intro hruns
  obtain ⟨-, hpos, -, hhead, -⟩ := fitsPattern_iff.mp (ofRuns_iff.mp hruns).1
  cases s with
  | nil => exact absurd hpos (by decide)
  | cons c s =>
    have halphanum := hhead c rfl
    have hvisible := Ascii.forall_of_forall_lt
      (P := fun c => Ascii.isAlphanum c = true → isBlankChar c = false) hall
      (Ascii.toNat_lt_of_isAlphanum halphanum) halphanum
    rw [h c List.mem_cons_self] at hvisible
    cases hvisible

end Username

-- ---------------------------------------------------------------------------
-- The naming rules
-- ---------------------------------------------------------------------------

namespace Hosted

variable {r : Hosted}

/-- Another host is refused first. -/
theorem validate_of_host (h : r.host ≠ "github.com".toList) :
    r.validate = .error (.unsupportedHost r.host) := by
  rw [validate, if_pos (show r.host ≠ Grammar.defaultHost from h)]

/-- An owner that is no user name is refused next. -/
theorem validate_of_owner (hhost : r.host = "github.com".toList)
    (h : ¬ Username.OfRuns r.owner) : r.validate = .error (.invalidOwner r.owner) := by
  have hinvalid : Username.isValid r.owner = false := by
    rw [Bool.eq_false_iff]
    exact fun hvalid => h (Username.isValid_iff_ofRuns.mp hvalid)
  rw [validate, if_neg (not_not.mpr (show r.host = Grammar.defaultHost from hhost)), hinvalid,
    Bool.not_false, if_pos rfl]

/-- What is left to decide under the usual host and a user name. -/
theorem validate_of_ofRuns (hhost : r.host = "github.com".toList)
    (howner : Username.OfRuns r.owner) :
    r.validate = if Text.isBlank r.name then .error (.invalidIdentity r.canonicalUrl) else .ok () := by
  have hvalid := Username.isValid_iff_ofRuns.mpr howner
  have hvisible : Text.isBlank r.owner = false := by
    rw [Bool.eq_false_iff]
    exact fun hblank => Username.not_ofRuns_of_blank (List.all_eq_true.mp hblank) howner
  rw [validate, if_neg (not_not.mpr (show r.host = Grammar.defaultHost from hhost)), hvalid,
    Bool.not_true, if_neg Bool.false_ne_true, hvisible, Bool.false_or]

/-- A blank name is refused last. -/
theorem validate_of_name (hhost : r.host = "github.com".toList)
    (howner : Username.OfRuns r.owner) (h : ∀ c ∈ r.name, isBlankChar c = true) :
    r.validate = .error (.invalidIdentity r.canonicalUrl) := by
  rw [validate_of_ofRuns hhost howner, Text.isBlank, if_pos (List.all_eq_true.mpr h)]

theorem validate_of_valid (hhost : r.host = "github.com".toList)
    (howner : Username.OfRuns r.owner) (h : ¬ ∀ c ∈ r.name, isBlankChar c = true) :
    r.validate = .ok () := by
  rw [validate_of_ofRuns hhost howner, Text.isBlank,
    if_neg fun hblank => h (List.all_eq_true.mp hblank)]

/-- Exactly the repositories with a user name and a name on the usual host pass. -/
theorem validate_eq_ok_iff : r.validate = .ok () ↔
    r.host = "github.com".toList ∧ Username.OfRuns r.owner ∧
      ∃ c ∈ r.name, isBlankChar c = false := by
  have hvisible : (∃ c ∈ r.name, isBlankChar c = false) ↔
      ¬ ∀ c ∈ r.name, isBlankChar c = true := by simp
  rw [hvisible]
  constructor
  · intro h
    by_cases hhost : r.host = "github.com".toList
    · by_cases howner : Username.OfRuns r.owner
      · refine ⟨hhost, howner, fun hname => ?_⟩
        rw [validate_of_name hhost howner hname] at h
        cases h
      · rw [validate_of_owner hhost howner] at h
        cases h
    · rw [validate_of_host hhost] at h
      cases h
  · rintro ⟨hhost, howner, hname⟩
    exact validate_of_valid hhost howner hname

/-- The rules are decided in the order host, owner, name, and each fault carries what
broke the first rule that is broken. The name is looked at only under a user name, and
no user name is blank. -/
theorem validate_iff (r : Hosted) :
    (∀ host, r.validate = .error (.unsupportedHost host) ↔
      r.host = host ∧ r.host ≠ "github.com".toList) ∧
    (∀ owner, r.validate = .error (.invalidOwner owner) ↔
      r.owner = owner ∧ r.host = "github.com".toList ∧ ¬ Username.OfRuns r.owner) ∧
    (∀ url, r.validate = .error (.invalidIdentity url) ↔
      r.canonicalUrl = url ∧ r.host = "github.com".toList ∧ Username.OfRuns r.owner ∧
        ∀ c ∈ r.name, isBlankChar c = true) ∧
    (r.validate = .ok () ↔
      r.host = "github.com".toList ∧ Username.OfRuns r.owner ∧
        ¬ ∀ c ∈ r.name, isBlankChar c = true) ∧
    ((∀ c ∈ r.owner, isBlankChar c = true) →
      (r.host = "github.com".toList → r.validate = .error (.invalidOwner r.owner)) ∧
        ∀ url, r.validate ≠ .error (.invalidIdentity url)) := by
  have hrefused := @validate_of_host r
  have howned := @validate_of_owner r
  have hnamed := @validate_of_name r
  have haccepted := @validate_of_valid r
  have hvisible (howner : Username.OfRuns r.owner) : ¬ ∀ c ∈ r.owner, isBlankChar c = true :=
    fun hblank => Username.not_ofRuns_of_blank hblank howner
  -- that the usual host is this one and not another plays no part from here on
  generalize "github.com".toList = usual at *
  generalize hblank : (∀ c ∈ r.name, isBlankChar c = true) = nameless at *
  by_cases hhost : r.host = usual
  · by_cases howner : Username.OfRuns r.owner
    · by_cases hname : nameless
      · simp [hnamed hhost howner hname, hhost, howner, hvisible howner, hname]
      · simp [haccepted hhost howner hname, hhost, howner, hvisible howner, hname]
    · simp [howned hhost howner, hhost, howner]
  · simp [hrefused hhost, hhost]

/-- A blank owner and a blank name: the owner is what is refused. -/
theorem validate_iff_of_blank_owner :
    (∀ c ∈ ['\u2003', '\n'], isBlankChar c = true) ∧
    Hosted.validate ⟨"github.com".toList, ['\u2003', '\n'], []⟩ =
      .error (.invalidOwner ['\u2003', '\n']) :=
  have hblank : ∀ c ∈ ['\u2003', '\n'], isBlankChar c = true := List.all_eq_true.mp rfl
  ⟨hblank, ((validate_iff ⟨"github.com".toList, ['\u2003', '\n'], []⟩).2.2.2.2 hblank).1 rfl⟩

end Hosted

/-- Only a hosted repository passes the check of a reference. -/
theorem Reference.validate_eq_ok_iff {a : Reference} :
    a.validate = .ok () ↔ ∃ r, a.locator = .hosted r ∧ r.validate = .ok () := by
  rw [validate]
  cases a.locator with
  | hosted r => simp
  | directory path => simp

end RepoIdentity

import Mathlib.Data.List.Nodup
import RepoIdentity.Proofs.Loading
import RepoIdentity.Proofs.Toml

/-!
# Configuration files say what was written

Every setting has a line of its own, and the lines may stand in any order: no two of
them set the same field, so the order in which they are taken does not count. A line
with another name is a fault wherever it stands, and goes before a blank tag, which is
looked for only in a document that decodes.

* `Setting` — what one line says; `Setting.present` lists the settings of a file;
* `Setting.foldl_of_perm` — settings in any order come to the same;
* `Settings.withEntries_of_states`, `Settings.withEntries_of_unknown` — the entries of a
  document that was read are decoded as what they say, up to a name that is unknown;
* `Configuration.DocumentLaws`, `Configuration.documentLaws` — what a file comes to
  that was written for settings.
-/

namespace RepoIdentity

open Toml (Field Statement)

-- ---------------------------------------------------------------------------
-- Lines with settings
-- ---------------------------------------------------------------------------

/-- What one line of a configuration file says. -/
inductive Setting where
  | strict (b : Bool)
  | validate (b : Bool)
  | metadata (tags : List Text)

namespace Setting

def statement : Setting → Statement
  | .strict b => ⟨Settings.strictField, .truth b⟩
  | .validate b => ⟨Settings.validateField, .truth b⟩
  | .metadata tags => ⟨Settings.metadataField, .texts tags⟩

def name (line : Setting) : Text := line.statement.name

/-- Settings after one more line. -/
def apply (s : Settings) : Setting → Settings
  | .strict b => { s with strict := some b }
  | .validate b => { s with validate := some b }
  | .metadata tags => { s with metadata := tags }

/-- A line for each field that is present. -/
def present (strict validate : Option Bool) (metadata : Option (List Text)) : List Setting :=
  (strict.map .strict).toList ++ (validate.map .validate).toList ++ (metadata.map .metadata).toList

theorem name_mem (line : Setting) :
    line.name ∈ [Settings.strictField, Settings.validateField, Settings.metadataField] := by
  cases line with
  | strict b => exact .head _
  | validate b => exact .tail _ (.head _)
  | metadata tags => exact .tail _ (.tail _ (.head _))

theorem isBareKey_name (line : Setting) : Toml.IsBareKey line.name := by
  cases line with
  | strict b => exact ⟨List.cons_ne_nil _ _, List.all_eq_true.mp rfl⟩
  | validate b => exact ⟨List.cons_ne_nil _ _, List.all_eq_true.mp rfl⟩
  | metadata tags => exact ⟨List.cons_ne_nil _ _, List.all_eq_true.mp rfl⟩

/-- Lines about different fields can be taken in either order. -/
theorem apply_comm {a b : Setting} (h : a.name = b.name → a = b) (s : Settings) :
    apply (apply s a) b = apply (apply s b) a := by
  by_cases heq : a = b
  · rw [heq]
  · have hne : a.name ≠ b.name := fun hname => heq (h hname)
    cases a with
    | strict x =>
      cases b with
      | strict y => exact absurd rfl hne
      | _ => rfl
    | validate x =>
      cases b with
      | validate y => exact absurd rfl hne
      | _ => rfl
    | metadata x =>
      cases b with
      | metadata y => exact absurd rfl hne
      | _ => rfl

section

variable {strict validate : Option Bool} {metadata : Option (List Text)} {lines : List Setting}

/-- Every field has at most one line. -/
theorem nodup_present : ((present strict validate metadata).map name).Nodup := by
  have hsingle : ∀ {α : Type} (o : Option α) (f : α → Setting) (field : Text),
      (∀ a, (f a).name = field) → ((o.map f).toList.map name).Sublist [field] := by
    intro α o f field hf
    cases o with
    | none => exact List.nil_sublist _
    | some a =>
      show [(f a).name].Sublist [field]
      rw [hf a]
  have hsublist : ((present strict validate metadata).map name).Sublist
      [Settings.strictField, Settings.validateField, Settings.metadataField] := by
    rw [present, List.map_append, List.map_append]
    exact ((hsingle strict .strict _ fun _ => rfl).append
      (hsingle validate .validate _ fun _ => rfl)).append
      (hsingle metadata .metadata _ fun _ => rfl)
  exact hsublist.nodup (by decide)

/-- Applying the lines that there are gives the settings. -/
theorem foldl_present : (present strict validate metadata).foldl apply Settings.empty =
    ⟨strict, validate, metadata.getD []⟩ := by
  cases strict <;> cases validate <;> cases metadata <;> rfl

/-- The order of the lines does not count. -/
theorem foldl_of_perm (h : lines.Perm (present strict validate metadata)) :
    lines.foldl apply Settings.empty = ⟨strict, validate, metadata.getD []⟩ := by
  have hnodup : (lines.map name).Nodup := (h.map name).nodup_iff.mpr nodup_present
  rw [← foldl_present]
  refine h.foldl_eq' ?_ Settings.empty
  intro a ha b hb s
  exact apply_comm (List.inj_on_of_nodup_map hnodup ha hb) s

end

end Setting

-- ---------------------------------------------------------------------------
-- Decoding
-- ---------------------------------------------------------------------------

namespace Settings

theorem decodeTags_of_map {items : List (Toml.Span × Toml.Value)} {tags : List Text}
    (h : items.map Prod.snd = tags.map .string) : decodeTags items = .ok tags := by
  induction tags generalizing items with
  | nil =>
    rw [List.map_nil, List.map_eq_nil_iff] at h
    rw [h]
    rfl
  | cons tag tags ih =>
    rw [List.map_cons, List.map_eq_cons_iff] at h
    obtain ⟨⟨place, v⟩, items, rfl, hv, hitems⟩ := h
    cases hv
    show (decodeTags items).map (tag :: ·) = _
    rw [ih hitems]
    rfl

/-- An entry is decoded as the setting that it says. -/
theorem withEntry_of_states {f : Field} {line : Setting} (h : f.States line.statement)
    (s : Settings) : s.withEntry f.key (some f.span) f.value = .ok (line.apply s) := by
  obtain ⟨-, hname, hcontent⟩ := h
  cases line with
  | strict b =>
    have hvalue : f.value = .boolean b := hcontent
    rw [withEntry, hname, hvalue]
    rfl
  | validate b =>
    have hvalue : f.value = .boolean b := hcontent
    rw [withEntry, hname, hvalue]
    rfl
  | metadata tags =>
    obtain ⟨items, hvalue, hitems⟩ := hcontent
    rw [withEntry, hname, hvalue]
    show (decodeTags items).map _ = _
    rw [decodeTags_of_map hitems]
    rfl

/-- Fields that state settings are applied in order. -/
theorem withEntries_of_states {lines : List Setting} {fs : List Field}
    (h : List.Forall₂ Field.States fs (lines.map Setting.statement)) (s : Settings) :
    s.withEntries (fs.map Field.entry) = .ok (lines.foldl Setting.apply s) := by
  induction lines generalizing fs s with
  | nil =>
    cases h
    rfl
  | cons line lines ih =>
    cases h with
    | @cons f fs _ _ hstates hrest =>
      rw [List.map_cons, Toml.Field.entry, withEntries, withEntry_of_states hstates s]
      exact ih hrest _

/-- A field with an unknown name is refused by its name. -/
theorem withEntry_of_unknown {f : Field} {name : Text} (hf : f.key.name = name)
    (h : name ∉ [strictField, validateField, metadataField]) (s : Settings) :
    s.withEntry f.key (some f.span) f.value = .error (.unknownField f.key.span name) := by
  simp only [List.mem_cons, not_or] at h
  obtain ⟨hstrict, hvalidate, hmetadata, -⟩ := h
  rw [withEntry, hf, if_neg hstrict, if_neg hvalidate, if_neg hmetadata]

/-- A line with an unknown name is a fault, whatever stands before and after it. -/
theorem withEntries_of_unknown {before : List Setting} {unknown : Statement}
    {after : List Statement} {fs : List Field}
    (h : List.Forall₂ Field.States fs (before.map Setting.statement ++ unknown :: after))
    (hname : unknown.name ∉ [strictField, validateField, metadataField]) (s : Settings) :
    ∃ place, s.withEntries (fs.map Field.entry) = .error (.unknownField place unknown.name) := by
  induction before generalizing fs s with
  | nil =>
    cases h with
    | @cons f fs _ _ hstates hrest =>
      refine ⟨f.key.span, ?_⟩
      rw [List.map_cons, Toml.Field.entry, withEntries, withEntry_of_unknown hstates.name hname s]
  | cons line before ih =>
    cases h with
    | @cons f fs _ _ hstates hrest =>
      rw [List.map_cons, Toml.Field.entry, withEntries, withEntry_of_states hstates s]
      exact ih hrest _

end Settings

-- ---------------------------------------------------------------------------
-- Documents
-- ---------------------------------------------------------------------------

section

variable {strict validate : Option Bool} {metadata : Option (List Text)} {document : Text}

/-- A document of settings is read as these, in whatever order they stand. -/
theorem Settings.ofDocument_of_writes {lines : List Setting}
    (hlines : lines.Perm (Setting.present strict validate metadata))
    (h : Toml.Writes (lines.map Setting.statement) document) :
    Settings.ofDocument document = .ok ⟨strict, validate, metadata.getD []⟩ := by
  have hbare : ∀ a ∈ lines.map Setting.statement, Toml.IsBareKey a.name :=
    List.forall_mem_map.mpr fun line _ => line.isBareKey_name
  have hnodup : ((lines.map Setting.statement).map Statement.name).Nodup := by
    rw [List.map_map]
    exact (hlines.map Setting.name).nodup_iff.mpr Setting.nodup_present
  obtain ⟨fs, hentries, hstates⟩ := Toml.ofText?_written h hbare hnodup
  rw [ofDocument, hentries]
  show (Settings.empty.withEntries (fs.map Field.entry)).mapError _ = _
  rw [withEntries_of_states hstates, Setting.foldl_of_perm hlines]
  rfl

/-- A document with an unknown field is refused for that field. -/
theorem Settings.ofDocument_of_unknown {before after : List Setting} {unknown : Statement}
    (hlines : (before ++ after).Perm (Setting.present strict validate metadata))
    (hbare : Toml.IsBareKey unknown.name)
    (hname : unknown.name ∉ [strictField, validateField, metadataField])
    (h : Toml.Writes (before.map Setting.statement ++ unknown :: after.map Setting.statement)
      document) :
    ∃ place, Settings.ofDocument document =
      .error (.misfit document (.unknownField place unknown.name)) := by
  have hbares : ∀ a ∈ before.map Setting.statement ++ unknown :: after.map Setting.statement,
      Toml.IsBareKey a.name := by
    intro a ha
    rw [List.mem_append, List.mem_cons, List.mem_map, List.mem_map] at ha
    rcases ha with ⟨line, -, rfl⟩ | rfl | ⟨line, -, rfl⟩
    · exact line.isBareKey_name
    · exact hbare
    · exact line.isBareKey_name
  -- the unknown name is none of the known ones, which stand there once each
  have hnodup : ((before.map Setting.statement ++ unknown :: after.map Setting.statement).map
      Statement.name).Nodup := by
    have hknown : ((before ++ after).map Setting.name).Nodup :=
      (hlines.map Setting.name).nodup_iff.mpr Setting.nodup_present
    rw [List.map_append, List.map_cons, List.map_map, List.map_map, List.nodup_middle,
      ← List.map_append, List.nodup_cons]
    refine ⟨fun hmem => ?_, hknown⟩
    obtain ⟨line, -, heq⟩ := List.mem_map.mp hmem
    exact hname (heq ▸ line.name_mem)
  obtain ⟨fs, hentries, hstates⟩ := Toml.ofText?_written h hbares hnodup
  obtain ⟨place, hfault⟩ := withEntries_of_unknown hstates hname Settings.empty
  refine ⟨place, ?_⟩
  rw [ofDocument, hentries]
  show (Settings.empty.withEntries (fs.map Field.entry)).mapError _ = _
  rw [hfault]
  rfl

end

namespace Configuration

/-- What a file comes to that was written for settings, each of which may be absent. -/
structure DocumentLaws (fs : FileSystem) (path : Text) (strict validate : Option Bool)
    (metadata : Option (List Text)) : Prop where
  /-- There is such a file, with the lines in any order. -/
  exists_document : ∀ lines : List Setting, lines.Perm (Setting.present strict validate metadata) →
    ∃ document, Toml.Writes (lines.map Setting.statement) document
  /-- If every tag has a character that is not white space, the settings are read back; -/
  of_tags : ∀ (lines : List Setting) (document : Text),
    lines.Perm (Setting.present strict validate metadata) →
    Toml.Writes (lines.map Setting.statement) document →
    fs.read path = .ok (Utf8.encode document) →
    (∀ tag ∈ metadata.getD [], ∃ c ∈ tag, isBlankChar c = false) →
    settingsAt fs path = .ok ⟨strict, validate, metadata.getD []⟩
  /-- otherwise the file is refused for that. -/
  of_blank_tag : ∀ (lines : List Setting) (document : Text),
    lines.Perm (Setting.present strict validate metadata) →
    Toml.Writes (lines.map Setting.statement) document →
    fs.read path = .ok (Utf8.encode document) →
    (∃ tag ∈ metadata.getD [], ∀ c ∈ tag, isBlankChar c = true) →
    settingsAt fs path = .error .blankTag
  /-- One more line with another name is a fault of the document. -/
  of_unknown : ∀ (before after : List Setting) (name document : Text),
    (before ++ after).Perm (Setting.present strict validate metadata) → Toml.IsBareKey name →
    name ∉ [Settings.strictField, Settings.validateField, Settings.metadataField] →
    Toml.Writes (before.map Setting.statement ++
      ⟨name, .truth true⟩ :: after.map Setting.statement) document →
    fs.read path = .ok (Utf8.encode document) →
    ∃ place, settingsAt fs path =
      .error (.undecodable path (.misfit document (.unknownField place name)))

/-- A file is read back as the settings it was written for, whatever the order of its lines
and whatever stands in its tags. -/
theorem documentLaws (fs : FileSystem) (path : Text) (strict validate : Option Bool)
    (metadata : Option (List Text)) : DocumentLaws fs path strict validate metadata where
  exists_document lines _ := Toml.exists_writes (lines.map Setting.statement)
  of_tags := by
    intro lines document hlines hwrites hread htags
    have hsettings := Settings.ofDocument_of_writes hlines hwrites
    rw [settingsAt_of_settings (readText_of_encode hread) hsettings,
      Settings.check_of_tags htags]
    rfl
  of_blank_tag := by
    intro lines document hlines hwrites hread hblank
    have hsettings := Settings.ofDocument_of_writes hlines hwrites
    rw [settingsAt_of_settings (readText_of_encode hread) hsettings,
      Settings.check_of_blank_tag hblank]
    rfl
  of_unknown := by
    intro before after name document hlines hbare hname hwrites hread
    obtain ⟨place, hfault⟩ := Settings.ofDocument_of_unknown hlines hbare hname hwrites
    exact ⟨place, settingsAt_of_fault (readText_of_encode hread) hfault⟩

/-- Tags with a quote and a tab before the other line, and a line with another name in front. -/
theorem documentLaws_of_quotes :
    (∀ fs : FileSystem, fs.read "c".toList = .ok (Utf8.encode
        "metadata = [\"a\\\"\", \"\\u0009b\"]\nstrict = false".toList) →
      settingsAt fs "c".toList = .ok ⟨some false, none, ["a\"".toList, "\tb".toList]⟩) ∧
    ∀ fs : FileSystem, fs.read "c".toList = .ok (Utf8.encode
        "host = true\nstrict = false\n".toList) →
      ∃ place, settingsAt fs "c".toList = .error (.undecodable "c".toList
        (.misfit "host = true\nstrict = false\n".toList (.unknownField place "host".toList))) := by
  have hstrict : Statement.Written (Setting.statement (.strict false)) "strict = false".toList :=
    ⟨_, .no, rfl⟩
  constructor
  · intro fs hread
    have hquote : Toml.Spells "a\"".toList "a\\\"".toList :=
      .cons (.plain (by decide) (by decide) rfl) (.cons (.marked (Or.inl rfl)) .nil)
    have hgap : ∀ c ∈ [' '], Toml.isBlank c = true := List.all_eq_true.mp rfl
    have hdigits : ['0', '0', '0', '9'].map Ascii.hexValue? = [0, 0, 0, 9].map some := rfl
    have htab : Toml.Spells "\tb".toList "\\u0009b".toList :=
      .cons (.numbered hdigits rfl) (.cons (.plain (by decide) (by decide) rfl) .nil)
    have hmetadata : Statement.Written
        (Setting.statement (.metadata ["a\"".toList, "\tb".toList]))
        "metadata = [\"a\\\"\", \"\\u0009b\"]".toList :=
      ⟨_, .texts (.next hquote hgap (.last htab)), rfl⟩
    have htags : Settings.hasNoBlankTag ⟨some false, none, ["a\"".toList, "\tb".toList]⟩ = true :=
      rfl
    exact (documentLaws fs "c".toList (some false) none
      (some ["a\"".toList, "\tb".toList])).of_tags
        [.metadata ["a\"".toList, "\tb".toList], .strict false] _ (.swap _ _ _)
        (.cons hmetadata .feed (.cons hstrict .final .nil)) hread
        (Settings.hasNoBlankTag_iff.mp htags)
  · intro fs hread
    have hhost : Statement.Written ⟨"host".toList, .truth true⟩ "host = true".toList :=
      ⟨_, .yes, rfl⟩
    exact (documentLaws fs "c".toList (some false) none none).of_unknown [] [.strict false]
      "host".toList _ (.refl _) ⟨by decide, List.all_eq_true.mp rfl⟩ (by decide)
      (.cons hhost .feed (.cons hstrict .feed .nil)) hread

end Configuration

end RepoIdentity

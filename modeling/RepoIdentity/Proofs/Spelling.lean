import RepoIdentity.Proofs.Hosted
import RepoIdentity.Proofs.Network

/-!
# Spellings of a reference

A path of a URL may write any character as escapes, and has to do so with the
characters that have a meaning of their own. Whichever way owner and name are
spelled, and whichever of the three forms of a reference they stand in, the same
repository is read.

* `PathTo` — paths that are left as they are written and stand for owner and name;
* `hostedOfUrl_of_pathTo`, `hostedOfUrl_of_settled` — what is read from a network URL
  with such a path, by its authority;
* `pathTo_of_spells` — a path that spells owner and name is one;
* `PlainHost` — the usual names of hosts.
-/

namespace RepoIdentity.Grammar

open Url

-- ---------------------------------------------------------------------------
-- Reading a URL that has nothing to resolve
-- ---------------------------------------------------------------------------

/-- The written path `t` has nothing to resolve and stands for owner and name. -/
structure PathTo (t owner name : Text) : Prop where
  chars : ∀ c ∈ t, c ≠ '\\' ∧ isPathEnd c = false ∧ Ascii.isTabOrNewline c = false
  dots : ∀ s ∈ Text.splitOn '/' t, Path.isDots s = false
  ending : ∀ c ∈ t.getLast?, Ascii.isControlOrSpace c = false
  decode : Percent.decode t = Utf8.encode (owner ++ '/' :: name)
  owner_ne_nil : owner ≠ []
  slash_not_mem_owner : '/' ∉ owner
  name_ne_nil : name ≠ []
  getLast?_name : name.getLast? ≠ some '/'

/-- The repository that a network URL names, whatever its authority is, if its path
has nothing to resolve. It is refused for its authority alone. -/
theorem hostedOfUrl_of_pathTo {scheme w t owner name : Text} (hkind : Scheme.kind scheme = .network)
    (hne : solid w ≠ []) (hw : ∀ c ∈ w, endsPort c = false) (h : PathTo t owner name) :
    hostedOfUrl (scheme ++ "://".toList ++ w ++ '/' :: t) =
      ((placeOf scheme (cutCredentials (solid w)).2).map fun place =>
        ⟨place.1.text ++ portText place.2, owner, name⟩).mapError
          fun cause => .badUrl (.refused cause) := by
  have hwhole : solid (Text.trimEnd Ascii.isControlOrSpace t) = t := by
    rw [Text.trimEnd_eq_self h.ending]
    exact solid_eq_self fun c hc => (h.chars c hc).2.2
  have hread := read_authority hkind hne hw t
  rw [hwhole, networkPath_eq_self h.chars h.dots] at hread
  have hpath : Utf8.decode (Percent.decode ('/' :: t)) = .ok ('/' :: (owner ++ '/' :: name)) := by
    rw [Percent.decode_cons_of_ne (by decide), h.decode, ← Utf8.encode_cons, Utf8.decode_encode]
  have hsplit := splitOwnerName_eq h.owner_ne_nil h.slash_not_mem_owner h.name_ne_nil
    h.getLast?_name
  rw [hostedOfUrl, hread]
  cases placeOf scheme (cutCredentials (solid w)).2 with
  | error cause => rfl
  | ok place =>
    simp only [Except.map, Except.mapError, hpath, hsplit]
    rw [hostText_eq]
    rfl

/-- The repository that an `https` URL names, if its host is settled and its path has
nothing to resolve. -/
theorem hostedOfUrl_of_settled {host : Url.Host} {port : Option Nat} {t owner name : Text}
    (hhost : host.Settled)
    (hport : ∀ n, port = some n → n ≤ 65535 ∧ Scheme.defaultPort? defaultScheme ≠ some n)
    (h : PathTo t owner name) :
    hostedOfUrl (defaultScheme ++ schemeMark ++ (host.text ++ portText port) ++ '/' :: t) =
      .ok ⟨host.text ++ portText port, owner, name⟩ := by
  have hisRead : host.IsRead := Or.inl ⟨host.text, Host.readSpecial_text hhost⟩
  have hplace : ∀ c ∈ host.text ++ portText port, isHostChar c = true := by
    intro c hc
    rcases List.mem_append.mp hc with hc | hc
    · exact (Host.isHostChar_text hisRead c hc).1
    · exact isHostChar_of_mem_portText hc
  have hsolid : solid (host.text ++ portText port) = host.text ++ portText port :=
    solid_eq_self fun c hc => isTabOrNewline_of_isHostChar (hplace c hc)
  have hne : solid (host.text ++ portText port) ≠ [] := by
    intro h
    rw [hsolid] at h
    exact Host.text_ne_nil hisRead (List.append_eq_nil_iff.mp h).1
  rw [schemeMark, hostedOfUrl_of_pathTo (by decide) hne
    (fun c hc => endsPort_of_isHostChar (hplace c hc)) h, hsolid,
    cutCredentials_of_not_mem (not_mem_of_isHostChar hplace rfl), placeOf_of_settled hhost hport]
  rfl

-- ---------------------------------------------------------------------------
-- Spelled paths
-- ---------------------------------------------------------------------------

/-- What a text has to be in order to be an owner or a name that some path spells. -/
structure Spelled (w s : Text) : Prop where
  spells : Percent.Spells w s
  ne_nil : s ≠ []
  not_dots : s ∉ [".".toList, "..".toList]

namespace Spelled

variable {w s : Text}

/-- A spelling holds no reserved character. -/
theorem not_mem (h : Spelled w s) {c : Char} (hc : c ≠ '%') (hres : Percent.isReserved c = true) :
    c ∉ w := by
  intro hmem
  rcases Percent.isReserved_of_mem_spells h.spells c hmem with heq | hnot
  · exact hc heq
  · rw [hnot] at hres
    cases hres

/-- A spelling holds no slash. -/
theorem slash_not_mem (h : Spelled w s) : '/' ∉ w := h.not_mem (by decide) (by decide)

/-- What is needed of the characters of a spelling. -/
theorem chars (h : Spelled w s) :
    ∀ c ∈ w, c ≠ '\\' ∧ isPathEnd c = false ∧ Ascii.isTabOrNewline c = false := by
  intro c hc
  rw [← not_mem_delimiters_iff]
  intro hmem
  have hkinds : c ≠ '%' ∧ Percent.isReserved c = true := by
    simp only [List.mem_cons, List.not_mem_nil, or_false] at hmem
    rcases hmem with rfl | rfl | rfl | rfl | rfl | rfl <;> exact ⟨by decide, by decide⟩
  exact h.not_mem hkinds.1 hkinds.2 hc

/-- A spelling is not empty. -/
theorem written_ne_nil (h : Spelled w s) : w ≠ [] := Percent.ne_nil_of_spells h.spells h.ne_nil

/-- A spelling is decoded as the text that it spells. -/
theorem decode_eq (h : Spelled w s) : Percent.decode w = Utf8.encode s := by
  have hdecode := Percent.decode_of_spells h.spells []
  rwa [List.append_nil, show Percent.decode [] = [] from rfl, List.append_nil] at hdecode

/-- No spelling of another text is taken for dots. -/
theorem isDots_eq_false (h : Spelled w s) : Path.isDots w = false := by
  rw [Bool.eq_false_iff]
  intro hdots
  obtain ⟨dots, hmem, hdecode⟩ := Path.decode_of_isDots hdots
  rw [h.decode_eq] at hdecode
  rw [← Utf8.encode_injective hdecode] at hmem
  exact h.not_dots hmem

end Spelled

/-- A path that spells owner and name has nothing to resolve. -/
theorem pathTo_of_spells {ow owner nw name : Text} (howner : Spelled ow owner)
    (hslash : '/' ∉ owner) (hname : Spelled nw name) (hlast : name.getLast? ≠ some '/')
    (hend : ∀ c ∈ nw.getLast?, Ascii.isControlOrSpace c = false) :
    PathTo (ow ++ '/' :: nw) owner name where
  chars := by
    intro c hc
    rcases List.mem_append.mp hc with hc | hc
    · exact howner.chars c hc
    · rcases List.mem_cons.mp hc with rfl | hc
      · decide
      · exact hname.chars c hc
  dots := by
    intro s hs
    rw [Text.splitOn_append _ howner.slash_not_mem, Text.splitOn_of_not_mem hname.slash_not_mem]
      at hs
    simp only [List.mem_cons, List.not_mem_nil, or_false] at hs
    rcases hs with rfl | rfl
    · exact howner.isDots_eq_false
    · exact hname.isDots_eq_false
  ending := by
    obtain ⟨c, rest, rfl⟩ := List.exists_cons_of_ne_nil hname.written_ne_nil
    rw [List.getLast?_append_cons, List.getLast?_cons_cons]
    exact hend
  decode := by
    rw [Percent.decode_of_spells howner.spells, Percent.decode_cons_of_ne (by decide),
      hname.decode_eq, Utf8.encode_append, Utf8.encode_cons]
  owner_ne_nil := howner.ne_nil
  slash_not_mem_owner := hslash
  name_ne_nil := hname.ne_nil
  getLast?_name := hlast

/-- A settled host and a spelled path are read as host, owner and name. -/
theorem hostedOfUrl_of_spells {host : Url.Host} {ow owner nw name : Text} (hhost : host.Settled)
    (howner : Spelled ow owner) (hslash : '/' ∉ owner) (hname : Spelled nw name)
    (hlast : name.getLast? ≠ some '/')
    (hend : ∀ c ∈ nw.getLast?, Ascii.isControlOrSpace c = false) :
    hostedOfUrl (defaultScheme ++ schemeMark ++ (host.text ++ '/' :: ow ++ '/' :: nw)) =
      .ok ⟨host.text, owner, name⟩ := by
  have hport : ∀ n, none = some n → n ≤ 65535 ∧ Scheme.defaultPort? defaultScheme ≠ some n := by
    simp
  have hread := hostedOfUrl_of_settled hhost hport
    (pathTo_of_spells howner hslash hname hlast hend)
  rw [portText, List.append_nil] at hread
  rw [← hread]
  simp only [List.append_assoc, List.cons_append]

-- ---------------------------------------------------------------------------
-- The three forms of a reference
-- ---------------------------------------------------------------------------

/-- Names of hosts made of labels of small letters and digits, the last of which
begins with a letter. -/
def PlainHost (host : Text) : Prop :=
  ∃ labels : List Text, host = Text.join ['.'] labels ∧
    (∀ l ∈ labels, l ≠ [] ∧ l.all (fun c => c.isLower || c.isDigit) = true) ∧
    ∃ c rest, labels.getLast? = some (c :: rest) ∧ c.isLower = true

theorem isLower_or_isDigit_of_mem {l : Text} (h : l.all (fun c => c.isLower || c.isDigit) = true) :
    ∀ c ∈ l, c.isLower = true ∨ c.isDigit = true :=
  fun c hc => Bool.or_eq_true_iff.mp (List.all_eq_true.mp h c hc)

/-- A plain host holds small letters, digits and dots. -/
theorem PlainHost.mem {host : Text} (h : PlainHost host) :
    ∀ c ∈ host, c.isLower = true ∨ c.isDigit = true ∨ c = '.' := by
  obtain ⟨labels, rfl, hlabels, -⟩ := h
  intro c hc
  rcases Text.mem_of_mem_join hc with hc | ⟨l, hl, hc⟩
  · exact Or.inr (Or.inr (List.mem_singleton.mp hc))
  · rcases isLower_or_isDigit_of_mem (hlabels l hl).2 c hc with h | h
    · exact Or.inl h
    · exact Or.inr (Or.inl h)

/-- A plain host holds nothing else. -/
theorem PlainHost.not_mem {host : Text} (h : PlainHost host) {c : Char} (hlower : c.isLower = false)
    (hdigit : c.isDigit = false) (hdot : c ≠ '.') : c ∉ host := by
  intro hmem
  rcases h.mem c hmem with hc | hc | hc
  · rw [hlower] at hc
    cases hc
  · rw [hdigit] at hc
    cases hc
  · exact hdot hc

theorem isDigit_eq_false_of_isLower {c : Char} (h : c.isLower = true) : c.isDigit = false := by
  have hall : ∀ n < 128, (Char.ofNat n).isLower = true → (Char.ofNat n).isDigit = false := by decide
  exact Ascii.forall_of_forall_lt (P := fun c => c.isLower = true → c.isDigit = false) hall
    (Ascii.toNat_lt_of_isLower h) h

/-- A plain host is no address and is its own ASCII form. -/
theorem PlainHost.settled {host : Text} (h : PlainHost host) : (Url.Host.domain host).Settled := by
  have hself := Domain.toAscii_of_alphanum h.mem
  obtain ⟨labels, rfl, hlabels, c, rest, hlast, hlower⟩ := h
  have hmem : c :: rest ∈ labels := List.mem_of_getLast? hlast
  have hdots : ∀ l ∈ labels, '.' ∉ l := by
    intro l hl hdot
    rcases isLower_or_isDigit_of_mem (hlabels l hl).2 '.' hdot with h | h <;>
      exact absurd h (by decide)
  refine ⟨?_, hself, Ipv4.isMeant_eq_false hlast hdots (isDigit_eq_false_of_isLower hlower)⟩
  exact List.ne_nil_of_mem (Text.mem_join_of_mem hmem List.mem_cons_self)

/-- The usual host is plain. -/
theorem plainHost_defaultHost : PlainHost defaultHost := by
  refine ⟨["github".toList, "com".toList], rfl, by decide, 'c', "om".toList, rfl, by decide⟩

/-- No scheme mark where no two slashes meet. -/
theorem not_hasMark_of_slashes {host ow nw : Text} (hhost : '/' ∉ host) (how : '/' ∉ ow)
    (hnw : '/' ∉ nw) (hne : ow ≠ []) (hne' : nw ≠ []) :
    Text.hasMark schemeMark (host ++ '/' :: ow ++ '/' :: nw) = false := by
  have hhead {s : Text} (h : '/' ∉ s) (rest : Text) (hs : s ≠ []) :
      (s ++ rest).head? ≠ some '/' := by
    obtain ⟨c, s, rfl⟩ := List.exists_cons_of_ne_nil hs
    intro hc
    exact h (Option.some.inj hc ▸ List.mem_cons_self)
  have hname : ¬ ['/', '/'] <:+: nw := fun h => hnw (h.subset List.mem_cons_self)
  have hpath : ¬ ['/', '/'] <:+: ow ++ '/' :: nw :=
    Text.not_doubled_append how (by simpa using hhead hnw [] hne') hname
  have hall : ¬ ['/', '/'] <:+: host ++ '/' :: (ow ++ '/' :: nw) :=
    Text.not_doubled_append hhost (hhead how _ hne) hpath
  rw [Bool.eq_false_iff]
  intro hmark
  have hslashes : ['/', '/'] <:+: schemeMark := ⟨[':'], [], rfl⟩
  refine hall (hslashes.trans ?_)
  have hinfix := Text.hasMark_iff.mp hmark
  rwa [List.append_assoc, List.cons_append] at hinfix

/-- The slashes that are written are those between the parts. -/
theorem count_slash {host ow nw : Text} (hhost : '/' ∉ host) (how : '/' ∉ ow) (hnw : '/' ∉ nw) :
    (ow ++ '/' :: nw).count '/' = 1 ∧ (host ++ '/' :: ow ++ '/' :: nw).count '/' = 2 := by
  have hhost' := List.count_eq_zero.mpr hhost
  have how' := List.count_eq_zero.mpr how
  have hnw' := List.count_eq_zero.mpr hnw
  refine ⟨?_, ?_⟩ <;> simp [List.count_append, hhost', how', hnw']

/-- A text is read as the URL that it is elaborated to. -/
theorem readLegacy_of_elaborate {input url : Text} (h : elaborate input = .ok url) :
    readLegacy input = hostedOfUrl url := by
  rw [readLegacy, h]

/-- A text without a scheme is given one. -/
theorem withScheme_of_not_hasMark {s : Text} (h : Text.hasMark schemeMark s = false) :
    withScheme s = defaultScheme ++ schemeMark ++ s := by
  rw [withScheme, h, if_neg Bool.false_ne_true]

/-- One slash stands between owner and name, so that the host is missing. -/
theorem elaborate_of_count_one {input : Text} (h : input.count '/' = 1) :
    elaborate input = .ok (withScheme (defaultHost ++ '/' :: input)) := by
  simp only [elaborate, h]

/-- With two slashes the host is there. -/
theorem elaborate_of_two_le {input : Text} (h : 2 ≤ input.count '/') :
    elaborate input = .ok (withScheme input) := by
  obtain ⟨n, hn⟩ := Nat.exists_eq_add_of_le' h
  simp only [elaborate, hn]

section Forms

variable {host ow owner nw name : Text}

/-- The lenient grammar reads a host, an owner and a name from their spellings. -/
theorem readLegacy_host (hhost : PlainHost host) (howner : Spelled ow owner) (hslash : '/' ∉ owner)
    (hname : Spelled nw name) (hlast : name.getLast? ≠ some '/')
    (hend : ∀ c ∈ nw.getLast?, Ascii.isControlOrSpace c = false) :
    readLegacy (host ++ '/' :: ow ++ '/' :: nw) = .ok ⟨host, owner, name⟩ := by
  have hhost' : '/' ∉ host := hhost.not_mem (by decide) (by decide) (by decide)
  have hcount := (count_slash hhost' howner.slash_not_mem hname.slash_not_mem).2
  have hmark := not_hasMark_of_slashes hhost' howner.slash_not_mem hname.slash_not_mem
    howner.written_ne_nil hname.written_ne_nil
  have helaborate : elaborate (host ++ '/' :: ow ++ '/' :: nw) =
      .ok (defaultScheme ++ schemeMark ++ (host ++ '/' :: ow ++ '/' :: nw)) := by
    rw [elaborate_of_two_le (Nat.le_of_eq hcount.symm), withScheme_of_not_hasMark hmark]
  have hread := hostedOfUrl_of_spells hhost.settled howner hslash hname hlast hend
  rw [Url.Host.text] at hread
  rw [readLegacy_of_elaborate helaborate, hread]

/-- A host that is left out is the usual one. -/
theorem readLegacy_default (howner : Spelled ow owner) (hslash : '/' ∉ owner)
    (hname : Spelled nw name) (hlast : name.getLast? ≠ some '/')
    (hend : ∀ c ∈ nw.getLast?, Ascii.isControlOrSpace c = false) :
    readLegacy (ow ++ '/' :: nw) = .ok ⟨defaultHost, owner, name⟩ := by
  have hhost' : '/' ∉ defaultHost := by decide
  have hcount := (count_slash hhost' howner.slash_not_mem hname.slash_not_mem).1
  have hmark := not_hasMark_of_slashes hhost' howner.slash_not_mem hname.slash_not_mem
    howner.written_ne_nil hname.written_ne_nil
  have helaborate : elaborate (ow ++ '/' :: nw) =
      .ok (defaultScheme ++ schemeMark ++ (defaultHost ++ '/' :: ow ++ '/' :: nw)) := by
    rw [elaborate_of_count_one hcount, ← withScheme_of_not_hasMark hmark, List.append_assoc,
      List.cons_append]
  have hread := hostedOfUrl_of_spells plainHost_defaultHost.settled howner hslash hname hlast hend
  rw [Url.Host.text] at hread
  rw [readLegacy_of_elaborate helaborate, hread]

/-- The strict grammar reads them behind the scheme. -/
theorem readStrict_host (hhost : PlainHost host) (howner : Spelled ow owner) (hslash : '/' ∉ owner)
    (hname : Spelled nw name) (hlast : name.getLast? ≠ some '/')
    (hend : ∀ c ∈ nw.getLast?, Ascii.isControlOrSpace c = false) :
    readStrict ("https://".toList ++ host ++ '/' :: ow ++ '/' :: nw) =
      .ok (.hosted ⟨host, owner, name⟩) := by
  have hread := hostedOfUrl_of_spells hhost.settled howner hslash hname hlast hend
  have hscheme : "https://".toList ++ host ++ '/' :: ow ++ '/' :: nw =
      defaultScheme ++ schemeMark ++ (host ++ '/' :: ow ++ '/' :: nw) := by
    simp [defaultScheme, schemeMark]
  have hcut : Text.cutAround schemeMark
      (defaultScheme ++ schemeMark ++ (host ++ '/' :: ow ++ '/' :: nw)) =
      some (defaultScheme, host ++ '/' :: ow ++ '/' :: nw) :=
    Text.cutAround_append_of_not_mem _ (by decide)
  rw [Url.Host.text] at hread
  rw [hscheme, readStrict, hcut]
  simp only
  rw [if_pos (show defaultScheme = "https".toList from rfl), hread]
  rfl

end Forms

/-- Every spelling of owner and name is read as owner and name: after the usual
host, after a host that is named, and in a URL of the strict grammar. Only the last
character of the name is restricted, as a URL drops blanks and controls there; an
escape at the end is never dropped. -/
theorem read_spellings {owner name ow nw : Text} (howner : owner ≠ []) (hslash : '/' ∉ owner)
    (hname : name ≠ []) (hlast : name.getLast? ≠ some '/')
    (howner' : owner ≠ ".".toList ∧ owner ≠ "..".toList)
    (hname' : name ≠ ".".toList ∧ name ≠ "..".toList)
    (how : Percent.Spells ow owner) (hnw : Percent.Spells nw name)
    (hend : ∀ c, nw.getLast? = some c → 0x20 < c.toNat) :
    readLegacy (ow ++ '/' :: nw) = .ok ⟨"github.com".toList, owner, name⟩ ∧
    ∀ host, PlainHost host →
      readLegacy (host ++ '/' :: ow ++ '/' :: nw) = .ok ⟨host, owner, name⟩ ∧
      readStrict ("https://".toList ++ host ++ '/' :: ow ++ '/' :: nw) =
        .ok (.hosted ⟨host, owner, name⟩) := by
  have hspelled : Spelled ow owner := ⟨how, howner, by simpa using howner'⟩
  have hspelled' : Spelled nw name := ⟨hnw, hname, by simpa using hname'⟩
  have hend' : ∀ c ∈ nw.getLast?, Ascii.isControlOrSpace c = false := by
    intro c hc
    rw [Ascii.isControlOrSpace, decide_eq_false_iff_not]
    exact Nat.not_le.mpr (hend c hc)
  refine ⟨readLegacy_default hspelled hslash hspelled' hlast hend', fun host hhost => ⟨?_, ?_⟩⟩
  · exact readLegacy_host hhost hspelled hslash hspelled' hlast hend'
  · exact readStrict_host hhost hspelled hslash hspelled' hlast hend'

/-- A letter of two bytes with digits of both cases, and a name that begins with a
slash. -/
theorem read_spellings_escapes :
    readLegacy ("%c3%A9".toList ++ '/' :: "%2Fa".toList) =
        .ok ⟨"github.com".toList, "é".toList, "/a".toList⟩ ∧
      readLegacy ("git.example.org".toList ++ '/' :: "%c3%A9".toList ++ '/' :: "%2Fa".toList) =
        .ok ⟨"git.example.org".toList, "é".toList, "/a".toList⟩ ∧
      readStrict ("https://".toList ++ "git.example.org".toList ++ '/' :: "%c3%A9".toList ++
        '/' :: "%2Fa".toList) =
        .ok (.hosted ⟨"git.example.org".toList, "é".toList, "/a".toList⟩) := by
  have hletter : Percent.Escapes "%c3%A9".toList (String.utf8EncodeChar 'é') :=
    .cons (b := 0xC3) (by decide) (by decide) (.cons (b := 0xA9) (by decide) (by decide) .nil)
  have hfirst : Percent.Escapes "%2F".toList (String.utf8EncodeChar '/') :=
    .cons (b := 0x2F) (by decide) (by decide) .nil
  have how : Percent.Spells "%c3%A9".toList "é".toList := .escaped hletter .nil
  have hnw : Percent.Spells "%2Fa".toList "/a".toList :=
    .escaped hfirst (.literal (by decide) .nil)
  have hhost : PlainHost "git.example.org".toList :=
    ⟨["git".toList, "example".toList, "org".toList], rfl, by decide, 'o', "rg".toList, rfl,
      by decide⟩
  have hread := read_spellings (by decide) (by decide) (by decide) (by decide) (by decide)
    (by decide) how hnw (by rintro c ⟨⟩; decide)
  exact ⟨hread.1, hread.2 _ hhost⟩

end RepoIdentity.Grammar

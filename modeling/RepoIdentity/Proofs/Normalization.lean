import RepoIdentity.Proofs.Elaboration

/-!
# Authorities in their normal form

An authority may be written with credentials, with capitals in the name of its host
and with a port that has leading zeros or goes without saying. None of that is kept:
what identifies the host is its name in small letters, and its port, if that is not
the usual one of the scheme. The credentials may hold at signs, colons and brackets of
their own; only what follows the last at sign names a host.

* `WrittenHost` — names of hosts in letters of either case;
* `Domain.toAscii_lower` — the ASCII form does not see the case;
* `Place` — authorities as they are written, with their normal forms;
* `placeOf_of_fits`, `placeOf_of_exceeds` — host and port are kept in normal form, or
  the port is refused;
* `Place.parse_refer` — the same for references of both grammars.
-/

namespace RepoIdentity

-- ---------------------------------------------------------------------------
-- Small letters
-- ---------------------------------------------------------------------------

namespace Ascii

/-- What making an ASCII character small does to it. -/
theorem toLower_spec {c : Char} (h : isAscii c = true) :
    isAscii c.toLower = true ∧ c.toLower.isUpper = false ∧
      (c.isUpper = false → c.toLower = c) ∧ (c ≠ '.' → c.toLower ≠ '.') ∧
      (c.isAlpha = true → c.toLower.isLower = true) := by
  have hall : ∀ n < 128, isAscii (Char.ofNat n).toLower = true ∧
      (Char.ofNat n).toLower.isUpper = false ∧
      ((Char.ofNat n).isUpper = false → (Char.ofNat n).toLower = Char.ofNat n) ∧
      (Char.ofNat n ≠ '.' → (Char.ofNat n).toLower ≠ '.') ∧
      ((Char.ofNat n).isAlpha = true → (Char.ofNat n).toLower.isLower = true) := by decide
  exact forall_of_forall_lt (P := fun c => isAscii c.toLower = true ∧ c.toLower.isUpper = false ∧
    (c.isUpper = false → c.toLower = c) ∧ (c ≠ '.' → c.toLower ≠ '.') ∧
    (c.isAlpha = true → c.toLower.isLower = true)) hall (by simpa [isAscii] using h)

/-- Joined texts in small letters are the texts in small letters, joined. -/
theorem lower_join (sep : Char) (pieces : List Text) :
    lower (Text.join [sep] pieces) = Text.join [sep.toLower] (pieces.map lower) := by
  induction pieces with
  | nil => rfl
  | cons p rest ih =>
    cases rest with
    | nil => simp [Text.join]
    | cons q rest =>
      rw [List.map_cons] at ih ⊢
      rw [List.map_cons, Text.join, Text.join, List.intercalate_cons_cons,
        List.intercalate_cons_cons, ← Text.join, ← Text.join, ← ih, lower, lower, lower,
        List.map_append, List.map_append]
      rfl

end Ascii

/-- Mapping does to ASCII text nothing but making it small. -/
theorem Unicode.mapName_of_isAscii {s : Text} (h : ∀ c ∈ s, Ascii.isAscii c = true) :
    mapName s = some (Ascii.lower s) := by
  induction s with
  | nil => rfl
  | cons c s ih =>
    have hc := h c List.mem_cons_self
    have hrest := ih fun d hd => h d (List.mem_cons_of_mem c hd)
    cases hupper : c.isUpper with
    | true =>
      have htreatment : treatment c = .mapped [c.toLower] := by
        rw [treatment, if_pos hc, hupper, if_pos rfl]
      rw [mapName, htreatment, hrest]
      rfl
    | false =>
      have htreatment : treatment c = .valid := by
        rw [treatment, if_pos hc, hupper]
        rfl
      have hself := (Ascii.toLower_spec hc).2.2.1 hupper
      have hlower : Ascii.lower (c :: s) = c :: Ascii.lower s := by
        rw [Ascii.lower, List.map_cons, hself]
        rfl
      rw [mapName, htreatment, hrest, hlower]
      rfl

/-- Capitals do not show in the ASCII form of a name. -/
theorem Domain.toAscii_lower {name : Text} (h : ∀ c ∈ name, Ascii.isAscii c = true) :
    toAscii name = toAscii (Ascii.lower name) := by
  have hsmall : ∀ c ∈ Ascii.lower name, Ascii.isAscii c = true ∧ c.isUpper = false := by
    intro c hc
    obtain ⟨d, hd, rfl⟩ := List.mem_map.mp hc
    exact ⟨(Ascii.toLower_spec (h d hd)).1, (Ascii.toLower_spec (h d hd)).2.1⟩
  rw [toAscii, toAscii, Unicode.mapName_of_isAscii h, Unicode.mapName_eq_self hsmall]

namespace Grammar

open Url

-- ---------------------------------------------------------------------------
-- Names of hosts
-- ---------------------------------------------------------------------------

/-- Letters, digits and hyphens. -/
def isLabelChar (c : Char) : Bool := Ascii.isAlphanum c || c == '-'

/-- Names of hosts as they are written: labels with dots between them. None is marked
as Punycode, in letters of any case, and the last begins with a letter. -/
def WrittenHost (host : Text) : Prop :=
  ∃ labels : List Text, host = Text.join ['.'] labels ∧
    (∀ l ∈ labels, l ≠ [] ∧ l.all isLabelChar = true ∧ ¬ "xn--".toList <+: Ascii.lower l) ∧
    ∃ c rest, labels.getLast? = some (c :: rest) ∧ c.isAlpha = true

/-- Characters of labels are ASCII, stand in no other part of a URL, and are no less
when they are small. -/
theorem labelChar_spec {c : Char} (h : isLabelChar c = true) :
    Ascii.isAscii c = true ∧ isHostChar c = true ∧ c ∉ ['.', ':', '[', '%'] ∧
      Domain.isForbidden c.toLower = false := by
  have hlt : c.toNat < 128 := by
    rw [isLabelChar, Bool.or_eq_true, beq_iff_eq] at h
    rcases h with h | rfl
    · exact Ascii.toNat_lt_of_isAlphanum h
    · decide
  have hall : ∀ n < 128, isLabelChar (Char.ofNat n) = true →
      Ascii.isAscii (Char.ofNat n) = true ∧ isHostChar (Char.ofNat n) = true ∧
        Char.ofNat n ∉ ['.', ':', '[', '%'] ∧
        Domain.isForbidden (Char.ofNat n).toLower = false := by decide
  exact Ascii.forall_of_forall_lt (P := fun c => isLabelChar c = true →
    Ascii.isAscii c = true ∧ isHostChar c = true ∧ c ∉ ['.', ':', '[', '%'] ∧
      Domain.isForbidden c.toLower = false) hall hlt h

namespace WrittenHost

variable {host : Text}

/-- A written host holds dots and characters of labels. -/
theorem mem (h : WrittenHost host) {c : Char} (hc : c ∈ host) :
    c = '.' ∨ isLabelChar c = true := by
  obtain ⟨labels, rfl, hlabels, -⟩ := h
  rcases Text.mem_of_mem_join hc with hc | ⟨l, hl, hc⟩
  · exact Or.inl (List.mem_singleton.mp hc)
  · exact Or.inr (List.all_eq_true.mp (hlabels l hl).2.1 c hc)

/-- What is needed of the characters of a written host. -/
theorem chars (h : WrittenHost host) : ∀ c ∈ host, Ascii.isAscii c = true ∧
    isHostChar c = true ∧ c ∉ [':', '[', '%'] ∧ Domain.isForbidden c.toLower = false := by
  intro c hc
  rcases h.mem hc with rfl | hc
  · decide
  · obtain ⟨hascii, hchar, hnot, hfree⟩ := labelChar_spec hc
    exact ⟨hascii, hchar, fun hmem => hnot (List.mem_cons_of_mem _ hmem), hfree⟩

/-- The ASCII form of the host is the host in small letters, and no address. -/
theorem toAscii_eq (h : WrittenHost host) :
    Domain.toAscii host = some (Ascii.lower host) ∧ Ascii.lower host ≠ [] ∧
      Ipv4.isMeant (Ascii.lower host) = false := by
  have hchars : ∀ c ∈ Ascii.lower host, Ascii.isAscii c = true ∧ c.isUpper = false ∧
      Domain.isForbidden c = false := by
    intro c hc
    obtain ⟨d, hd, rfl⟩ := List.mem_map.mp hc
    obtain ⟨hascii, -, -, hfree⟩ := h.chars d hd
    exact ⟨(Ascii.toLower_spec hascii).1, (Ascii.toLower_spec hascii).2.1, hfree⟩
  rw [Domain.toAscii_lower fun c hc => (h.chars c hc).1]
  obtain ⟨labels, rfl, hlabels, c, rest, hlast, halpha⟩ := h
  have hmem : c :: rest ∈ labels := List.mem_of_getLast? hlast
  -- small letters bring in no dots, so the labels stay apart
  have hdots : ∀ l ∈ labels.map Ascii.lower, '.' ∉ l := by
    intro l hl hdot
    obtain ⟨l', hl', rfl⟩ := List.mem_map.mp hl
    obtain ⟨d, hd, hlower⟩ := List.mem_map.mp hdot
    obtain ⟨hascii, -, hnot, -⟩ := labelChar_spec (List.all_eq_true.mp (hlabels l' hl').2.1 d hd)
    refine (Ascii.toLower_spec hascii).2.2.2.1 ?_ hlower
    rintro rfl
    exact hnot List.mem_cons_self
  have hjoin : Ascii.lower (Text.join ['.'] labels) = Text.join ['.'] (labels.map Ascii.lower) :=
    Ascii.lower_join '.' labels
  have hlast' : (labels.map Ascii.lower).getLast? = some (c.toLower :: Ascii.lower rest) := by
    rw [List.getLast?_map, hlast]
    rfl
  -- the last label begins with a letter, so that the host is no address
  have hfigure : c.toLower.isDigit = false := by
    have hlabel := List.all_eq_true.mp (hlabels _ hmem).2.1 c List.mem_cons_self
    have hascii := (labelChar_spec hlabel).1
    exact isDigit_eq_false_of_isLower ((Ascii.toLower_spec hascii).2.2.2.2 halpha)
  refine ⟨Domain.toAscii_eq_self hchars ?_, ?_, ?_⟩
  · intro l hl
    rw [hjoin, Text.splitOn_join (by simpa using List.ne_nil_of_mem hmem) hdots] at hl
    obtain ⟨l', hl', rfl⟩ := List.mem_map.mp hl
    exact (hlabels l' hl').2.2
  · rw [Ascii.lower, ne_eq, List.map_eq_nil_iff]
    exact List.ne_nil_of_mem (Text.mem_join_of_mem hmem List.mem_cons_self)
  · rw [hjoin]
    exact Ipv4.isMeant_eq_false hlast' hdots hfigure

/-- A written host is read as the domain in small letters. -/
theorem readSpecial_eq (h : WrittenHost host) :
    Host.readSpecial host = .ok (.domain (Ascii.lower host)) := by
  obtain ⟨hascii, hne, hmeant⟩ := h.toAscii_eq
  refine Host.readSpecial_of_toAscii ?_ ?_ hascii hne hmeant
  · exact fun hmem => (h.chars _ hmem).2.2.1 (by decide)
  · exact fun hmem => (h.chars _ hmem).2.2.1 (by decide)

theorem ne_nil (h : WrittenHost host) : host ≠ [] := by
  rintro rfl
  exact h.toAscii_eq.2.1 rfl

end WrittenHost

-- ---------------------------------------------------------------------------
-- Authorities
-- ---------------------------------------------------------------------------

/-- An authority as it is written: a host, perhaps with credentials before it and the
digits of a port after it. -/
structure Place where
  user : Option Text
  host : Text
  port : Option Text
  /-- Credentials end before the path. -/
  user_apart : ∀ credentials ∈ user, ∀ c ∈ credentials, c ∉ ['/', '\\', '?', '#']
  host_written : WrittenHost host
  port_digits : ∀ digits ∈ port, digits ≠ [] ∧ ∀ c ∈ digits, c.isDigit = true

namespace Place

def userText : (user : Option Text) → Text
  | some credentials => credentials ++ ['@']
  | none => []

def digitsText : (port : Option Text) → Text
  | some digits => ':' :: digits
  | none => []

/-- The host and the port as they are written. -/
def hostText (a : Place) : Text := a.host ++ digitsText a.port

def text (a : Place) : Text := userText a.user ++ a.hostText

/-- The number of the port. -/
def number (a : Place) : Option Nat := a.port.map Numeral.ofDigits

/-- The authority in its normal form, where `usual` is the port that goes without
saying. -/
def normal (a : Place) (usual : Nat) : Text :=
  Ascii.lower a.host ++ portText (a.number.filter (· ≠ usual))

variable (a : Place)

/-- The host of a place holds no colon, bracket or percent sign. -/
theorem host_free {c : Char} (hc : c ∈ [':', '[', '%']) : c ∉ a.host :=
  fun hmem => (a.host_written.chars c hmem).2.2.1 hc

/-- The text of a place is one for hosts. -/
theorem isHostChar_hostText : ∀ c ∈ a.hostText, isHostChar c = true := by
  intro c hc
  rw [hostText, List.mem_append] at hc
  rcases hc with hc | hc
  · exact (a.host_written.chars c hc).2.1
  · cases hport : a.port with
    | none =>
      rw [hport] at hc
      cases hc
    | some digits =>
      rw [hport] at hc
      rcases List.mem_cons.mp hc with rfl | hc
      · rfl
      · exact isHostChar_of_isDigit ((a.port_digits digits hport).2 c hc)

/-- No character of a place ends it. -/
theorem endsPort_text : ∀ c ∈ a.text, endsPort c = false := by
  intro c hc
  rw [text, List.mem_append] at hc
  rcases hc with hc | hc
  · cases huser : a.user with
    | none =>
      rw [huser] at hc
      cases hc
    | some credentials =>
      rw [huser, userText, List.mem_append, List.mem_singleton] at hc
      rcases hc with hc | rfl
      · have hapart := a.user_apart credentials huser c hc
        simpa [endsPort, isPathEnd, and_assoc] using hapart
      · rfl
  · exact endsPort_of_isHostChar (a.isHostChar_hostText c hc)

theorem hostText_ne_nil : a.hostText ≠ [] :=
  List.append_ne_nil_of_left_ne_nil a.host_written.ne_nil _

theorem solid_hostText : solid a.hostText = a.hostText :=
  solid_eq_self fun c hc => isTabOrNewline_of_isHostChar (a.isHostChar_hostText c hc)

/-- There is something to read. -/
theorem solid_text_ne_nil : solid a.text ≠ [] := by
  rw [text, solid_append, a.solid_hostText]
  exact List.append_ne_nil_of_right_ne_nil _ a.hostText_ne_nil

/-- The credentials are cut off, whatever they hold. -/
theorem cutCredentials_text : (cutCredentials (solid a.text)).2 = a.hostText := by
  have hat : '@' ∉ a.hostText := not_mem_of_isHostChar a.isHostChar_hostText rfl
  -- host and port have no at sign, so the one that ends the credentials is the last
  rw [text, solid_append, a.solid_hostText]
  cases a.user with
  | none =>
    rw [userText, show solid [] = [] from rfl, List.nil_append, cutCredentials_of_not_mem hat]
  | some credentials =>
    have hmark : solid (credentials ++ ['@']) ++ a.hostText =
        solid credentials ++ '@' :: a.hostText := by
      rw [solid_append, List.append_assoc]
      rfl
    rw [userText, hmark, cutCredentials_append _ hat]

/-- The host of a place is told from the digits after it. -/
theorem spanHost_hostText : spanHost false a.hostText = (a.host, digitsText a.port) := by
  have hcolon : ':' ∉ a.host := a.host_free (by decide)
  rw [hostText]
  cases a.port with
  | none => rw [digitsText, List.append_nil, spanHost_of_not_mem hcolon]
  | some digits => exact spanHost_append_colon hcolon (a.host_free (by decide)) digits

/-- What is read of a port that is written with digits. -/
theorem readPort_of_digits {scheme digits : Text} (hne : digits ≠ [])
    (hdigits : ∀ c ∈ digits, c.isDigit = true) :
    readPort scheme digits =
      if 65535 < Numeral.ofDigits digits then .error .invalidPort
      else .ok (if Scheme.defaultPort? scheme = some (Numeral.ofDigits digits) then none
        else some (Numeral.ofDigits digits), []) := by
  have hempty : digits.isEmpty = false := List.isEmpty_eq_false_iff.mpr hne
  rw [← List.append_nil digits, readPort_digits hdigits (by simp), List.append_nil, hempty]
  rfl

/-- The name of the host is kept in small letters, and the port is read after it. -/
theorem placeOf_hostText (scheme : Text) :
    placeOf scheme a.hostText =
      (readPortAfterHost scheme (digitsText a.port)).map fun read =>
        (.domain (Ascii.lower a.host), read.1) := by
  have hempty : a.host.isEmpty = false := List.isEmpty_eq_false_iff.mpr a.host_written.ne_nil
  rw [placeOf, a.spanHost_hostText]
  simp only [hempty, a.host_written.readSpecial_eq, Bool.false_eq_true, if_false]
  cases readPortAfterHost scheme (digitsText a.port) <;> rfl

variable {a} {scheme : Text}

/-- Host and port are kept in their normal form. -/
theorem placeOf_of_fits {usual : Nat} (husual : Scheme.defaultPort? scheme = some usual)
    (hfits : ∀ n ∈ a.number, n ≤ 65535) :
    placeOf scheme a.hostText =
      .ok (.domain (Ascii.lower a.host), a.number.filter (· ≠ usual)) := by
  rw [placeOf_hostText]
  cases hport : a.port with
  | none =>
    rw [number, hport]
    rfl
  | some digits =>
    obtain ⟨hne, hdigits⟩ := a.port_digits digits hport
    have hnumber : a.number = some (Numeral.ofDigits digits) := by
      rw [number, hport]
      rfl
    rw [digitsText, readPortAfterHost, readPort_of_digits hne hdigits,
      if_neg (Nat.not_lt.mpr (hfits _ hnumber)), husual, hnumber, Except.map]
    by_cases heq : usual = Numeral.ofDigits digits
    · rw [heq]
      simp [Option.filter_some]
    · simp [Option.filter_some, heq, Ne.symm heq]

/-- A port that does not fit is refused. -/
theorem placeOf_of_exceeds {n : Nat} (hn : a.number = some n) (hexceeds : 65535 < n) :
    placeOf scheme a.hostText = .error .invalidPort := by
  obtain ⟨digits, hport, rfl⟩ := Option.map_eq_some_iff.mp hn
  obtain ⟨hne, hdigits⟩ := a.port_digits digits hport
  rw [placeOf_hostText, hport, digitsText, readPortAfterHost, readPort_of_digits hne hdigits,
    if_pos hexceeds]
  rfl

end Place

-- ---------------------------------------------------------------------------
-- References with an authority
-- ---------------------------------------------------------------------------

/-- Characters that owner and name may have without escapes. -/
def isNameChar (c : Char) : Bool := Ascii.isAlphanum c || c == '_' || c == '-'

/-- What is needed of a character of a name. -/
theorem isReserved_of_isNameChar {c : Char} (h : isNameChar c = true) :
    Percent.isReserved c = false ∧ c ≠ '/' ∧ c ≠ '.' ∧ Ascii.isControlOrSpace c = false := by
  have hlt : c.toNat < 128 := by
    rw [isNameChar, Bool.or_eq_true, Bool.or_eq_true, beq_iff_eq, beq_iff_eq] at h
    rcases h with (h | rfl) | rfl
    · exact Ascii.toNat_lt_of_isAlphanum h
    · decide
    · decide
  have hall : ∀ n < 128, isNameChar (Char.ofNat n) = true →
      Percent.isReserved (Char.ofNat n) = false ∧ Char.ofNat n ≠ '/' ∧ Char.ofNat n ≠ '.' ∧
        Ascii.isControlOrSpace (Char.ofNat n) = false := by decide
  exact Ascii.forall_of_forall_lt (P := fun c => isNameChar c = true →
    Percent.isReserved c = false ∧ c ≠ '/' ∧ c ≠ '.' ∧ Ascii.isControlOrSpace c = false) hall hlt h

/-- Owners and names that are written with such characters alone. -/
def IsName (s : Text) : Prop := s ≠ [] ∧ s.all isNameChar = true

namespace IsName

variable {s : Text}

/-- What is needed of the characters of a name. -/
theorem chars (h : IsName s) : ∀ c ∈ s,
    Percent.isReserved c = false ∧ c ≠ '/' ∧ c ≠ '.' ∧ Ascii.isControlOrSpace c = false :=
  fun c hc => isReserved_of_isNameChar (List.all_eq_true.mp h.2 c hc)

/-- A name holds no slash. -/
theorem slash_not_mem (h : IsName s) : '/' ∉ s := fun hmem => (h.chars _ hmem).2.1 rfl

/-- A name is spelt as itself. -/
theorem spelled (h : IsName s) : Spelled s s where
  spells := Percent.spells_self (List.any_eq_false.mpr fun c hc => by simp [(h.chars c hc).1])
  ne_nil := h.1
  not_dots := by
    have hdot : '.' ∉ s := fun hmem => (h.chars _ hmem).2.2.1 rfl
    simp only [List.mem_cons, List.not_mem_nil, or_false]
    rintro (rfl | rfl) <;> exact hdot List.mem_cons_self

end IsName

/-- Two names with a slash between them are the path to a repository. -/
theorem pathTo_of_isName {owner name : Text} (howner : IsName owner) (hname : IsName name) :
    PathTo (owner ++ '/' :: name) owner name := by
  refine pathTo_of_spells howner.spelled howner.slash_not_mem hname.spelled ?_ ?_
  · exact fun hlast => hname.slash_not_mem (List.mem_of_getLast? hlast)
  · exact fun c hc => (hname.chars c (List.mem_of_getLast? hc)).2.2.2

/-- The text is refused because its port is not a number of sixteen bits. -/
def RefusesPort (s : Text) (mode : Mode) : Prop :=
  ∃ cause, Locator.parse s mode = .error (.malformed s (.badUrl cause)) ∧
    cause.message = "invalid port number".toList

theorem refusesPort_of_error {s : Text} {mode : Mode}
    (h : Locator.parse s mode = .error (.malformed s (.badUrl (.refused .invalidPort)))) :
    RefusesPort s mode :=
  ⟨_, h, rfl⟩

namespace Place

/-- A repository at the authority, by its owner and its name. -/
def refer (a : Place) (owner name : Text) : Text := a.text ++ '/' :: owner ++ '/' :: name

variable {a : Place} {scheme owner name : Text}

/-- A web address of two names is read as what its place is read as. -/
theorem hostedOfUrl_refer (hkind : Scheme.kind scheme = .network) (howner : IsName owner)
    (hname : IsName name) :
    hostedOfUrl (scheme ++ "://".toList ++ a.refer owner name) =
      ((placeOf scheme a.hostText).map fun place =>
        ⟨place.1.text ++ portText place.2, owner, name⟩).mapError
          fun cause => .badUrl (.refused cause) := by
  have hread := hostedOfUrl_of_pathTo hkind a.solid_text_ne_nil a.endsPort_text
    (pathTo_of_isName howner hname)
  rw [a.cutCredentials_text] at hread
  rw [← hread, refer]
  simp only [List.append_assoc, List.cons_append]

/-- An address whose port fits names the repository on the place in normal form. -/
theorem hostedOfUrl_of_fits {usual : Nat} (hkind : Scheme.kind scheme = .network)
    (husual : Scheme.defaultPort? scheme = some usual) (howner : IsName owner)
    (hname : IsName name) (hfits : ∀ n ∈ a.number, n ≤ 65535) :
    hostedOfUrl (scheme ++ "://".toList ++ a.refer owner name) =
      .ok ⟨a.normal usual, owner, name⟩ := by
  rw [hostedOfUrl_refer hkind howner hname, placeOf_of_fits husual hfits]
  rfl

/-- An address whose port does not fit is refused. -/
theorem hostedOfUrl_of_exceeds {n : Nat} (hkind : Scheme.kind scheme = .network)
    (howner : IsName owner) (hname : IsName name) (hn : a.number = some n)
    (hexceeds : 65535 < n) :
    hostedOfUrl (scheme ++ "://".toList ++ a.refer owner name) =
      .error (.badUrl (.refused .invalidPort)) := by
  rw [hostedOfUrl_refer hkind howner hname, placeOf_of_exceeds hn hexceeds]
  rfl

/-- With its two slashes a reference stands for an `https` URL, whatever colons are in
its credentials. -/
theorem elaborate_refer (howner : IsName owner) (hname : IsName name) :
    elaborate (a.refer owner name) = .ok ("https://".toList ++ a.refer owner name) := by
  have hslash : '/' ∉ a.text := fun hmem => absurd (a.endsPort_text _ hmem) (by decide)
  have hmark := not_hasMark_of_slashes hslash howner.slash_not_mem hname.slash_not_mem
    howner.1 hname.1
  have hcount := (count_slash hslash howner.slash_not_mem hname.slash_not_mem).2
  exact elaborate_of_two_le_count hmark (Nat.le_of_eq hcount.symm)

/-- An authority is read in its normal form: without credentials, in small letters,
and with the number of its port unless that is the usual one of the scheme. Only a
number of more than sixteen bits is refused, in every grammar and scheme alike. -/
theorem parse_refer (a : Place) (howner : IsName owner) (hname : IsName name) :
    ((∀ n ∈ a.number, n ≤ 65535) →
      Locator.parse ("https://".toList ++ a.refer owner name) .strict =
        .ok (.hosted ⟨a.normal 443, owner, name⟩) ∧
      Locator.parse ("https://".toList ++ a.refer owner name) .legacy =
        .ok (.hosted ⟨a.normal 443, owner, name⟩) ∧
      Locator.parse (a.refer owner name) .legacy =
        .ok (.hosted ⟨a.normal 443, owner, name⟩) ∧
      Locator.parse ("http://".toList ++ a.refer owner name) .legacy =
        .ok (.hosted ⟨a.normal 80, owner, name⟩)) ∧
    ((∃ n ∈ a.number, 65535 < n) →
      RefusesPort ("https://".toList ++ a.refer owner name) .strict ∧
      RefusesPort ("https://".toList ++ a.refer owner name) .legacy ∧
      RefusesPort (a.refer owner name) .legacy ∧
      RefusesPort ("http://".toList ++ a.refer owner name) .legacy) := by
  have hkinds : Scheme.kind "https".toList = .network ∧ Scheme.kind "http".toList = .network := by
    decide
  have husual : Scheme.defaultPort? "https".toList = some 443 ∧
      Scheme.defaultPort? "http".toList = some 80 := by decide
  -- without a scheme it is the secure one that is filled in
  have hbare : elaborate (a.refer owner name) = _ := elaborate_refer howner hname
  have hsecure := elaborate_of_scheme "https".toList (a.refer owner name)
  have hplain := elaborate_of_scheme "http".toList (a.refer owner name)
  have hstrict : Locator.parse ("https://".toList ++ a.refer owner name) .strict =
      Locator.parse ("https://".toList ++ a.refer owner name) .legacy :=
    (parse_legacy_of_https ⟨_, rfl⟩).symm
  refine ⟨fun hfits => ?_, ?_⟩
  · have hread := hostedOfUrl_of_fits hkinds.1 husual.1 howner hname hfits
    have hread' := hostedOfUrl_of_fits hkinds.2 husual.2 howner hname hfits
    have hlegacy := (parse_legacy_eq_ok_iff hsecure).mpr hread
    exact ⟨hstrict.trans hlegacy, hlegacy, (parse_legacy_eq_ok_iff hbare).mpr hread,
      (parse_legacy_eq_ok_iff hplain).mpr hread'⟩
  · rintro ⟨n, hn, hexceeds⟩
    have hread := hostedOfUrl_of_exceeds hkinds.1 howner hname hn hexceeds
    have hread' := hostedOfUrl_of_exceeds hkinds.2 howner hname hn hexceeds
    have hlegacy := (parse_legacy_eq_error_iff hsecure).mpr hread
    exact ⟨refusesPort_of_error (hstrict.trans hlegacy), refusesPort_of_error hlegacy,
      refusesPort_of_error ((parse_legacy_eq_error_iff hbare).mpr hread),
      refusesPort_of_error ((parse_legacy_eq_error_iff hplain).mpr hread')⟩

/-- Credentials that look like a host with a port, capitals, and zeros before the port
of `https`, which another scheme has to name. -/
theorem parse_refer_credentials :
    Locator.parse "https://git@evil.example:22@GitHub.COM:0443/Ossf/score_card".toList .strict =
        .ok (.hosted ⟨"github.com".toList, "Ossf".toList, "score_card".toList⟩) ∧
      Locator.parse "http://git@evil.example:22@GitHub.COM:0443/Ossf/score_card".toList .legacy =
        .ok (.hosted ⟨"github.com:443".toList, "Ossf".toList, "score_card".toList⟩) ∧
      RefusesPort "GitHub.COM:65536/Ossf/score_card".toList .legacy := by
  have hfree : "git@evil.example:22".toList.all (fun c => c ∉ ['/', '\\', '?', '#']) = true := by
    decide
  have huser : ∀ credentials ∈ some "git@evil.example:22".toList, ∀ c ∈ credentials,
      c ∉ ['/', '\\', '?', '#'] := by
    rintro credentials ⟨⟩ c hc
    exact of_decide_eq_true (List.all_eq_true.mp hfree c hc)
  have hhost : WrittenHost "GitHub.COM".toList :=
    ⟨["GitHub".toList, "COM".toList], rfl, by decide, 'C', "OM".toList, rfl, rfl⟩
  have hport {digits : Text} (h : digits ≠ [] ∧ digits.all Char.isDigit = true) :
      ∀ digits' ∈ some digits, digits' ≠ [] ∧ ∀ c ∈ digits', c.isDigit = true := by
    rintro digits' ⟨⟩
    exact ⟨h.1, List.all_eq_true.mp h.2⟩
  have howner : IsName "Ossf".toList := ⟨by decide, by decide⟩
  have hname : IsName "score_card".toList := ⟨by decide, by decide⟩
  have hfits : ∀ n ∈ (some "0443".toList).map Numeral.ofDigits, n ≤ 65535 := by decide
  have hexceeds : ∃ n ∈ (some "65536".toList).map Numeral.ofDigits, 65535 < n :=
    ⟨65536, rfl, by decide⟩
  have hnormal : Ascii.lower "GitHub.COM".toList ++ portText ((some 443).filter (· ≠ 80)) =
      "github.com:443".toList := by decide +kernel
  have hread := (parse_refer ⟨_, _, _, huser, hhost, hport (by decide)⟩ howner hname).1 hfits
  have hrefused := (parse_refer ⟨none, _, _, by simp, hhost, hport (by decide)⟩ howner hname).2
    hexceeds
  have hplain : Locator.parse
      "http://git@evil.example:22@GitHub.COM:0443/Ossf/score_card".toList .legacy =
        .ok (.hosted ⟨Ascii.lower "GitHub.COM".toList ++ portText ((some 443).filter (· ≠ 80)),
          "Ossf".toList, "score_card".toList⟩) := hread.2.2.2
  rw [hnormal] at hplain
  exact ⟨hread.1, hplain, hrefused.2.2.1⟩

end Place

end Grammar

end RepoIdentity

import RepoIdentity.Proofs.Elaboration

/-!
# Shorthand stays on the usual host

A text with a single slash is put after `https://github.com/` and read as a URL.
The authority of that URL has ended before the text begins. So nothing in the text
becomes credentials, a host or a port, whatever it looks like, and nothing in it
makes the URL invalid: a path is never refused. What can still fail is the decoding
of the path, and its division into owner and name.

* `hostedOfUrl_of_read` — what a URL comes to once it is read, by the bytes of its
  path, and `hostedOfUrl_undecodable_iff`, `hostedOfUrl_undivided_iff`, when it fails;
* `read_after_defaultHost` — every text after the usual host is read as its path;
* `parse_shorthand` — the three outcomes of a shorthand, each exactly when.
-/

namespace RepoIdentity.Grammar

-- ---------------------------------------------------------------------------
-- What a URL comes to once it is read
-- ---------------------------------------------------------------------------

/-- A path has no owner and name if no slash is left in it. -/
theorem splitOwnerName_eq_none_iff {path : Text} :
    splitOwnerName path = none ↔ '/' ∉ Text.trim (· == '/') path :=
  Text.cutAt_eq_none_iff

section Read

variable {s : Text} {url : Url} (hread : Url.read s = .ok url)

include hread

/-- A path whose bytes are no text cannot be decoded. -/
theorem hostedOfUrl_of_undecodable {fault : Utf8.Fault}
    (h : Utf8.decode (Percent.decode url.path) = .error fault) :
    hostedOfUrl s = .error (.badUrl (.undecodable fault)) := by
  rw [hostedOfUrl, hread]
  simp only [h]

/-- A path without owner and name is no repository. -/
theorem hostedOfUrl_of_undivided {path : Text}
    (h : Percent.decode url.path = Utf8.encode path) (hsplit : splitOwnerName path = none) :
    hostedOfUrl s = .error .noOwnerAndName := by
  rw [hostedOfUrl, hread]
  simp only [Utf8.decode_eq_ok_iff.mpr h, hsplit]

/-- A path of an owner and a name is a repository on the host of its URL. -/
theorem hostedOfUrl_of_divided {path owner name : Text}
    (h : Percent.decode url.path = Utf8.encode path)
    (hsplit : splitOwnerName path = some (owner, name)) :
    hostedOfUrl s = .ok ⟨url.hostText, owner, name⟩ := by
  rw [hostedOfUrl, hread]
  simp only [Utf8.decode_eq_ok_iff.mpr h, hsplit]

/-- The three ways in which the path of a URL comes to something. -/
theorem hostedOfUrl_of_read :
    (∃ fault, Utf8.decode (Percent.decode url.path) = .error fault ∧
      hostedOfUrl s = .error (.badUrl (.undecodable fault))) ∨
    ∃ path, Percent.decode url.path = Utf8.encode path ∧
      (splitOwnerName path = none ∧ hostedOfUrl s = .error .noOwnerAndName ∨
      ∃ owner name, splitOwnerName path = some (owner, name) ∧
        hostedOfUrl s = .ok ⟨url.hostText, owner, name⟩) := by
  cases hdecode : Utf8.decode (Percent.decode url.path) with
  | error fault => exact Or.inl ⟨fault, rfl, hostedOfUrl_of_undecodable hread hdecode⟩
  | ok path =>
    have hbytes := Utf8.decode_eq_ok_iff.mp hdecode
    refine Or.inr ⟨path, hbytes, ?_⟩
    cases hsplit : splitOwnerName path with
    | none => exact Or.inl ⟨rfl, hostedOfUrl_of_undivided hread hbytes hsplit⟩
    | some pieces => exact Or.inr ⟨_, _, rfl, hostedOfUrl_of_divided hread hbytes hsplit⟩

theorem hostedOfUrl_undecodable_iff :
    (∃ fault, hostedOfUrl s = .error (.badUrl (.undecodable fault))) ↔
      ∀ path, Percent.decode url.path ≠ Utf8.encode path := by
  rw [← Utf8.exists_fault_iff]
  constructor
  · rintro ⟨fault, hfault⟩
    rcases hostedOfUrl_of_read hread with ⟨fault', hdecode, -⟩ | ⟨path, -, ⟨-, h⟩ | ⟨_, _, -, h⟩⟩
    · exact ⟨fault', hdecode⟩
    · cases h.symm.trans hfault
    · cases h.symm.trans hfault
  · rintro ⟨fault, hfault⟩
    exact ⟨fault, hostedOfUrl_of_undecodable hread hfault⟩

theorem hostedOfUrl_undivided_iff :
    hostedOfUrl s = .error .noOwnerAndName ↔
      ∃ path, Percent.decode url.path = Utf8.encode path ∧ '/' ∉ Text.trim (· == '/') path := by
  constructor
  · intro hfault
    rcases hostedOfUrl_of_read hread with ⟨_, -, h⟩ | ⟨path, hbytes, ⟨hnone, -⟩ | ⟨_, _, -, h⟩⟩
    · cases h.symm.trans hfault
    · exact ⟨path, hbytes, splitOwnerName_eq_none_iff.mp hnone⟩
    · cases h.symm.trans hfault
  · rintro ⟨path, hbytes, hslash⟩
    exact hostedOfUrl_of_undivided hread hbytes (splitOwnerName_eq_none_iff.mpr hslash)

end Read

-- ---------------------------------------------------------------------------
-- Paths on the usual host
-- ---------------------------------------------------------------------------

/-- Every text after the usual host is read as a path there. -/
theorem read_after_defaultHost (s : Text) :
    Url.read ("https://github.com/".toList ++ s) =
      .ok ⟨"https".toList, some (.domain "github.com".toList), none,
        Url.networkPath (Url.solid (Text.trimEnd Ascii.isControlOrSpace s))⟩ := by
  have hkind : Url.Scheme.kind "https".toList = .network := by decide
  have hsettled := plainHost_defaultHost.settled
  have hisRead : (Url.Host.domain defaultHost).IsRead :=
    Or.inl ⟨defaultHost, Url.Host.readSpecial_text hsettled⟩
  have hchars : ∀ c ∈ defaultHost, Url.isHostChar c = true := by
    intro c hc
    exact (Url.Host.isHostChar_text hisRead c hc).1
  have hport : ∀ n, none = some n → n ≤ 65535 ∧
      Url.Scheme.defaultPort? "https".toList ≠ some n := by simp
  have hplace := Url.placeOf_of_settled hsettled hport
  rw [Url.portText, List.append_nil] at hplace
  have hread := Url.read_network hkind (by decide) hchars s
  rw [show defaultHost = (Url.Host.domain defaultHost).text from rfl, hplace] at hread
  exact hread

/-- A text that stands for a URL on the usual host names a repository there. -/
theorem parse_legacy_of_defaultHost {s rest path owner name : Text}
    (helaborate : elaborate s = .ok ("https://github.com/".toList ++ rest))
    (hpath : Percent.decode (Url.networkPath (Url.solid
      (Text.trimEnd Ascii.isControlOrSpace rest))) = Utf8.encode path)
    (hsplit : splitOwnerName path = some (owner, name)) :
    Locator.parse s .legacy = .ok (.hosted ⟨"github.com".toList, owner, name⟩) :=
  (parse_legacy_eq_ok_iff helaborate).mpr
    (hostedOfUrl_of_divided (read_after_defaultHost rest) hpath hsplit)

/-- A shorthand is never steered to another host. Its URL is read whatever the text
holds, and always on the usual host. So the shorthand names a repository there, or is
refused because its path is not UTF-8, or because no slash is left in its path to
divide owner and name; and each of the two only if it is so. -/
theorem parse_shorthand {s : Text} (h : s.count '/' = 1) :
    ∃ url, elaborate s = .ok ("https://github.com/".toList ++ s) ∧
      Url.read ("https://github.com/".toList ++ s) = .ok url ∧
      url.hostText = "github.com".toList ∧
      ((∃ r, Locator.parse s .legacy = .ok (.hosted r) ∧ r.host = "github.com".toList) ∨
        (∃ fault, Locator.parse s .legacy =
          .error (.malformed s (.badUrl (.undecodable fault)))) ∨
        Locator.parse s .legacy = .error (.malformed s .noOwnerAndName)) ∧
      ((∃ fault, Locator.parse s .legacy =
          .error (.malformed s (.badUrl (.undecodable fault)))) ↔
        ∀ path, Percent.decode url.path ≠ Utf8.encode path) ∧
      (Locator.parse s .legacy = .error (.malformed s .noOwnerAndName) ↔
        ∃ path, Percent.decode url.path = Utf8.encode path ∧
          '/' ∉ Text.trim (· == '/') path) := by
  have hread := read_after_defaultHost s
  have helaborate := elaborate_shorthand h
  simp only [parse_legacy_eq_ok_iff helaborate, parse_legacy_eq_error_iff helaborate]
  refine ⟨_, helaborate, hread, rfl, ?_, hostedOfUrl_undecodable_iff hread,
    hostedOfUrl_undivided_iff hread⟩
  rcases hostedOfUrl_of_read hread with ⟨fault, -, h⟩ | ⟨path, -, ⟨-, h⟩ | ⟨owner, name, -, h⟩⟩
  · exact Or.inr (Or.inl ⟨fault, h⟩)
  · exact Or.inr (Or.inr h)
  · exact Or.inl ⟨_, h, rfl⟩

/-- What looks like credentials, an address and a port is a path on the usual host. A
query ends it before the slash, and the backslash in it is a slash at its end. -/
theorem parse_shorthand_authority :
    "me@[::1]:99999\\?/x".toList.count '/' = 1 ∧
      Locator.parse "me@[::1]:99999\\?/x".toList .legacy =
        .error (.malformed "me@[::1]:99999\\?/x".toList .noOwnerAndName) := by
  have hcount : "me@[::1]:99999\\?/x".toList.count '/' = 1 := by decide
  obtain ⟨url, -, hread, -, -, -, hundivided⟩ := parse_shorthand hcount
  rw [read_after_defaultHost] at hread
  obtain rfl := Except.ok.inj hread
  exact ⟨hcount, hundivided.mpr ⟨"/me@[::1]:99999/".toList, by decide, by decide⟩⟩

end RepoIdentity.Grammar

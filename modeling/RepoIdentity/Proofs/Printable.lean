import RepoIdentity.Proofs.Elaboration
import RepoIdentity.Proofs.Mapping

/-!
# Hosts without capitals

Hosts are written with visible characters in both grammars. The strict grammar
reads `https` URLs only, and these have a host that is a domain name or an
address, never a name that is left as it is. Domain names come in their ASCII
form, which has no capitals, and the digits of an address are small letters.
So the case in which a host was written does not show.

* `Url.Host.isUpper_text_of_readSpecial` — domain names and addresses;
* `Url.isUpper_hostText_of_network` — host and port of a network URL;
* `Locator.printable_host_of_parse` — the hosts of both grammars.
-/

namespace RepoIdentity

namespace Url

-- ---------------------------------------------------------------------------
-- Domain names and addresses
-- ---------------------------------------------------------------------------

theorem isUpper_of_isDigit {c : Char} (h : c.isDigit = true) : c.isUpper = false := by
  have hall : ∀ n < 128, (Char.ofNat n).isDigit = true → (Char.ofNat n).isUpper = false := by
    decide
  exact Ascii.forall_of_forall_lt (P := fun c => c.isDigit = true → c.isUpper = false) hall
    (Ascii.toNat_lt_of_isDigit h) h

/-- An address of four bytes is written without capitals. -/
theorem Ipv4.isUpper_text (a : Ipv4) : ∀ c ∈ a.text, c.isUpper = false := by
  intro c hc
  rcases Ipv4.mem_text hc with hdigit | rfl
  · exact isUpper_of_isDigit hdigit
  · rfl

/-- An address of eight groups is written without capitals. -/
theorem Ipv6.isUpper_text (a : Ipv6) : ∀ c ∈ a.text, c.isUpper = false := by
  have hsmall : ∀ d < 16, (Numeral.digit d).isUpper = false := by decide
  intro c hc
  rcases Ipv6.mem_text hc with ⟨d, hd, rfl⟩ | rfl
  · exact hsmall d hd
  · rfl

/-- The host of a special URL is written without capitals. -/
theorem Host.isUpper_text_of_readSpecial {s : Text} {host : Host}
    (h : readSpecial s = .ok host) : ∀ c ∈ host.text, c.isUpper = false := by
  intro c hc
  rcases readSpecial_cases h with ⟨-, a, rfl⟩ | ⟨-, name, ascii, -, hascii, -, hkind⟩
  · simp only [text, List.cons_append, List.mem_cons, List.mem_append, List.not_mem_nil,
      or_false] at hc
    rcases hc with rfl | hc | rfl
    · rfl
    · exact a.isUpper_text c hc
    · rfl
  · rcases hkind with ⟨a, rfl⟩ | ⟨rfl, -⟩
    · exact a.isUpper_text c hc
    · exact Domain.isUpper_toAscii hascii c hc

-- ---------------------------------------------------------------------------
-- Network URLs
-- ---------------------------------------------------------------------------

/-- A web address is never without a host. -/
theorem exists_readSpecial_of_readHost {name : Text} {host : Option Host}
    (h : readHost .network name = .ok host) :
    ∃ found, Host.readSpecial name = .ok found ∧ host = some found := by
  unfold readHost at h
  rw [if_neg (by decide)] at h
  split at h
  · cases h
  · obtain ⟨found, hfound, heq⟩ := exists_of_map_eq_ok h
    exact ⟨found, hfound, heq⟩

/-- The host of a network URL is read as that of a special URL. -/
theorem exists_readSpecial_of_readNetwork {scheme s : Text} {u : Url}
    (h : readNetwork scheme s = .ok u) :
    ∃ name found, Host.readSpecial name = .ok found ∧ u.host = some found := by
  unfold readNetwork at h
  split at h
  · cases h
  · next a ha =>
    cases h
    obtain ⟨after, path, hhost, -⟩ := readAuthority_cases ha
    exact ⟨_, exists_readSpecial_of_readHost hhost⟩

/-- Host and port of a network URL: the host was read from a name, and the port is one
that has to be written. -/
theorem exists_place_of_network {scheme rest : Text} {u : Url}
    (hkind : Scheme.kind scheme = .network) (h : read (scheme ++ ':' :: rest) = .ok u) :
    ∃ name host, Host.readSpecial name = .ok host ∧ u.hostText = host.text ++ portText u.port ∧
      ∀ n, u.port = some n → n ≤ 65535 ∧ Scheme.defaultPort? scheme ≠ some n := by
  rw [read_of_network hkind] at h
  obtain ⟨name, host, hread, hhost⟩ := exists_readSpecial_of_readNetwork h
  refine ⟨name, host, hread, ?_, ?_⟩
  · rw [hostText_eq, hhost]
    rfl
  · unfold readNetwork at h
    split at h
    · cases h
    · next a ha =>
      cases h
      obtain ⟨after, path, -, -, -, hport⟩ := readAuthority_cases ha
      exact fits_of_readPortAfterHost hport

theorem isUpper_portText {port : Option Nat} : ∀ c ∈ portText port, c.isUpper = false := by
  intro c hc
  cases port with
  | none => cases hc
  | some port =>
    rcases List.mem_cons.mp hc with rfl | hc
    · rfl
    · exact isUpper_of_isDigit (Numeral.isDigit_of_mem_decimal hc)

/-- Host and port of a network URL are written without capitals. -/
theorem isUpper_hostText_of_network {scheme rest : Text} {u : Url}
    (hkind : Scheme.kind scheme = .network) (h : read (scheme ++ ':' :: rest) = .ok u) :
    ∀ c ∈ u.hostText, c.isUpper = false := by
  obtain ⟨name, host, hread, htext, -⟩ := exists_place_of_network hkind h
  intro c hc
  rw [htext, List.mem_append] at hc
  rcases hc with hc | hc
  · exact Host.isUpper_text_of_readSpecial hread c hc
  · exact isUpper_portText c hc

end Url

-- ---------------------------------------------------------------------------
-- The grammars
-- ---------------------------------------------------------------------------

/-- The strict grammar takes the host of a hosted repository from an `https` URL. -/
theorem Grammar.exists_https_of_readStrict {input : Text} {r : Hosted}
    (h : readStrict input = .ok (.hosted r)) :
    ∃ rest u, Url.read ("https".toList ++ ':' :: rest) = .ok u ∧ r.host = u.hostText := by
  obtain ⟨rest, rfl⟩ := prefix_of_readStrict h
  rw [readStrict_https] at h
  obtain ⟨u, path, hu, -, -, hhost⟩ := hostedOfUrl_cases (eq_of_map_hosted h)
  exact ⟨"//".toList ++ rest, u, hu, hhost⟩

/-- A host is written with visible ASCII characters, and with none that could end
it or set credentials apart from it. In the strict grammar there always is a host,
and it has no capitals. -/
theorem Locator.printable_host_of_parse {input : Text} {mode : Mode} {r : Hosted}
    (h : parse input mode = .ok (.hosted r)) :
    (∀ c ∈ r.host, 0x21 ≤ c.toNat ∧ c.toNat ≤ 0x7E) ∧
    (∀ c ∈ ['/', '\\', '?', '#', '@'], c ∉ r.host) ∧
    (mode = .strict → r.host ≠ [] ∧ ∀ c ∈ r.host, c.isUpper = false) := by
  have hread := Grammar.read_of_parse h
  obtain ⟨s, hs⟩ := Grammar.exists_url_of_read hread
  obtain ⟨u, path, hu, -, -, hhost⟩ := Grammar.hostedOfUrl_cases hs
  have hchars : ∀ c ∈ r.host, Url.isHostChar c = true := by
    rw [hhost]
    exact Url.isHostChar_hostText hu
  refine ⟨?_, ?_, ?_⟩
  · intro c hc
    have hchar := hchars c hc
    simp only [Url.isHostChar, Bool.and_eq_true, decide_eq_true_eq] at hchar
    exact hchar.1
  · intro c hc
    refine Url.not_mem_of_isHostChar hchars ?_
    simp only [List.mem_cons, List.not_mem_nil, or_false] at hc
    rcases hc with rfl | rfl | rfl | rfl | rfl <;> rfl
  · rintro rfl
    have hkind : Url.Scheme.kind "https".toList = .network := by decide
    obtain ⟨rest, u, hu, hhost⟩ := Grammar.exists_https_of_readStrict hread
    rw [hhost]
    exact ⟨Url.hostText_ne_nil_of_network hkind hu, Url.isUpper_hostText_of_network hkind hu⟩

/-- Credentials and capitals around an address. -/
theorem Locator.printable_host_of_parse_address :
    (∀ c ∈ "[2001:db8::a]:8443".toList, 0x21 ≤ c.toNat ∧ c.toNat ≤ 0x7E) ∧
    (∀ c ∈ ['/', '\\', '?', '#', '@'], c ∉ "[2001:db8::a]:8443".toList) ∧
    "[2001:db8::a]:8443".toList ≠ [] ∧ ∀ c ∈ "[2001:db8::a]:8443".toList, c.isUpper = false := by
  have hparse : parse "https://User@[2001:DB8::A]:8443/Owner/Name".toList .strict =
      .ok (.hosted ⟨"[2001:db8::a]:8443".toList, "Owner".toList, "Name".toList⟩) := by
    decide +kernel
  obtain ⟨hvisible, hapart, hstrict⟩ := printable_host_of_parse hparse
  exact ⟨hvisible, hapart, hstrict rfl⟩

end RepoIdentity

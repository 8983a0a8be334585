import ApiTypes.Document
import ApiTypes.Proofs.Text.Infix
import ApiTypes.Proofs.Yaml.Building
import ApiTypes.Proofs.Yaml.Lexical
import ApiTypes.Proofs.Yaml.Reading

/-!
# Documents that break the reading off

What is wrong with a document is mostly reported as such (`ApiTypes.Failure.isDocument`): it
cannot be read, it is blank, it is neither JSON nor YAML, or it is no mapping. In a few cases the
reading breaks off with a failure of another kind, and `ApiTypes.Document.breaksOff_iff` says
what is wrong then:

| what is wrong | with what |
|---|---|
| the name of the document | it holds a null character |
| the bytes of the file | they are not the encoding of a text |
| an escape in a text that is read as YAML | it names a number that is no code point |
| a node in a text that is read as YAML | it has no value under its tag |

A text that is read as JSON never breaks the reading off. With a name or with bytes of the kind in
the table loading always breaks off. The other two rows give the reason for a failure in which the
reading has ended: a text with such a fault can have another one in front, and then it fails for
that one.

Texts with a character that takes the place of a surrogate (`ApiTypes.Text.ofCodePoint`) are left
out here: they are refused as YAML, as those with a surrogate are.
-/

namespace ApiTypes

/-- Whether a failure is reported as one of a document. -/
def Failure.isDocument : Failure → Bool
  | .unreadable .. | .noDocument _ | .notMapping _ | .invalidJson | .unparsable => true
  | _ => false

namespace Yaml

/-- **A text breaks the reading of YAML off.** -/
inductive BreaksOff (t : Text) : Failure → Prop
  /-- The tokens of the text end at an escape that names a number beyond the code points. -/
  | noCodePoint {n : Nat} : (tokens t).2 = some (.noCodePoint n) → 0x110000 ≤ n →
      BreaksOff t (.noCodePoint n)
  /-- Something in the graph of the text has no value. -/
  | refused {g : Graph} {e : Failure} : Graph.ofText? t = .ok (some g) → Refused g e →
      BreaksOff t e

theorem Refusal.not_isDocument {tag : Tag} {e : Failure} (h : Refusal tag e) : ¬e.isDocument := by
  cases h <;> simp [Failure.isDocument]

theorem Refused.not_isDocument {g : Graph} {e : Failure} (h : Refused g e) : ¬e.isDocument := by
  cases h with
  | text _ h => exact h.refusal.not_isDocument
  | mapping => exact Refusal.notText.not_isDocument

theorem BreaksOff.not_isDocument {t : Text} {e : Failure} (h : BreaksOff t e) :
    ¬e.isDocument := by
  cases h with
  | noCodePoint => simp [Failure.isDocument]
  | refused _ h => exact h.not_isDocument

/-- **What can be wrong with a text that is read as YAML.** -/
theorem failsOnly_parse (t : Text) :
    FailsOnly (fun e => e = .unparsable ∨ BreaksOff t e) (parse t) := by
  refine FailsOnly.bind (fun e he => ?_) fun graph hgraph => ?_
  · rcases failsOnly_ofText? t e he with rfl | htokens
    · exact .inl rfl
    · cases lexical_tokens htokens with
      | unparsable => exact .inl rfl
      | noCodePoint hbeyond => exact .inr (.noCodePoint htokens hbeyond)
  · cases graph with
    | none => exact failsOnly_ok _ _
    | some g => exact (refused_value g).mono fun e he => he.imp_right (.refused hgraph)

end Yaml

/-! ### Names with a null character -/

namespace PathName

/-- A null character in a text is in the name that the text gives. -/
theorem hasNull_ofText_iff {t : Text} : (ofText t).hasNull ↔ '\x00' ∈ t := by
  simp only [hasNull, ofText, stepsOf, List.any_eq_true, decide_eq_true_eq, List.mem_filter]
  constructor
  · rintro ⟨step, ⟨hstep, -⟩, hnull⟩
    exact (Text.infix_of_mem_split hstep).subset hnull
  · -- the step with the null character is neither empty nor a dot, so it is kept
    intro h
    have hslash : '\x00' ≠ '/' := by decide
    obtain ⟨step, hstep, hnull⟩ := Text.exists_mem_split hslash h
    refine ⟨step, ⟨hstep, ?_, ?_⟩, hnull⟩
    · exact List.ne_nil_of_mem hnull
    · rintro rfl
      exact absurd hnull (by decide)

end PathName

namespace FileTree

variable {tree : FileTree} {name : PathName}

theorem failsOnly_follow (tree : FileTree) (p : Path) (steps : List Text) :
    FailsOnly (· ≠ .embeddedNull) (tree.follow p steps) := by
  induction steps generalizing p with
  | nil => exact failsOnly_ok _ p
  | cons s rest ih =>
    rw [follow]
    split
    · simp
    · simp
    · split
      · exact ih _
      · split
        · simp
        · exact ih _

theorem failsOnly_locate (tree : FileTree) (h : ¬name.hasNull) :
    FailsOnly (· ≠ .embeddedNull) (tree.locate name) := by
  rw [locate, if_neg h]
  split
  · simp
  · split
    · split <;> simp
    · split <;> simp
    · exact failsOnly_follow tree _ _

theorem failsOnly_get (tree : FileTree) (h : ¬name.hasNull) :
    FailsOnly (· ≠ .embeddedNull) (tree.get name) := by
  refine (failsOnly_locate tree h).bind fun p _ => ?_
  split <;> simp

/-- A file cannot be read for a null character exactly if there is one in its name. -/
theorem read_eq_embeddedNull_iff : tree.read name = .error .embeddedNull ↔ name.hasNull := by
  constructor
  · intro h
    by_cases hnull : name.hasNull
    · exact hnull
    · refine absurd rfl (?_ : FileError.embeddedNull ≠ .embeddedNull)
      rw [read] at h
      split at h
      · exact nomatch h
      · exact nomatch h
      · next e hget =>
        split at h
        · exact nomatch h
        · obtain rfl : e = .embeddedNull := Except.error.inj h
          exact failsOnly_get tree hnull _ hget
  · intro hnull
    have hget : tree.get name = .error .embeddedNull := by
      rw [get, locate, if_pos hnull]
      rfl
    have hsteps : name.steps ≠ [] := by
      intro hnil
      simp [PathName.hasNull, hnil] at hnull
    have hnot : tree.isDirectory name = false := by simp [isDirectory, hget, hsteps]
    rw [read, hget]
    simp only [hnot, Bool.false_eq_true, if_false]

end FileTree

namespace Document

variable {tree : FileTree} {input source t : Text} {hint : Hint} {e : Failure}

/-! ### Texts -/

/-- Whether a text is read as YAML. -/
def ReadsYaml (hint : Hint) (t : Text) : Prop :=
  hint = .yaml ∨ hint = .unknown ∧ Json.parse? t = none

/-- **A text breaks the reading off**, with a failure. -/
structure BreaksOff (hint : Hint) (t : Text) (e : Failure) : Prop where
  /-- It is read as YAML. -/
  readsYaml : ReadsYaml hint t
  /-- Something is wrong that breaks this off. -/
  breaksOff : Yaml.BreaksOff t e

theorem failsOnly_entries (v : Value) : FailsOnly (·.isDocument) (entries v) := by
  unfold entries
  split
  · simp
  · exact failsOnly_error.2 rfl

/-- What is read as YAML fails as a document does, or breaks off. -/
theorem failsOnly_yaml (h : ReadsYaml hint t) :
    FailsOnly (fun e => e.isDocument ∨ BreaksOff hint t e) (Yaml.parse t >>= entries) := by
  refine FailsOnly.bind (fun e he => ?_) fun v _ => (failsOnly_entries v).mono fun e => .inl
  rcases Yaml.failsOnly_parse t e he with rfl | hbreaks
  · exact .inl rfl
  · exact .inr ⟨h, hbreaks⟩

theorem failsOnly_parse (hint : Hint) (t : Text) :
    FailsOnly (fun e => e.isDocument ∨ BreaksOff hint t e) (parse hint t) := by
  have hentries : ∀ v, FailsOnly (fun e => e.isDocument ∨ BreaksOff hint t e) (entries v) :=
    fun v => (failsOnly_entries v).mono fun e => .inl
  cases hint with
  | yaml => exact failsOnly_yaml (.inl rfl)
  | json =>
    rw [parse]
    split
    · exact hentries _
    · exact failsOnly_error.2 (.inl rfl)
  | unknown =>
    rw [parse]
    split
    · exact hentries _
    · next hjson => exact failsOnly_yaml (.inr ⟨rfl, hjson⟩)

/-- A failure of the reading is none of a document exactly if the text breaks the reading off. -/
theorem not_isDocument_iff_of_parse (h : parse hint t = .error e) :
    ¬e.isDocument ↔ BreaksOff hint t e :=
  ⟨(failsOnly_parse hint t e h).resolve_left, fun hbreaks => hbreaks.breaksOff.not_isDocument⟩

/-! ### Files and the standard input -/

/-- **Loading a document breaks off**, with a failure. -/
inductive LoadBreaksOff (tree : FileTree) (input source : Text) : Failure → Prop
  /-- The name of the document holds a null character. -/
  | embeddedNull : source ≠ standardInput → '\x00' ∈ source →
      LoadBreaksOff tree input source (.file .embeddedNull (PathName.ofText source).text)
  /-- The bytes of the file are not the encoding of a text. -/
  | undecodable {bytes : List UInt8} {error : Text.Utf8Error} : source ≠ standardInput →
      tree.read (PathName.ofText source) = .ok bytes → Text.decodeUtf8 bytes = .error error →
      LoadBreaksOff tree input source (.undecodable error.message)
  /-- Reading the text of the file ends in the failure, and the text breaks it off. -/
  | file {t : Text} {e : Failure} : source ≠ standardInput → readFile tree source = .ok t →
      Text.trim t ≠ [] → parse (Hint.ofSuffix (PathName.ofText source).suffix) t = .error e →
      BreaksOff (Hint.ofSuffix (PathName.ofText source).suffix) t e →
      LoadBreaksOff tree input source e
  /-- Reading the standard input ends in the failure, and the text breaks it off. -/
  | input {e : Failure} : source = standardInput → Text.trim input ≠ [] →
      parse .unknown input = .error e → BreaksOff .unknown input e →
      LoadBreaksOff tree input source e

/-- A text that may be blank breaks the reading off as others do, if it is not. -/
theorem parseNonblank_breaksOff_iff {name : Text} :
    parseNonblank name hint t = .error e ∧ ¬e.isDocument ↔
      Text.trim t ≠ [] ∧ parse hint t = .error e ∧ BreaksOff hint t e := by
  unfold parseNonblank
  split
  · next hblank =>
    have hnil : Text.trim t = [] := List.isEmpty_iff.1 hblank
    refine ⟨fun ⟨he, hnot⟩ => ?_, fun h => absurd hnil h.1⟩
    rw [← Except.error.inj he] at hnot
    exact absurd rfl hnot
  · next hblank =>
    have hne : Text.trim t ≠ [] := fun hnil => hblank (List.isEmpty_iff.2 hnil)
    constructor
    · rintro ⟨he, hnot⟩
      exact ⟨hne, he, (not_isDocument_iff_of_parse he).1 hnot⟩
    · rintro ⟨-, he, hbreaks⟩
      exact ⟨he, (not_isDocument_iff_of_parse he).2 hbreaks⟩

/-- What is wrong with a file that has no text. -/
theorem readFile_breaksOff_iff :
    readFile tree source = .error e ∧ ¬e.isDocument ↔
      ('\x00' ∈ source ∧ e = .file .embeddedNull (PathName.ofText source).text) ∨
      ∃ bytes error, tree.read (PathName.ofText source) = .ok bytes ∧
        Text.decodeUtf8 bytes = .error error ∧ e = .undecodable error.message := by
  constructor
  · rintro ⟨he, hnot⟩
    unfold readFile at he
    dsimp only at he
    split at he
    · next hread =>
      have hnull := PathName.hasNull_ofText_iff.1 (FileTree.read_eq_embeddedNull_iff.1 hread)
      exact .inl ⟨hnull, (Except.error.inj he).symm⟩
    · rw [← Except.error.inj he] at hnot
      exact absurd rfl hnot
    · next bytes hread =>
      split at he
      · next error hdecode => exact .inr ⟨bytes, error, hread, hdecode, (Except.error.inj he).symm⟩
      · exact nomatch he
  · rintro (⟨hnull, rfl⟩ | ⟨bytes, error, hread, hdecode, rfl⟩)
    · have hread : tree.read (PathName.ofText source) = .error .embeddedNull :=
        FileTree.read_eq_embeddedNull_iff.2 (PathName.hasNull_ofText_iff.2 hnull)
      simp [readFile, hread, Failure.isDocument]
    · simp [readFile, hread, hdecode, Failure.isDocument]

theorem load_breaksOff_iff :
    load tree input source = .error e ∧ ¬e.isDocument ↔ LoadBreaksOff tree input source e := by
  unfold load
  split
  · next hinput =>
    rw [parseNonblank_breaksOff_iff]
    refine ⟨fun ⟨hblank, he, hbreaks⟩ => .input hinput hblank he hbreaks, fun h => ?_⟩
    cases h with
    | input _ hblank he hbreaks => exact ⟨hblank, he, hbreaks⟩
    | embeddedNull hne | undecodable hne | file hne => exact absurd hinput hne
  · next hfile =>
    constructor
    · rintro ⟨h, hnot⟩
      cases htext : readFile tree source with
      | error e' =>
        rw [htext] at h
        obtain rfl : e' = e := Except.error.inj h
        rcases readFile_breaksOff_iff.1 ⟨htext, hnot⟩ with
          ⟨hnull, rfl⟩ | ⟨bytes, error, hbytes, hdecode, rfl⟩
        · exact .embeddedNull hfile hnull
        · exact .undecodable hfile hbytes hdecode
      | ok t =>
        rw [htext] at h
        obtain ⟨hblank, he, hbreaks⟩ := parseNonblank_breaksOff_iff.1 ⟨h, hnot⟩
        exact .file hfile htext hblank he hbreaks
    · intro h
      cases h with
      | embeddedNull _ hnull =>
        obtain ⟨he, hnot⟩ := readFile_breaksOff_iff.2 (.inl ⟨hnull, rfl⟩)
        exact ⟨by rw [he]; rfl, hnot⟩
      | undecodable _ hbytes hdecode =>
        obtain ⟨he, hnot⟩ := readFile_breaksOff_iff.2 (.inr ⟨_, _, hbytes, hdecode, rfl⟩)
        exact ⟨by rw [he]; rfl, hnot⟩
      | file _ htext hblank hparse hbreaks =>
        obtain ⟨he, hnot⟩ := parseNonblank_breaksOff_iff.2 ⟨hblank, hparse, hbreaks⟩
        exact ⟨by rw [htext]; exact he, hnot⟩
      | input hinput => exact absurd hinput hfile

/-- **Which documents break the reading off**: loading a document gives a mapping or fails as a
document does, unless it breaks off, for one of the reasons in the table above; and where reading a
text fails, it fails as a document does, unless the text breaks it off. -/
theorem breaksOff_iff (tree : FileTree) (input source : Text) (hint : Hint) (t : Text)
    (e : Failure) :
    (load tree input source = .error e ∧ ¬e.isDocument ↔ LoadBreaksOff tree input source e) ∧
    (parse hint t = .error e → (¬e.isDocument ↔ BreaksOff hint t e)) :=
  ⟨load_breaksOff_iff, not_isDocument_iff_of_parse⟩

/-- The reading of a month that does not exist breaks off, for a node without a value. -/
theorem breaksOff_noSuchMonth :
    parse .yaml "a: 2020-13-45".toList = .error (.noSuchTime .month) ∧
      BreaksOff .yaml "a: 2020-13-45".toList (.noSuchTime .month) := by
  have h : parse .yaml "a: 2020-13-45".toList = .error (.noSuchTime .month) :=
    failure?_eq_some_iff.1 (by decide +kernel)
  exact ⟨h, ((breaksOff_iff .empty [] [] .yaml _ _).2 h).1 (by decide)⟩

/-- A month that does not exist breaks the reading off, and so does a byte that starts no
character. -/
theorem parse_wrongMonth :
    let tree := FileTree.empty.put ["doc.yaml".toList] (.file [0xff])
    (∃ e, parse .yaml "a: 2020-13-45".toList = .error e ∧ ¬e.isDocument) ∧
      ∃ e, load tree [] "doc.yaml".toList = .error e ∧ ¬e.isDocument := by
  refine ⟨⟨.noSuchTime .month, failure?_eq_some_iff.1 (by decide +kernel), by decide⟩,
    ⟨.undecodable (Text.Utf8Error.message ⟨0, 1, 0xff, .start⟩),
      failure?_eq_some_iff.1 (by decide +kernel), by simp [Failure.isDocument]⟩⟩

end Document

end ApiTypes

import ApiTypes.Output.Save
import ApiTypes.Proofs.Output.Runs

/-!
# What saving the output changes

Saving the output changes the file that its name leads to, or no file
(`ApiTypes.Output.Saved`). The two ways of writing differ in what they do about a content that
they should not write:

| content | all or nothing | in place |
|---|---|---|
| is refused by the check | no file changes | it is written |
| has no encoding | no file changes | the file is left empty |

So only what is written all or nothing has passed its check, and only a failure in place can
change a file. `ApiTypes.Output.saved_save` is this, whatever the settings, the tree and the
name. Contents with a character that takes the place of a surrogate
(`ApiTypes.Text.ofCodePoint`) are left out: they count as contents without an encoding.
-/

namespace ApiTypes

namespace FileTree

variable {tree : FileTree} {name : PathName} {p : Path}

/-- **A single file is rewritten**: the name leads to a file with these bytes, and all other files
are those of `tree`. -/
def Rewritten (tree : FileTree) (name : PathName) (bytes : List UInt8) (after : FileTree) : Prop :=
  ∃ p, after.locate name = .ok p ∧ after.bytes? p = some bytes ∧
    ∀ q, q ≠ p → after.bytes? q = tree.bytes? q

/-- A file that is rewritten has one content. -/
theorem Rewritten.unique {bytes bytes' : List UInt8} (h : tree.Rewritten name bytes after)
    (h' : tree.Rewritten name bytes' after) : bytes = bytes' := by
  obtain ⟨p, hp, hbytes, -⟩ := h
  obtain ⟨q, hq, hbytes', -⟩ := h'
  obtain rfl : p = q := Except.ok.inj (hp.symm.trans hq)
  exact Option.some.inj (hbytes.symm.trans hbytes')

theorem rewritten_put (hp : tree.locate name = .ok p) (hnot : tree.find? p ≠ some .directory)
    (bytes : List UInt8) : tree.Rewritten name bytes (tree.put p (.file bytes)) := by
  have hnil : p ≠ [] := ne_nil_of_find? hnot
  refine ⟨p, locate_mono (fun r hr => ?_) hp, ?_, fun q hq => ?_⟩
  · have hrp : r ≠ p := by
      rintro rfl
      exact hnot hr
    rwa [find?_put_of_ne tree hrp]
  · rw [bytes?, find?_put_self tree hnil]
  · exact bytes?_congr (find?_put_of_ne tree hq _)

end FileTree

namespace Output

open FileTree

variable {settings : Settings} {tree after : FileTree} {name : PathName} {content : Text}

/-- **What saving may do**: how it ends, and what has become of the files. -/
inductive Saved (settings : Settings) (tree : FileTree) (name : PathName) (content : Text) :
    Except Failure Unit × FileTree → Prop
  /-- The content is in its file. What is written all or nothing has passed the check that the
  settings ask for. -/
  | written {after : FileTree} : tree.Rewritten name (Text.encodeUtf8 content) after →
      (settings.atomicWrite.truthy → settings.validateBeforeWrite.truthy →
        check content = .ok ()) → Saved settings tree name content (.ok (), after)
  /-- No file has changed. -/
  | refused {after : FileTree} {e : Failure} : after.bytes? = tree.bytes? →
      Saved settings tree name content (.error e, after)
  /-- The file has been emptied for a content that has no encoding. -/
  | emptied {after : FileTree} {run : Text.SurrogateRun} : ¬settings.atomicWrite.truthy →
      Text.surrogates? content = some run → tree.Rewritten name [] after →
      Saved settings tree name content (.error (.unencodable run), after)

/-- Saving all or nothing is a call of the writer. -/
theorem saveAtomically_eq (settings : Settings) (tree : FileTree) (name : PathName)
    (content : Text) :
    saveAtomically settings tree name content =
      Call.perform check tree
        ⟨decide (settings.mode ≠ .known .force), name, content,
          settings.validateBeforeWrite.truthy⟩ := by
  unfold saveAtomically Call.perform
  by_cases hforce : settings.mode = .known .force <;> simp [hforce]

theorem overwrite_eq_ok (h : overwrite tree name content = .ok after) :
    tree.Rewritten name (Text.encodeUtf8 content) after := by
  simp only [overwrite, bind, Except.bind] at h
  split at h
  · exact absurd h (by simp)
  · next p hp =>
    split at h
    · exact absurd h (by simp)
    · next hnot =>
      rw [← Except.ok.inj h]
      exact rewritten_put hp hnot _

theorem saved_saveInPlace (hatomic : ¬settings.atomicWrite.truthy) :
    Saved settings tree name content (saveInPlace settings tree name content) := by
  unfold saveInPlace
  split
  · exact .refused rfl
  · dsimp only
    split
    · exact .refused rfl
    · next written hwritten =>
      have hrewritten := overwrite_eq_ok hwritten
      split
      · next run hrun =>
        rw [hrun, Option.isSome_some, if_pos rfl] at hrewritten
        exact .emptied hatomic hrun hrewritten
      · next hnone =>
        rw [hnone, Option.isSome_none, if_neg (by simp)] at hrewritten
        exact .written hrewritten fun h => absurd h hatomic

/-- **Saving changes the output file or nothing.** -/
theorem saved_save (settings : Settings) (tree : FileTree) (name : PathName) (content : Text) :
    Saved settings tree name content (save settings tree name content) := by
  unfold save
  split
  · next hatomic =>
    dsimp only
    rw [saveAtomically_eq]
    generalize hcall : (Call.mk (decide (settings.mode ≠ .known .force)) name content
      settings.validateBeforeWrite.truthy) = c
    have hall := allOrNothing_perform check tree c
    cases hresult : (c.perform check tree).result with
    | ok u =>
      subst hcall
      exact .written (hall.returned hresult) fun _ hvalidate => hall.accepted hvalidate hresult
    | error e => exact .refused (funext (hall.raised (by simp [hresult])))
  · next hatomic => exact saved_saveInPlace hatomic

end Output

end ApiTypes

import ApiTypes.Proofs.Output.Atomic
import Mathlib.Logic.Function.Basic

/-!
# Runs of the writer

A run is any number of calls of the writer, one after the other, each with a path, a content
and whether the content is to be checked, and each over what is there or only where there is
nothing (`ApiTypes.Output.Call`).

Every call is all or nothing (`ApiTypes.Output.AllOrNothing`), whatever the check: it leaves
its content at its path or no file changed, it makes no more than directories on the way to
its path, and it has no temporary file left behind. So a run does to the files what is left of
it when each call that returned is taken for a single change of a single file
(`ApiTypes.Output.Event.replay`), as `ApiTypes.Output.runs_allOrNothing` states it.

A call that is to write only where there is nothing asks for its path before the directories
on the way are made. With a step upward the path may come to lead to a file only then, and
that file is overwritten (`ApiTypes.Output.perform_detour`). Without such steps the call
changes nothing that is there.

A content is written as its encoding, so contents with a character that takes the place of a
surrogate (`ApiTypes.Text.ofCodePoint`) are left out: a call fails for them as for a surrogate.
-/

namespace ApiTypes.Output

open FileTree

/-- **A call of the writer.** -/
structure Call where
  /-- Whether it is to write only where there is nothing. -/
  missingOnly : Bool
  /-- The path of the file. -/
  name : PathName
  /-- The content of the file. -/
  content : Text
  /-- Whether the content is checked. -/
  validate : Bool

/-- What becomes of a call, for a writer with the check `check`. -/
def Call.perform (check : Text → Except Failure Unit) (tree : FileTree) (c : Call) : Written :=
  let check? := if c.validate then some check else none
  if c.missingOnly then writeIfMissing check? tree c.name c.content
  else write check? tree c.name c.content

/-- **All or nothing**: what a call may do to the tree. -/
structure AllOrNothing (check : Text → Except Failure Unit) (before : FileTree) (c : Call)
    (w : Written) : Prop where
  /-- A call that returns leaves its content at its path, and all other files as they were. -/
  returned : w.result = .ok () → ∃ p, w.tree.locate c.name = .ok p ∧
    w.tree.bytes? p = some (Text.encodeUtf8 c.content) ∧
      ∀ q, q ≠ p → w.tree.bytes? q = before.bytes? q
  /-- A call that fails leaves all files as they were. -/
  raised : w.result ≠ .ok () → ∀ q, w.tree.bytes? q = before.bytes? q
  /-- The directories stay. -/
  kept : ∀ q, before.find? q = some .directory → w.tree.find? q = some .directory
  /-- New directories are where nothing was, on the way to the path. -/
  onTheWay : ∀ q, w.tree.find? q = some .directory → before.find? q = some .directory ∨
    before.find? q = none ∧ ∃ k < c.name.steps.length, w.tree.locate (c.name.upTo k) = .ok q
  /-- Where only a missing file is to be written, what exists is refused. -/
  existing : c.missingOnly → before.exists c.name = .ok true →
    w.result = .error (.outputExists c.name.text) ∧ w.tree = before
  /-- Content that is to be checked is accepted if it is written. -/
  accepted : c.validate → w.result = .ok () → check c.content = .ok ()

variable {check : Text → Except Failure Unit} {tree before : FileTree} {c : Call}

/-! ### One call -/

/-- A call is refused, with nothing done, or its content is written. -/
theorem perform_cases (check : Text → Except Failure Unit) (before : FileTree) (c : Call) :
    (∃ e, c.perform check before = { result := .error e, tree := before } ∧
        (before.exists c.name = .ok true → e = .outputExists c.name.text)) ∨
      c.perform check before =
          write (if c.validate then some check else none) before c.name c.content ∧
        (c.missingOnly → before.exists c.name = .ok false) := by
  unfold Call.perform
  dsimp only
  split
  · unfold writeIfMissing
    split
    · next hexists => exact .inl ⟨_, rfl, fun h => absurd (hexists.symm.trans h) (by simp)⟩
    · exact .inl ⟨_, rfl, fun _ => rfl⟩
    · next hexists => exact .inr ⟨rfl, fun _ => hexists⟩
  · next hmissing => exact .inr ⟨rfl, fun h => absurd h hmissing⟩

/-- What is new after a file is written is on the way to it. -/
theorem onTheWay_of_effect {made : FileTree} {w : Written} {q : Path}
    (hmade : Made c.name.parent before made) (heffect : Effect made c.name c.content w)
    (hq : w.tree.find? q = some .directory) : before.find? q = some .directory ∨
      before.find? q = none ∧ ∃ k < c.name.steps.length, w.tree.locate (c.name.upTo k) = .ok q := by
  have hdir : made.find? q = some .directory := heffect.find?_eq_directory_iff.1 hq
  cases hbefore : before.find? q with
  | some e =>
    obtain rfl : e = .directory := Option.some.inj ((hmade.grows.kept hbefore).symm.trans hdir)
    exact .inl rfl
  | none =>
    obtain ⟨k, hk, hlocate⟩ := hmade.onTheWay hbefore (by simp [hdir])
    rw [PathName.upTo_parent hk] at hlocate
    refine .inr ⟨rfl, k, ?_, heffect.locate hlocate⟩
    -- the working directory is not new, so there is a step
    rw [PathName.parent, List.length_dropLast] at hk
    by_contra hlength
    have hnil : (c.name.upTo k).steps = [] := by
      rw [PathName.upTo, List.length_eq_zero_iff.1 (show c.name.steps.length = 0 by omega),
        List.take_nil]
    have hfollow := (locate_eq_ok.1 hlocate).2
    rw [hnil] at hfollow
    rw [← Except.ok.inj hfollow, find?_nil] at hbefore
    exact absurd hbefore (by simp)

theorem allOrNothing_write {w : Written} (c : Call)
    (hmissing : c.missingOnly → before.exists c.name = .ok false)
    (hw : w = write (if c.validate then some check else none) before c.name c.content) :
    AllOrNothing check before c w := by
  have hmade := made_makeDirectories before c.name.parent
  have heffect : Effect (before.makeDirectories c.name.parent).2 c.name c.content w :=
    hw ▸ effect_write _ before c.name c.content
  generalize (before.makeDirectories c.name.parent).2 = made at hmade heffect
  refine
    { returned := fun hok => ?_, raised := fun hne q => ?_, kept := fun q hq => ?_,
      onTheWay := fun q hq => onTheWay_of_effect hmade heffect hq,
      existing := fun hm hexists => ?_, accepted := fun hv hok => ?_ }
  · cases heffect with
    | failed e he _ => exact absurd (he.symm.trans hok) (by simp)
    | done p _ hp hnot hfind =>
      have hpnil : p ≠ [] := ne_nil_of_find? hnot
      refine ⟨p, Effect.locate (.done p hok hp hnot hfind) hp, ?_, fun q hqp => ?_⟩
      · rw [bytes?, hfind, find?_put_self made hpnil]
      · rw [bytes?_congr (hfind q), bytes?_congr (find?_put_of_ne made hqp _),
          hmade.grows.bytes?_eq]
  · cases heffect with
    | failed _ _ hfind => rw [bytes?_congr (hfind q), hmade.grows.bytes?_eq]
    | done _ hok _ _ _ => exact absurd hok hne
  · exact heffect.find?_eq_directory_iff.2 (hmade.grows.kept hq)
  · exact absurd (hexists.symm.trans (hmissing hm)) (by simp)
  · rw [hw, if_pos hv] at hok
    exact check_of_write hok

/-- **Every call is all or nothing.** -/
theorem allOrNothing_perform (check : Text → Except Failure Unit) (before : FileTree) (c : Call) :
    AllOrNothing check before c (c.perform check before) := by
  rcases perform_cases check before c with ⟨e, hrefused, hexists⟩ | ⟨hwrite, hmissing⟩
  · rw [hrefused]
    exact
      { returned := fun hok => absurd hok (by simp)
        raised := fun _ _ => rfl
        kept := fun _ hq => hq
        onTheWay := fun _ hq => .inl hq
        existing := fun _ h => ⟨by rw [hexists h], rfl⟩
        accepted := fun _ hok => absurd hok (by simp) }
  · exact allOrNothing_write c hmissing hwrite

theorem rooted_perform (check : Text → Except Failure Unit) (c : Call) (h : before.Rooted) :
    (c.perform check before).tree.Rooted := by
  rcases perform_cases check before c with ⟨e, hrefused, -⟩ | ⟨hwrite, -⟩
  · rwa [hrefused]
  · rw [hwrite]
    exact (effect_write _ before c.name c.content).rooted ((made_makeDirectories _ _).rooted h)

/-- **Nothing that is there is changed** by a call that is to write only where there is nothing,
if its path has no steps upward. -/
theorem find?_perform_missingOnly (check : Text → Except Failure Unit) (h : before.Rooted)
    (hmissing : c.missingOnly) (hup : PathName.up ∉ c.name.steps) {q : Path} {e : Entry}
    (hq : before.find? q = some e) : (c.perform check before).tree.find? q = some e := by
  rcases perform_cases check before c with ⟨_, hrefused, -⟩ | ⟨hwrite, hexists⟩
  · rwa [hrefused]
  · rw [hwrite]
    have hmade := made_makeDirectories before c.name.parent
    cases effect_write (if c.validate then some check else none) before c.name c.content with
    | failed _ _ hfind => rw [hfind, hmade.grows.kept hq]
    | done p _ hp _ hfind =>
      have hqp : q ≠ p := by
        rintro rfl
        -- the name would have led there before, but there was nothing
        have hget : before.get c.name = .ok (q, e) := by
          rw [FileTree.get, h.locate_of_find? hup hp hq]
          simp only [bind, Except.bind, hq]
        have hfound := hexists hmissing
        rw [FileTree.exists, hget] at hfound
        exact absurd hfound (by simp)
      rw [hfind, find?_put_of_ne _ hqp, hmade.grows.kept hq]

/-! ### Runs -/

/-- A call in a run. -/
structure Event where
  /-- The tree before the call. -/
  before : FileTree
  /-- The call. -/
  call : Call
  /-- What becomes of it. -/
  outcome : Written

/-- The events of a run of the writer. -/
def trace (check : Text → Except Failure Unit) : FileTree → List Call → List Event
  | _, [] => []
  | tree, c :: cs =>
    let w := c.perform check tree
    ⟨tree, c, w⟩ :: trace check w.tree cs

/-- The tree after a run of the writer. -/
def run (check : Text → Except Failure Unit) (tree : FileTree) (cs : List Call) : FileTree :=
  cs.foldl (fun tree c => (c.perform check tree).tree) tree

/-- The path that a call has written, if it has returned. -/
def Event.target? (e : Event) : Option Path :=
  match e.outcome.result, e.outcome.tree.locate e.call.name with
  | .ok (), .ok p => some p
  | _, _ => none

/-- What an event makes of some files, if the path that it has written is all that changes. -/
def Event.replay (files : Path → Option (List UInt8)) (e : Event) : Path → Option (List UInt8) :=
  match e.target? with
  | some p => Function.update files p (some (Text.encodeUtf8 e.call.content))
  | none => files

/-- One event changes the files as its replay says. -/
theorem AllOrNothing.bytes?_eq {w : Written} (h : AllOrNothing check before c w) :
    w.tree.bytes? = Event.replay before.bytes? ⟨before, c, w⟩ := by
  by_cases hok : w.result = .ok ()
  · obtain ⟨p, hp, hcontent, hothers⟩ := h.returned hok
    have htarget : Event.target? ⟨before, c, w⟩ = some p := by
      simp only [Event.target?, hok, hp]
    funext q
    rw [Event.replay, htarget]
    change _ = Function.update before.bytes? p (some (Text.encodeUtf8 c.content)) q
    by_cases hqp : q = p
    · rw [hqp, hcontent, Function.update_self]
    · rw [hothers q hqp, Function.update_of_ne hqp]
  · have htarget : Event.target? ⟨before, c, w⟩ = none := by
      unfold Event.target?
      split
      · next hresult _ => exact absurd hresult hok
      · rfl
    funext q
    rw [h.raised hok, Event.replay, htarget]

theorem allOrNothing_trace (check : Text → Except Failure Unit) (tree : FileTree) (cs : List Call) :
    ∀ e ∈ trace check tree cs, AllOrNothing check e.before e.call e.outcome := by
  induction cs generalizing tree with
  | nil => exact fun e he => absurd he (by simp [trace])
  | cons c cs ih =>
    intro e he
    rcases List.mem_cons.1 he with rfl | he
    · exact allOrNothing_perform check tree c
    · exact ih _ e he

theorem rooted_trace (check : Text → Except Failure Unit) (cs : List Call) (h : tree.Rooted) :
    ∀ e ∈ trace check tree cs, e.before.Rooted ∧ e.outcome = e.call.perform check e.before := by
  induction cs generalizing tree with
  | nil => exact fun e he => absurd he (by simp [trace])
  | cons c cs ih =>
    intro e he
    rcases List.mem_cons.1 he with rfl | he
    · exact ⟨h, rfl⟩
    · exact ih (rooted_perform check c h) e he

/-- **The files after a run** are those before it with what the calls that returned have written,
in their order. -/
theorem bytes?_run (check : Text → Except Failure Unit) (tree : FileTree) (cs : List Call) :
    (run check tree cs).bytes? = (trace check tree cs).foldl Event.replay tree.bytes? := by
  induction cs generalizing tree with
  | nil => rfl
  | cons c cs ih =>
    have hfirst := (allOrNothing_perform check tree c).bytes?_eq
    rw [run, List.foldl_cons, trace, List.foldl_cons, ← hfirst]
    exact ih _

/-- **Runs of the writer are all or nothing.** Each call in a run is; the files after the run are
those before it with what the calls that returned have written, in their order; and in a rooted
tree, a call that is to write only where there is nothing changes nothing that is there, if its
path has no steps upward. -/
theorem runs_allOrNothing (check : Text → Except Failure Unit) (tree : FileTree) (cs : List Call) :
    (∀ e ∈ trace check tree cs, AllOrNothing check e.before e.call e.outcome) ∧
      (run check tree cs).bytes? = (trace check tree cs).foldl Event.replay tree.bytes? ∧
      (tree.Rooted → ∀ e ∈ trace check tree cs, e.call.missingOnly →
        PathName.up ∉ e.call.name.steps → ∀ q entry, e.before.find? q = some entry →
          e.outcome.tree.find? q = some entry) := by
  refine ⟨allOrNothing_trace check tree cs, bytes?_run check tree cs, ?_⟩
  intro hrooted e he hmissing hup q entry hq
  obtain ⟨hbefore, houtcome⟩ := rooted_trace check cs hrooted e he
  rw [houtcome]
  exact find?_perform_missingOnly check hbefore hmissing hup hq

/-- The path of a file in the working directory. -/
def typesPath : Path := [['t', 'y', 'p', 'e', 's', '.', 't', 's']]

/-- A tree with one file. -/
def oneFile : FileTree := ⟨[(typesPath, .file [111, 108, 100])]⟩

/-- A call to write only where there is nothing, whose path goes through a directory that is not
there and upward again. -/
def detour : Call where
  missingOnly := true
  name := ⟨.here, ['n', 'e', 'w'] :: PathName.up :: typesPath⟩
  content := ['n', 'e', 'w']
  validate := false

/-- By such a detour the file that is there is overwritten. -/
theorem perform_detour : detour.missingOnly = true ∧
    oneFile.bytes? typesPath = some (Text.encodeUtf8 ['o', 'l', 'd']) ∧
    (detour.perform Output.check oneFile).tree.bytes? typesPath =
      some (Text.encodeUtf8 ['n', 'e', 'w']) := by
  decide +kernel

end ApiTypes.Output

import ApiTypes.Proofs.CommandLine.Effects
import ApiTypes.Proofs.Output.Ways

/-!
# Runs that save their module in two ways

The settings choose whether the output file is written all or nothing or in place. Two runs that
differ in this only have the same end (`ApiTypes.CommandLine.SameEnd`) as long as their module is
one that both ways of saving treat alike: `ApiTypes.CommandLine.sameEnd_iff`. So they have the same
end whenever the output file is in a directory that is there, its name and its path are of usual
length, and the module has an encoding.

Where the directory of the output file is missing, they part: it is made for a file that is written
all or nothing, and a run that writes its file in place breaks off
(`ApiTypes.CommandLine.not_sameEnd_missingDirectory`).

Modules with a character that takes the place of a surrogate (`ApiTypes.Text.ofCodePoint`) are left
out: they count as modules without an encoding.
-/

namespace ApiTypes

namespace CommandLine

open Output (EitherWay SameOutcome refusal?)

variable {directory input source path : Text} {tree : FileTree}
  {outcomes : List Formatter.Outcome} {arguments : List Text} {s : Settings}

/-! ### The output file -/

theorem not_mem_fold {steps : List Text} :
    ∀ {done : List Text}, PathName.up ∉ done → PathName.up ∉ PathName.fold done steps := by
  induction steps with
  | nil => exact fun h => h
  | cons s steps ih =>
    intro done h
    rw [PathName.fold]
    split
    · exact ih fun hmem => h (List.dropLast_subset _ hmem)
    · next hs =>
      refine ih ?_
      rw [List.mem_append, List.mem_singleton, not_or]
      exact ⟨h, Ne.symm hs⟩

/-- The name of the output file does not end in a step upward. -/
theorem name_outputName_ne_up (directory path : Text) :
    (outputName directory path).name ≠ PathName.up := by
  have hup : PathName.up ∉ (outputName directory path).steps := not_mem_fold (by simp)
  rw [PathName.name]
  cases hlast : (outputName directory path).steps.getLast? with
  | none => decide
  | some s =>
    rintro rfl
    exact hup (List.mem_of_getLast? hlast)

/-! ### Runs with an output file -/

/-- **A run is to write the module of the document at `source`** to the output file at `path`, with
these settings. -/
structure Writes (directory : Text) (tree : FileTree) (arguments : List Text) (source path : Text)
    (s : Settings) : Prop where
  /-- The arguments and the settings are read, and an output file is chosen. -/
  prepared : ∃ o, Prepared directory tree arguments o source s ∧ o.output = some path

theorem Ending.code_ofFailure (e : Failure) : (Ending.ofFailure e).code = 1 := by
  unfold ofFailure
  split <;> rfl

/-- The exit code of a run that has saved its module, or has failed to. -/
def exitCode : Except Failure Unit → Nat
  | .ok () => 0
  | .error _ => 1

theorem exitCode_eq_iff {x y : Except Failure Unit} :
    exitCode x = exitCode y ↔ (x = .ok () ↔ y = .ok ()) := by
  cases x <;> cases y <;> simp [exitCode]

namespace Writes

variable (h : Writes directory tree arguments source path s)

include h

/-- Without a module nothing is written. -/
theorem run_of_unproduced {e : Failure} {session : Formatter.Session}
    (hproduce : (produce directory tree input source s).run { outcomes } = (.error e, session)) :
    (run directory tree input outcomes arguments).ending.code = 1 ∧
      (run directory tree input outcomes arguments).tree = tree := by
  obtain ⟨o, hprepared, houtput⟩ := h.prepared
  unfold run
  simp only [hprepared.arguments, hprepared.noHelp, hprepared.settings, hproduce]
  exact ⟨Ending.code_ofFailure e, rfl⟩

/-- With a module a run ends as delivering it does. -/
theorem run_of_produced {module : Text} {session : Formatter.Session}
    (hproduce : (produce directory tree input source s).run { outcomes } = (.ok module, session)) :
    (run directory tree input outcomes arguments).ending.code =
        exitCode (deliver directory tree s path module).1 ∧
      (run directory tree input outcomes arguments).tree =
        (deliver directory tree s path module).2 := by
  obtain ⟨o, hprepared, houtput⟩ := h.prepared
  unfold run
  simp only [hprepared.arguments, hprepared.noHelp, hprepared.settings, hproduce, houtput]
  cases hdeliver : deliver directory tree s path module with
  | mk result after =>
    cases result with
    | ok => exact ⟨rfl, rfl⟩
    | error e => exact ⟨Ending.code_ofFailure e, rfl⟩

end Writes

/-- **Two runs have the same end**: the same exit code, and the same files and directories
afterwards. -/
structure SameEnd (r r' : Report) : Prop where
  /-- The exit code is the same. -/
  code : r.ending.code = r'.ending.code
  /-- What is left behind is the same everywhere. -/
  tree : ∀ q, r.tree.find? q = r'.tree.find? q

/-- **Two runs that differ in the way of saving have the same end** if and only if there is no
module, or the output file is refused, or both ways of saving do the same in its place. The mode is
one of the two, and the module passes the check. -/
theorem sameEnd_iff (directory : Text) (tree : FileTree) (input : Text)
    (outcomes : List Formatter.Outcome) {a b : List Text} {source path : Text} {s : Settings}
    {c : Output.Settings} {yes no : Value} (hyes : yes.truthy) (hno : ¬no.truthy)
    (hmode : c.mode = .known .errorIfExists ∨ c.mode = .known .force)
    (ha : Writes directory tree a source path
      { s with output := .known { c with atomicWrite := yes } })
    (hb : Writes directory tree b source path
      { s with output := .known { c with atomicWrite := no } })
    (hcheck : ∀ module session,
      (produce directory tree input source s).run { outcomes } = (.ok module, session) →
        Output.check (endLine module) = .ok ()) :
    SameEnd (run directory tree input outcomes a) (run directory tree input outcomes b) ↔
      ∀ module session,
        (produce directory tree input source s).run { outcomes } = (.ok module, session) →
          (refusal? c tree (outputName directory path)).isSome ∨
            EitherWay tree (outputName directory path) (endLine module) := by
  -- the module does not depend on the way of saving
  cases hproduce : (produce directory tree input source s).run { outcomes } with
  | mk result session =>
    cases result with
    | error e =>
      obtain ⟨hcode, htree⟩ := ha.run_of_unproduced hproduce
      obtain ⟨hcode', htree'⟩ := hb.run_of_unproduced hproduce
      refine ⟨fun _ _ _ heq => absurd (Prod.mk.inj heq).1 (by simp), fun _ => ⟨?_, fun q => ?_⟩⟩
      · rw [hcode, hcode']
      · rw [htree, htree']
    | ok module =>
      obtain ⟨hcode, htree⟩ := ha.run_of_produced hproduce
      obtain ⟨hcode', htree'⟩ := hb.run_of_produced hproduce
      rw [deliver_eq rfl] at hcode htree hcode' htree'
      have houtcome := Output.sameOutcome_iff tree hyes hno hmode
        (name_outputName_ne_up directory path) (hcheck module session hproduce)
      have hsame : SameEnd (run directory tree input outcomes a)
          (run directory tree input outcomes b) ↔
          SameOutcome (Output.save { c with atomicWrite := yes } tree (outputName directory path)
              (endLine module))
            (Output.save { c with atomicWrite := no } tree (outputName directory path)
              (endLine module)) := by
        constructor
        · intro h
          have hequal := h.code
          rw [hcode, hcode', exitCode_eq_iff] at hequal
          exact ⟨hequal, fun q => by rw [← htree, ← htree', h.tree]⟩
        · intro h
          exact ⟨by rw [hcode, hcode', exitCode_eq_iff, h.succeeds],
            fun q => by rw [htree, htree', h.leaves]⟩
      rw [hsame, houtcome]
      refine ⟨fun h module' session' heq => ?_, fun h => h module session rfl⟩
      obtain rfl : module = module' := Except.ok.inj (Prod.mk.inj heq).1
      exact h

theorem readSettings_of_value {v : Value} (h : settingsValue? directory tree path = some v)
    (hv : Settings.ofValue v = .ok s) : readSettings directory tree path = .ok s := by
  revert h
  unfold settingsValue? readSettings
  cases tree.read (PathName.inFull directory (PathName.ofText path)) with
  | error e => exact fun h => nomatch h
  | ok bytes =>
    dsimp only
    cases Text.decodeUtf8 bytes with
    | error e => exact fun h => nomatch h
    | ok t =>
      intro h
      simp only [h, hv]

/-- The module of the document with a schema. -/
def plainModule : Text :=
  TypeScript.banner ++ "export interface definitions \x7b\n\"A\": string;\n\n\x7d".toList

/-- Two runs that overwrite the output file, all or nothing and in place, have the same end. -/
theorem sameEnd_overwriting :
    let tree := treeInPlace plainDocument
    let r := run "/w".toList tree [] [] forcedArguments
    r.ending.code = 0 ∧ SameEnd r (run "/w".toList tree [] [] overwritingArguments) := by
  intro tree r
  let c : Output.Settings := { mode := .known .force }
  have hforced : readArguments "/w".toList tree forcedArguments =
      .ok ({ output := some "out.ts".toList, force := true }, "doc.json".toList) := by
    decide +kernel
  have hoverwriting : readArguments "/w".toList tree overwritingArguments =
      .ok ({ output := some "out.ts".toList, force := true, config := some "cfg.json".toList },
        "doc.json".toList) := by
    decide +kernel
  have hvalue : settingsValue? "/w".toList tree "cfg.json".toList =
      some (.map [(.str "output", .map [(.str "atomic_write", .bool false)])]) := by
    decide +kernel
  have hstored : storedSettings "/w".toList tree
      { output := some "out.ts".toList, force := true, config := some "cfg.json".toList } =
        .ok { output := .known { atomicWrite := .bool false } } := by
    unfold storedSettings
    exact readSettings_of_value hvalue rfl
  have ha : Writes "/w".toList tree forcedArguments "doc.json".toList "out.ts".toList
      { output := .known { c with atomicWrite := .bool true } } :=
    ⟨_, ⟨hforced, rfl, rfl⟩, rfl⟩
  have hb : Writes "/w".toList tree overwritingArguments "doc.json".toList "out.ts".toList
      { output := .known { c with atomicWrite := .bool false } } := by
    refine ⟨_, ⟨hoverwriting, rfl, ?_⟩, rfl⟩
    rw [settings_eq, hstored]
    rfl
  have hproduce : ((produce "/w".toList tree [] "doc.json".toList {}).run { outcomes := [] }).1 =
      .ok plainModule := by
    decide +kernel
  have hmodule : ∀ module session,
      (produce "/w".toList tree [] "doc.json".toList {}).run { outcomes := [] } =
        (.ok module, session) → plainModule = module := by
    intro module session heq
    rw [heq] at hproduce
    exact (Except.ok.inj hproduce).symm
  have hcode : r.ending.code = 0 := by decide +kernel
  have hyes : (Value.bool true).truthy := rfl
  have hno : ¬(Value.bool false).truthy := by decide
  refine ⟨hcode,
    (sameEnd_iff "/w".toList tree [] [] (s := {}) (c := c) hyes hno (.inr rfl) ha hb ?_).2 ?_⟩
  · intro module session heq
    rw [← hmodule module session heq]
    decide +kernel
  · intro module session heq
    rw [← hmodule module session heq]
    exact .inr (.of_isDirectory (by decide +kernel) (by decide +kernel) (by decide +kernel))

/-- Arguments that choose an output file in a directory that is missing. -/
def missingDirectoryArguments : List Text := ["-o".toList, "new/out.ts".toList, "doc.json".toList]

/-- The same with a settings file. -/
def missingDirectoryInPlaceArguments : List Text :=
  "-c".toList :: "cfg.json".toList :: missingDirectoryArguments

/-- Where the directory of the output file is missing, the two runs part. -/
theorem not_sameEnd_missingDirectory :
    let tree := treeInPlace plainDocument
    let r := run "/w".toList tree [] [] missingDirectoryArguments
    let r' := run "/w".toList tree [] [] missingDirectoryInPlaceArguments
    Output.check (endLine plainModule) = .ok () ∧
      r.ending.code = 0 ∧ r'.ending.code = 1 ∧
      r.tree.bytes? ["new".toList, "out.ts".toList] =
        some (Text.encodeUtf8 (endLine plainModule)) ∧
      r'.tree.find? ["new".toList] = none := by
  decide +kernel

end CommandLine

end ApiTypes

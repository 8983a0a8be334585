import ApiTypes.Proofs.Failing
import ApiTypes.Yaml.Reader

/-!
# What can be wrong with the graph of a text

The readers that put the tokens of a text together look at the tokens only. So they fail because
the tokens do not make up a document, or because of what is wrong behind the last token, which
they pass on as it is (`ApiTypes.Yaml.Reading.Reads`): nothing that a reader does can replace it.
-/

namespace ApiTypes.Yaml

namespace Reading

variable {α : Type} {failure : Option Failure}

/-- What reading can fail with: the tokens do not make up a document, or `failure` is wrong behind
the last one. -/
def Stops (failure : Option Failure) (e : Failure) : Prop := e = .unparsable ∨ failure = some e

/-- **Reading passes on what is wrong** behind the last token. -/
abbrev Reads (failure : Option Failure) (x : Reading α) : Prop :=
  Safe (fun r => r.failure = failure) (Stops failure) (fun _ => True) x

theorem reads_pure (a : α) : Reads failure (pure a) := safe_pure trivial

theorem reads_unparsable : Reads failure (throw .unparsable : Reading α) := safe_throw (.inl rfl)

theorem reads_modify {f : Reader → Reader} (h : ∀ r, (f r).failure = r.failure) :
    Reads failure (modify f) :=
  safe_modify fun r hr => (h r).trans hr

/-! ### Tokens and properties -/

theorem reads_peek : Reads failure peek := by
  refine safe_get.bind fun r hr => ?_
  split
  · exact reads_pure _
  · refine safe_throw ?_
    rw [hr]
    cases failure with
    | none => exact .inl rfl
    | some e => exact .inr rfl

theorem reads_skip : Reads failure skip := reads_modify fun _ => rfl

theorem reads_expect (t : Token) : Reads failure (expect t) := by
  refine reads_peek.bind fun t' _ => ?_
  split
  · exact reads_skip
  · exact reads_unparsable

theorem reads_accept (t : Token) : Reads failure (accept t) := by
  refine reads_peek.bind fun t' _ => ?_
  split
  · exact reads_skip.bind fun _ _ => reads_pure _
  · exact reads_pure _

theorem reads_tagName (handle : Option Text) (suffix : Text) :
    Reads failure (tagName handle suffix) := by
  cases handle with
  | none => exact reads_pure _
  | some h =>
    refine safe_get.bind fun r _ => ?_
    split
    · exact reads_pure _
    · exact reads_unparsable

theorem reads_properties : Reads failure properties := by
  refine reads_peek.bind fun t _ => ?_
  split
  · refine reads_skip.bind fun _ _ => reads_peek.bind fun t' _ => ?_
    split
    · exact reads_skip.bind fun _ _ => (reads_tagName _ _).bind fun _ _ => reads_pure _
    · exact reads_pure _
  · refine reads_skip.bind fun _ _ => reads_peek.bind fun t' _ => ?_
    split
    · exact reads_skip.bind fun _ _ => (reads_tagName _ _).bind fun _ _ => reads_pure _
    · exact (reads_tagName _ _).bind fun _ _ => reads_pure _
  · exact reads_pure _

/-! ### Nodes -/

theorem reads_fresh : Reads failure fresh := safe_modifyGet fun _ h => h

theorem reads_freshWith (anchor : Option Text) : Reads failure (freshWith anchor) := by
  cases anchor with
  | none => exact reads_fresh
  | some a =>
    have hnamed : Reads failure (do
        modify fun r => { r with names := a :: r.names }
        fresh) :=
      (reads_modify (by exact fun _ => rfl)).bind fun _ _ => reads_fresh
    refine safe_get.bind fun r _ => ?_
    split
    · exact reads_unparsable.bind fun _ _ => hnamed
    · exact hnamed

theorem reads_complete (n : Nat) (anchor : Option Text) (tag : Tag) (content : Content) :
    Reads failure (complete n anchor tag content) :=
  (reads_modify (by exact fun _ => rfl)).bind fun _ _ => reads_pure _

mutual

/-- **Every reader of nodes** passes on what is wrong behind the last token. -/
theorem reads_node (block indentless : Bool) :
    ∀ fuel, Reads failure (node block indentless fuel)
  | 0 => reads_unparsable
  | fuel + 1 => by
    refine reads_peek.bind fun t _ => ?_
    split
    · refine reads_skip.bind fun _ _ => safe_get.bind fun r _ => ?_
      split
      · exact reads_pure _
      · exact reads_unparsable
    · refine reads_properties.bind fun properties _ => reads_peek.bind fun t' _ => ?_
      obtain ⟨anchor, tag⟩ := properties
      -- a node of each kind begins, is read, and is complete
      have hcomplete : ∀ {α : Type} {x : Reading α} (content : α → Content) (tag : Tag),
          Reads failure x → ∀ n, Reads failure (do complete n anchor tag (content (← x))) :=
        fun _ _ hx n => hx.bind fun _ _ => reads_complete n anchor _ _
      have hbegins : Reads failure (freshWith anchor) := reads_freshWith anchor
      dsimp only
      split
      · exact hbegins.bind fun n _ => hcomplete .sequence _ (reads_indentlessItems fuel) n
      · split
        · exact hbegins.bind fun n _ => reads_skip.bind fun _ _ => reads_complete n anchor _ _
        · exact hbegins.bind fun n _ => reads_skip.bind fun _ _ =>
            hcomplete .sequence _ (reads_flowItems true fuel) n
        · exact hbegins.bind fun n _ => reads_skip.bind fun _ _ =>
            hcomplete .mapping _ (reads_flowEntries true fuel) n
        · split
          · exact hbegins.bind fun n _ => reads_skip.bind fun _ _ =>
              hcomplete .sequence _ (reads_blockItems fuel) n
          · split
            · exact hbegins.bind fun n _ => reads_skip.bind fun _ _ =>
                hcomplete .mapping _ (reads_blockEntries fuel) n
            · split
              · exact hbegins.bind fun n _ => reads_complete n anchor _ _
              · exact reads_unparsable

theorem reads_blockItems : ∀ fuel, Reads failure (blockItems fuel)
  | 0 => reads_unparsable
  | fuel + 1 => by
    refine (reads_accept _).bind fun accepted _ => ?_
    split
    · refine reads_peek.bind fun t _ => ?_
      have hrest : ∀ item, Reads failure (do let items ← blockItems fuel; pure (item :: items)) :=
        fun item => (reads_blockItems fuel).bind fun _ _ => reads_pure _
      split
      · exact reads_fresh.bind fun item _ => hrest item
      · exact (reads_node true false fuel).bind fun item _ => hrest item
    · exact (reads_expect _).bind fun _ _ => reads_pure _

theorem reads_indentlessItems : ∀ fuel, Reads failure (indentlessItems fuel)
  | 0 => reads_unparsable
  | fuel + 1 => by
    refine (reads_accept _).bind fun accepted _ => ?_
    split
    · refine reads_peek.bind fun t _ => ?_
      have hrest : ∀ item,
          Reads failure (do let items ← indentlessItems fuel; pure (item :: items)) :=
        fun item => (reads_indentlessItems fuel).bind fun _ _ => reads_pure _
      dsimp only
      split
      · exact reads_fresh.bind fun item _ => hrest item
      · exact (reads_node true false fuel).bind fun item _ => hrest item
    · exact reads_pure _

theorem reads_blockEntries : ∀ fuel, Reads failure (blockEntries fuel)
  | 0 => reads_unparsable
  | fuel + 1 => by
    refine (reads_accept _).bind fun accepted _ => ?_
    split
    · refine reads_peek.bind fun t _ => ?_
      have hrest : ∀ key, Reads failure (do
          let value ← blockValue fuel
          let entries ← blockEntries fuel
          pure ((key, value) :: entries)) :=
        fun key => (reads_blockValue fuel).bind fun _ _ =>
          (reads_blockEntries fuel).bind fun _ _ => reads_pure _
      split
      · exact reads_fresh.bind fun key _ => hrest key
      · exact (reads_node true true fuel).bind fun key _ => hrest key
    · exact (reads_expect _).bind fun _ _ => reads_pure _

theorem reads_blockValue : ∀ fuel, Reads failure (blockValue fuel)
  | 0 => reads_unparsable
  | fuel + 1 => by
    refine (reads_accept _).bind fun accepted _ => ?_
    split
    · refine reads_peek.bind fun t _ => ?_
      split
      · exact reads_fresh
      · exact reads_node true true fuel
    · exact reads_fresh

theorem reads_flowItems (first : Bool) : ∀ fuel, Reads failure (flowItems first fuel)
  | 0 => reads_unparsable
  | fuel + 1 => by
    refine (reads_accept _).bind fun accepted _ => ?_
    have hrest : ∀ item,
        Reads failure (do let items ← flowItems false fuel; pure (item :: items)) :=
      fun item => (reads_flowItems false fuel).bind fun _ _ => reads_pure _
    split
    · exact reads_pure _
    · -- behind the first item there is a comma
      split
      case' isTrue => refine (reads_expect _).bind fun _ _ => ?_
      all_goals
        refine reads_peek.bind fun t _ => ?_
        split
        · exact reads_skip.bind fun _ _ => reads_pure _
        · refine reads_fresh.bind fun n _ => reads_skip.bind fun _ _ => ?_
          refine (reads_flowPart _ true fuel).bind fun key _ => ?_
          refine (reads_flowValue _ fuel).bind fun value _ => ?_
          exact (reads_complete n none _ _).bind fun pair _ => hrest pair
        · exact (reads_node false false fuel).bind fun item _ => hrest item

theorem reads_flowEntries (first : Bool) : ∀ fuel, Reads failure (flowEntries first fuel)
  | 0 => reads_unparsable
  | fuel + 1 => by
    refine (reads_accept _).bind fun accepted _ => ?_
    have hrest : ∀ entry,
        Reads failure (do let entries ← flowEntries false fuel; pure (entry :: entries)) :=
      fun entry => (reads_flowEntries false fuel).bind fun _ _ => reads_pure _
    split
    · exact reads_pure _
    · split
      case' isTrue => refine (reads_expect _).bind fun _ _ => ?_
      all_goals
        refine reads_peek.bind fun t _ => ?_
        split
        · exact reads_skip.bind fun _ _ => reads_pure _
        · refine reads_skip.bind fun _ _ => (reads_flowPart _ true fuel).bind fun key _ => ?_
          exact (reads_flowValue _ fuel).bind fun value _ => hrest (key, value)
        · refine (reads_node false false fuel).bind fun key _ => ?_
          exact reads_fresh.bind fun value _ => hrest (key, value)

theorem reads_flowPart (close : Token) (isKey : Bool) :
    ∀ fuel, Reads failure (flowPart close isKey fuel)
  | 0 => reads_unparsable
  | fuel + 1 => by
    refine reads_peek.bind fun t _ => ?_
    split
    · exact reads_fresh
    · exact reads_node false false fuel

theorem reads_flowValue (close : Token) : ∀ fuel, Reads failure (flowValue close fuel)
  | 0 => reads_unparsable
  | fuel + 1 => by
    refine (reads_accept _).bind fun accepted _ => ?_
    split
    · exact reads_flowPart close false fuel
    · exact reads_fresh

end

/-! ### Documents -/

theorem reads_directives (version : Bool) (handles : List (Text × Text)) :
    ∀ fuel, Reads failure (directives version handles fuel)
  | 0 => reads_unparsable
  | fuel + 1 => by
    have hrest : ∀ version handles, Reads failure (do
        skip
        directives version handles fuel) := fun version handles =>
      reads_skip.bind fun _ _ => reads_directives version handles fuel
    refine reads_peek.bind fun t _ => ?_
    split
    · split
      · exact reads_unparsable.bind fun _ _ => hrest true handles
      · exact hrest true handles
    · split
      · exact reads_unparsable.bind fun _ _ => hrest version _
      · exact hrest version _
    · exact hrest version handles
    · exact reads_pure _

theorem reads_skipEnds : ∀ fuel, Reads failure (skipEnds fuel)
  | 0 => reads_unparsable
  | fuel + 1 => by
    refine (reads_accept _).bind fun accepted _ => ?_
    split
    · exact reads_skipEnds fuel
    · exact reads_pure _

theorem reads_explicitDocument (fuel : Nat) : Reads failure (explicitDocument fuel) := by
  refine (reads_directives false [] fuel).bind fun handles _ => ?_
  refine (reads_modify (by exact fun _ => rfl)).bind fun _ _ => (reads_expect _).bind fun _ _ => ?_
  refine reads_peek.bind fun t _ => ?_
  split
  · exact reads_fresh
  · exact reads_node true false fuel

theorem reads_document? (fuel : Nat) : Reads failure (document? fuel) := by
  have hlast : ∀ content : Option Nat, Reads failure (do
      if (← peek) = .streamEnd then pure content
      else
        let _ ← directives false [] fuel
        throw .unparsable) := by
    intro content
    refine reads_peek.bind fun t _ => ?_
    split
    · exact reads_pure _
    · exact (reads_directives false [] fuel).bind fun _ _ => reads_unparsable
  have hends : ∀ content : Option Nat, Reads failure (do
      if content.isSome then skipEnds fuel
      if (← peek) = .streamEnd then pure content
      else
        let _ ← directives false [] fuel
        throw .unparsable) := by
    intro content
    split
    · exact (reads_skipEnds fuel).bind fun _ _ => hlast content
    · exact hlast content
  have hfound : ∀ x : Reading Nat, Reads failure x → Reads failure (some <$> x) :=
    fun x hx => hx.map fun _ _ => trivial
  refine reads_peek.bind fun t _ => ?_
  split
  case h_1 => exact (reads_pure none).bind fun content _ => hends content
  case h_6 =>
    refine (reads_modify (by exact fun _ => rfl)).bind fun _ _ => ?_
    exact (hfound _ (reads_node true false fuel)).bind fun content _ => hends content
  all_goals exact (hfound _ (reads_explicitDocument fuel)).bind fun content _ => hends content

end Reading

/-- **What is wrong with the graph of a text**: its tokens do not make up a document, or something
is wrong behind the last one. -/
theorem failsOnly_ofText? (t : Text) :
    FailsOnly (Reading.Stops (tokens t).2) (Graph.ofText? t) := by
  unfold Graph.ofText?
  split
  · exact failsOnly_error.2 (.inl rfl)
  · exact failsOnly_map.2 (Reading.reads_document? _ _ rfl).1

end ApiTypes.Yaml

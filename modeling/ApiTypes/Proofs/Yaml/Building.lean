import ApiTypes.Proofs.Yaml.Refusal
import ApiTypes.Yaml.Value

/-!
# What can be wrong with the value of a graph

The value of a graph is made of the values of its scalars, and these can be refused. All else that
is wrong with a graph is wrong with its form, and makes it unparsable.

While the values are made, merges change the graph. They never make a text or a tag up: a node
keeps its tag, unless it becomes a string, and it keeps its content, unless it is a mapping
(`ApiTypes.Yaml.Graph.Edited`). So the text that has no value stands in the graph from the start,
and so does the tag under which it has none (`ApiTypes.Yaml.refused_value`).
-/

namespace ApiTypes.Yaml

/-! ### Graphs that merges have changed -/

/-- The content of a node as merges can change it: a mapping can get other entries. -/
inductive Content.Edited : Content → Content → Prop
  /-- It is as it was. -/
  | same (c : Content) : Edited c c
  /-- It is a mapping with other entries. -/
  | mapping (entries entries' : List (Nat × Nat)) : Edited (.mapping entries) (.mapping entries')

theorem Content.Edited.eq_scalar {c : Content} {t : Text} (h : c.Edited (.scalar t)) :
    c = .scalar t := by
  cases h
  rfl

theorem Content.Edited.of_scalar {c : Content} {t : Text} (h : (Content.scalar t).Edited c) :
    c = .scalar t := by
  cases h
  rfl

theorem Content.Edited.eq_mapping {c : Content} {entries : List (Nat × Nat)}
    (h : c.Edited (.mapping entries)) : ∃ entries, c = .mapping entries := by
  cases h with
  | same => exact ⟨entries, rfl⟩
  | mapping before => exact ⟨before, rfl⟩

/-- A node as merges can change it: it can become a string, and have other content. -/
structure Node.Edited (a b : Node) : Prop where
  /-- It is a string, or has the tag that it had. -/
  tag : b.tag = a.tag ∨ b.tag = .str
  /-- Its content is as it was, or is a mapping as before. -/
  content : a.content.Edited b.content

/-- **A graph as merges can change it.** -/
def Graph.Edited (g g' : Graph) : Prop := ∀ n, (g.get n).Edited (g'.get n)

theorem Graph.Edited.refl (g : Graph) : g.Edited g := fun _ => ⟨.inl rfl, .same _⟩

theorem Graph.Edited.set {g g' : Graph} {n : Nat} {node : Node} (h : g.Edited g')
    (hnode : (g.get n).Edited node) : g.Edited (g'.set n node) := by
  intro m
  by_cases hm : m = n
  · subst hm
    rcases Nat.lt_or_ge m g'.size with hlt | hge
    · rwa [Graph.get_set_self hlt]
    · -- no node has the number, and nothing is changed
      rw [Graph.set, Array.setIfInBounds_eq_of_size_le hge]
      exact h m
  · rw [Graph.get_set_of_ne hm]
    exact h m

/-- **A text that a node can be read as**: its own, or for a mapping the text of any scalar, since
a mapping can name one as its value by default. -/
def Graph.Holds (g : Graph) (n : Nat) (t : Text) : Prop :=
  (g.get n).content = .scalar t ∨
    (∃ entries, (g.get n).content = .mapping entries) ∧ ∃ m, (g.get m).content = .scalar t

/-- **Something in a graph has no value.** -/
inductive Refused (g : Graph) : Failure → Prop
  /-- A text has none under a tag. -/
  | text {n : Nat} {t : Text} {e : Failure} : g.Holds n t → Refuses (g.get n).tag t e →
      Refused g e
  /-- A mapping is given for a date or for a moment. -/
  | mapping {n : Nat} {entries : List (Nat × Nat)} : g.get n = ⟨.timestamp, .mapping entries⟩ →
      Refused g (.notText .list)

namespace Building

variable {α : Type} {g : Graph}

/-- **Building from a graph**: with what merges have made of the graph, it fails because the form
of the graph is wrong, or because something in it has no value. -/
abbrev Builds (g : Graph) (Q : α → Prop) (x : Building α) : Prop :=
  Safe (fun b => g.Edited b.graph) (fun e => e = .unparsable ∨ Refused g e) Q x

/-- Building whatever there is. -/
abbrev BuildsAny (g : Graph) (x : Building α) : Prop := Builds g (fun _ => True) x

theorem builds_pure (a : α) : BuildsAny g (pure a) := safe_pure trivial

theorem builds_unparsable {Q : α → Prop} : Builds g Q (throw .unparsable) :=
  safe_throw (.inl rfl)

theorem builds_modify {f : Builder → Builder} (h : ∀ b, (f b).graph = b.graph) :
    BuildsAny g (modify f) :=
  safe_modify fun b hb => by rwa [h b]

theorem builds_node (n : Nat) : Builds g (g.get n).Edited (node n) :=
  safe_get.bind fun _ hb => safe_pure (hb n)

theorem builds_form? (n : Nat) : BuildsAny g (form? n) :=
  safe_get.bind fun _ _ => builds_pure _

theorem builds_give (n : Nat) (form : Form) : BuildsAny g (give n form) :=
  builds_modify fun _ => rfl

theorem builds_change {n : Nat} {node : Node} (h : (g.get n).Edited node) :
    BuildsAny g (change n node) :=
  safe_modify fun _ hb => hb.set h

/-! ### Scalars -/

theorem builds_scalarText : ∀ fuel n, Builds g (g.Holds n) (scalarText fuel n)
  | 0, _ => builds_unparsable
  | fuel + 1, n => by
    refine (builds_node n).bind fun current hn => ?_
    have hcontent := hn.content
    split
    · next t ht =>
      rw [ht] at hcontent
      exact safe_pure (.inl hcontent.eq_scalar)
    · exact builds_unparsable
    · next entries hentries =>
      rw [hentries] at hcontent
      refine safe_get.bind fun b _ => ?_
      dsimp only
      split
      · next e _ =>
        refine (builds_scalarText fuel e.2).mono fun t ht => .inr ⟨hcontent.eq_mapping, ?_⟩
        rcases ht with ht | ⟨-, hscalar⟩
        · exact ⟨e.2, ht⟩
        · exact hscalar
      · exact builds_unparsable

/-- What has no value under a tag, has none in the graph. -/
theorem builds_refused {n : Nat} {tag : Tag} {t : Text} {x : Except Failure α}
    (htag : tag = (g.get n).tag ∨ tag = .str) (ht : g.Holds n t)
    (h : ∀ e, x = .error e → Refuses tag t e) : BuildsAny g (liftM x) := by
  refine safe_liftM fun e he => .inr (.text ht ?_)
  rcases htag with rfl | rfl
  · exact h e he
  · exact nomatch h e he

/-- **The value of a scalar** fails because the scalar is refused, with a text and a tag that the
graph has had from the start. -/
theorem builds_scalarValue {n : Nat} {tag : Tag} (htag : tag = (g.get n).tag ∨ tag = .str) :
    BuildsAny g (scalarValue n tag) := by
  unfold scalarValue
  split
  case h_4 =>
    refine safe_get.bind fun b _ => (builds_scalarText _ n).bind fun t ht => ?_
    split
    · exact builds_pure _
    · exact builds_refused htag ht fun _ => .bool
    · exact builds_refused htag ht fun _ => .int
    · exact builds_refused htag ht fun _ => .float
    · exact safe_liftM fun e he => .inl (failsOnly_binaryValue t e he)
    · refine (builds_node n).bind fun current hn => ?_
      have hcontent := hn.content
      split
      · next t' ht' =>
        rw [ht'] at hcontent
        exact builds_refused htag (.inl hcontent.eq_scalar) fun _ => .timestamp
      · -- the text is that of a value by default, which only a mapping has
        next hno =>
        obtain ⟨entries, hentries⟩ : ∃ entries, (g.get n).content = .mapping entries := by
          rcases ht with ht | ⟨hmapping, -⟩
          · rw [ht] at hcontent
            exact absurd hcontent.of_scalar (hno t)
          · exact hmapping
        have hstamp : (g.get n).tag = .timestamp := htag.elim Eq.symm fun h => nomatch h
        have hnode : g.get n = ⟨.timestamp, .mapping entries⟩ := by rw [← hstamp, ← hentries]
        exact safe_throw (.inr (.mapping hnode))
    · exact builds_pure _
  all_goals exact builds_unparsable

theorem builds_meet (n : Nat) : BuildsAny g (meet n) := by
  refine (builds_form? n).bind fun form _ => ?_
  split
  · exact builds_pure _
  · refine (builds_node n).bind fun current hn => ?_
    have hannounce : BuildsAny g (do
        give n (.list [])
        modify fun b => { b with announced := n :: b.announced }) :=
      (builds_give n _).bind fun _ _ => builds_modify fun _ => rfl
    have htag := hn.tag
    dsimp only
    split
    case h_6 => exact (builds_scalarValue htag).bind fun v _ => builds_give n _
    all_goals exact hannounce

/-! ### Merges -/

section Merge

variable {merge : Nat → Building Unit} (hmerge : ∀ n, BuildsAny g (merge n))
include hmerge

theorem builds_mergedEntries (n : Nat) : BuildsAny g (mergedEntries merge n) := by
  refine (hmerge n).bind fun _ _ => (builds_node n).bind fun current _ => ?_
  split
  · exact builds_pure _
  · exact builds_unparsable

theorem builds_entriesFrom (n : Nat) : BuildsAny g (entriesFrom merge n) := by
  refine (builds_node n).bind fun current _ => ?_
  split
  · exact builds_mergedEntries hmerge n
  · exact Safe.foldlM (fun given item =>
      (builds_mergedEntries hmerge item).bind fun _ _ => builds_pure _) _ _
  · exact builds_unparsable

theorem builds_mergeEntry (parts : List (Nat × Nat) × List (Nat × Nat)) (entry : Nat × Nat) :
    BuildsAny g (mergeEntry merge parts entry) := by
  refine (builds_node entry.1).bind fun key hkey => ?_
  have hstring : (g.get entry.1).Edited ⟨.str, key.content⟩ := ⟨.inr rfl, hkey.content⟩
  split
  · exact (builds_entriesFrom hmerge entry.2).bind fun _ _ => builds_pure _
  · exact (builds_change hstring).bind fun _ _ => builds_pure _
  · exact builds_pure _

end Merge

/-- **Merges keep the tags and the texts** of the graph. -/
theorem builds_merge : ∀ fuel n, BuildsAny g (merge fuel n)
  | 0, _ => builds_unparsable
  | fuel + 1, n => by
    refine (builds_node n).bind fun current hn => ?_
    split
    · -- the merges inside may change the node too, but it is written back as it was read
      next tag entries =>
      obtain ⟨before, hbefore⟩ := hn.content.eq_mapping
      have hstep := builds_mergeEntry (builds_merge fuel) (g := g)
      refine (Safe.foldlM hstep entries ([], [])).bind fun parts _ => builds_change ⟨hn.tag, ?_⟩
      rw [hbefore]
      exact .mapping _ _
    · exact builds_unparsable

/-! ### Containers -/

theorem builds_addEntry (entries : List (Value × Nat)) (entry : Nat × Nat) :
    BuildsAny g (addEntry entries entry) := by
  refine (builds_meet entry.1).bind fun _ _ => (builds_form? entry.1).bind fun form _ => ?_
  split
  · exact (builds_meet entry.2).bind fun _ _ => builds_pure _
  · exact builds_unparsable

theorem builds_entriesOf (n : Nat) : BuildsAny g (entriesOf n) :=
  safe_get.bind fun _ _ => (builds_mergedEntries (builds_merge _) n).bind fun entries _ =>
    Safe.foldlM builds_addEntry entries []

theorem builds_pairOf (n : Nat) : BuildsAny g (pairOf n) := by
  refine (builds_node n).bind fun current _ => ?_
  split
  · exact (builds_meet _).bind fun _ _ => (builds_meet _).bind fun _ _ => builds_pure _
  · exact builds_unparsable

theorem builds_lookAt (n : Nat) : BuildsAny g (lookAt n) := by
  refine (builds_node n).bind fun current _ => ?_
  obtain ⟨tag, content⟩ := current
  dsimp only
  split
  · exact (Safe.forM builds_meet _).bind fun _ _ => builds_give n _
  · exact (builds_entriesOf n).bind fun _ _ => builds_give n _
  · exact (builds_entriesOf n).bind fun _ _ => builds_give n _
  · exact (Safe.mapM builds_pairOf _).bind fun _ _ => builds_give n _
  · exact (Safe.mapM builds_pairOf _).bind fun _ _ => builds_give n _
  · exact builds_unparsable

theorem builds_lookAtAll (fuel : Nat) : BuildsAny g (lookAtAll fuel) := by
  induction fuel with
  | zero => exact builds_pure ()
  | succ fuel ih =>
    refine safe_get.bind fun b _ => ?_
    dsimp only
    split
    · exact builds_pure ()
    · refine (builds_modify (by exact fun _ => rfl)).bind fun _ _ => ?_
      exact (Safe.forM builds_lookAt _).bind fun _ _ => ih

end Building

/-- **What is wrong with the value of a graph**: the form of the graph is wrong, or something in
it has no value. -/
theorem refused_value (g : Graph) : FailsOnly (fun e => e = .unparsable ∨ Refused g e) g.value := by
  refine FailsOnly.bind ?_ fun r _ => failsOnly_ok _ _
  have hbuild : Building.BuildsAny g (do
      Building.meet 0
      Building.lookAtAll (g.size + 1)) :=
    (Building.builds_meet 0).bind fun _ _ => Building.builds_lookAtAll _
  exact (hbuild _ (Graph.Edited.refl g)).1

end ApiTypes.Yaml

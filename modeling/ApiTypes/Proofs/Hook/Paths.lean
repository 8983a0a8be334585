import ApiTypes.Hook.Catalogue

/-!
# Paths of hooks

A hook of the catalogue is shown by a path, which is not always the one at which it has been
found. What has been found by names that are written down in the catalogue
(`ApiTypes.Hook.Declared`) is found again at the path by which it is shown
(`ApiTypes.Hook.find_again`): such names lead to the hooks and the class of the module, to the
hook of the class, and to nothing else that can be called (`ApiTypes.Hook.Catalogue.Listed`).

Other names lead on to members that everything has, such as the methods of a text. These are
shown by the paths of their kinds, and the catalogue does not know those.
-/

namespace ApiTypes.Hook

/-- The name of the module in a path. -/
def modulePart (path : Text) : Text := path.takeWhile (· ≠ ':')

/-- What stands behind the colon of a path. -/
def memberPart (path : Text) : Text := (path.dropWhile (· ≠ ':')).drop 1

/-- **When a hook is found.** -/
theorem find_eq_ok_iff {path : Text} {named : Named} : find path = .ok named ↔
    ¬(modulePart path = [] ∨ memberPart path = []) ∧
      Catalogue.checkModule (modulePart path) = .ok () ∧
      ∃ item, Catalogue.Item.module.follow (Text.split '.' (memberPart path)) = .ok item ∧
        item.named? = some named := by
  change (if modulePart path = [] ∨ memberPart path = [] then _ else _) = _ ↔ _
  split
  · next hempty => simp [hempty]
  · next hempty =>
    rw [← modulePart, ← memberPart]
    cases Catalogue.checkModule (modulePart path) with
    | error e => simp [bind, Except.bind]
    | ok _ =>
      cases Catalogue.Item.module.follow (Text.split '.' (memberPart path)) with
      | error e => simp [bind, Except.bind]
      | ok item => cases hnamed : item.named? <;> simp [bind, Except.bind, hempty, hnamed]

namespace Catalogue

variable {item next : Item} {name : Text} {names : List Text} {named : Named}

/-! ### Names that are written down -/

/-- What names lead to, each of which is written down. -/
def Item.declaredAt? (item : Item) : List Text → Option Item
  | [] => some item
  | name :: rest => (item.declared? name).bind fun next => next.declaredAt? rest

theorem member?_of_declared (h : item.declared? name = some next) :
    item.member? name = some next := by
  rw [Item.member?, h]
  rfl

/-- They are followed there. -/
theorem follow_of_declaredAt (h : item.declaredAt? names = some next) :
    item.follow names = .ok next := by
  induction names generalizing item with
  | nil => rw [Item.follow, Option.some.inj h]
  | cons name names ih =>
    obtain ⟨member, hmember, hrest⟩ := Option.bind_eq_some_iff.1 h
    rw [Item.follow, member?_of_declared hmember]
    exact ih hrest

/-- **What is written down** in the catalogue. -/
inductive Listed : Item → Prop
  /-- The module. -/
  | module : Listed .module
  /-- A hook of the module. -/
  | rule {name : Text} {r : Rule} : rules.lookup name = some r → Listed (.rule name r)
  /-- The class. -/
  | group : Listed .group
  /-- The hook of the class. -/
  | member : Listed (.rule (groupName ++ '.' :: "keep".toList) {})
  /-- A value, which cannot be called. -/
  | value (kind : String) : Listed (.value kind)

/-- A name that is written down leads from what is written down to what is. -/
theorem Listed.of_declared (h : Listed item) (hnext : item.declared? name = some next) :
    Listed next := by
  cases h with
  | module =>
    simp only [Item.declared?] at hnext
    split at hnext
    · exact Option.some.inj hnext ▸ .group
    · split at hnext
      · exact Option.some.inj hnext ▸ .value "str"
      · obtain ⟨r, hr, rfl⟩ := Option.map_eq_some_iff.1 hnext
        exact .rule hr
  | group =>
    simp only [Item.declared?] at hnext
    split at hnext
    · next hname => exact Option.some.inj hnext ▸ hname ▸ .member
    · split at hnext
      · exact Option.some.inj hnext ▸ .value "str"
      · exact absurd hnext (by simp)
  | rule _ => exact absurd hnext (by simp [Item.declared?])
  | member => exact absurd hnext (by simp [Item.declared?])
  | value _ => exact absurd hnext (by simp [Item.declared?])

theorem Listed.of_declaredAt (h : Listed item) (hnext : item.declaredAt? names = some next) :
    Listed next := by
  induction names generalizing item with
  | nil => exact Option.some.inj hnext ▸ h
  | cons name names ih =>
    obtain ⟨member, hmember, hrest⟩ := Option.bind_eq_some_iff.1 hnext
    exact ih (h.of_declared hmember) hrest

/-! ### The way back -/

/-- The path of names in the module. -/
def pathOf (names : List Text) : Text := moduleName ++ ':' :: Text.join ['.'] names

/-- At the path of names that are written down is what they lead to. -/
theorem find_pathOf (hne : Text.join ['.'] names ≠ []) (hdots : ∀ name ∈ names, '.' ∉ name)
    (hitem : Item.module.declaredAt? names = some item) (hnamed : item.named? = some named) :
    find (pathOf names) = .ok named := by
  have hnames : names ≠ [] := by
    rintro rfl
    exact hne rfl
  have hcolon : ∀ c ∈ moduleName, decide (c ≠ ':') := by decide
  have hmodule : modulePart (pathOf names) = moduleName := by
    rw [modulePart, pathOf, List.takeWhile_append_of_pos hcolon,
      List.takeWhile_cons_of_neg (by decide), List.append_nil]
  have hmember : memberPart (pathOf names) = Text.join ['.'] names := by
    rw [memberPart, pathOf, List.dropWhile_append_of_pos hcolon,
      List.dropWhile_cons_of_neg (by decide), List.drop_one, List.tail_cons]
  rw [find_eq_ok_iff, hmodule, hmember, Text.split_join hnames hdots]
  have hempty : ¬(moduleName = [] ∨ Text.join ['.'] names = []) := not_or.2 ⟨by decide, hne⟩
  exact ⟨hempty, rfl, item, follow_of_declaredAt hitem, hnamed⟩

/-- The names of the hooks are no paths themselves. -/
theorem plain_of_mem_rules : ∀ entry ∈ rules, entry.1 ≠ [] ∧ '.' ∉ entry.1 ∧
    entry.1 ≠ groupName ∧ entry.1 ≠ "LABEL".toList := by
  decide

/-- **What is written down is found** at the path by which it is shown. -/
theorem Listed.find (h : Listed item) (hnamed : item.named? = some named) :
    ∃ path, named.path = .ok path ∧ Hook.find path = .ok named := by
  cases h with
  | module => exact absurd hnamed (by simp [Item.named?])
  | value _ => exact absurd hnamed (by simp [Item.named?])
  | @rule name r hr =>
    obtain ⟨before, after, heq, -⟩ := List.lookup_eq_some_iff.1 hr
    have hmem : (name, r) ∈ rules := by
      rw [heq]
      exact List.mem_append_right before List.mem_cons_self
    obtain ⟨hne, hdot, hgroup, hlabel⟩ := plain_of_mem_rules (name, r) hmem
    have hitem : Item.module.declaredAt? [name] = some (.rule name r) := by
      simp only [Item.declaredAt?, Item.declared?, if_neg hgroup, if_neg hlabel, hr]
      rfl
    have hfind := find_pathOf (by simpa [Text.join] using hne) (by simpa using hdot) hitem hnamed
    obtain rfl := Option.some.inj hnamed
    exact ⟨_, rfl, hfind⟩
  | group =>
    have hfind : Hook.find (pathOf [groupName]) = .ok named :=
      find_pathOf (by decide) (by decide) rfl hnamed
    obtain rfl := Option.some.inj hnamed
    exact ⟨_, rfl, hfind⟩
  | member =>
    have hfind : Hook.find (pathOf [groupName, "keep".toList]) = .ok named :=
      find_pathOf (by decide) (by decide) rfl hnamed
    obtain rfl := Option.some.inj hnamed
    exact ⟨_, rfl, hfind⟩

end Catalogue

/-- **A path of names that are written down** in the catalogue. -/
def Declared (path : Text) : Prop :=
  (Catalogue.Item.module.declaredAt? (Text.split '.' (memberPart path))).isSome

instance : DecidablePred Declared := fun _ => inferInstanceAs (Decidable (_ = true))

/-- **A hook is found again** at the path by which it is shown, if it has been found at a path
of names that are written down. -/
theorem find_again {path : Text} {named : Named} (h : Declared path)
    (hfind : find path = .ok named) :
    ∃ shown, named.path = .ok shown ∧ find shown = .ok named := by
  obtain ⟨item, hitem⟩ := Option.isSome_iff_exists.1 h
  obtain ⟨-, -, found, hfollow, hnamed⟩ := find_eq_ok_iff.1 hfind
  obtain rfl : item = found :=
    Except.ok.inj ((Catalogue.follow_of_declaredAt hitem).symm.trans hfollow)
  exact (Catalogue.Listed.module.of_declaredAt hitem).find hnamed

end ApiTypes.Hook

import ApiTypes.Pointer
import ApiTypes.Proofs.TypeScript.Literal
import ApiTypes.Proofs.TypeScript.Reader
import Mathlib.Data.List.Induction

/-!
# Pointers and indexed accesses

An indexed access of TypeScript is an identifier with index keys behind it, each of them a string
literal in double quotes between brackets (`ApiTypes.TypeScript.IndexedAccess`). What an identifier
is does not matter here, except that there is no opening bracket in one.

The type that a pointer names is to be an indexed access, with one key for each segment but the
first. The keys are quoted, but the first segment is written as it is, whatever it may be. So this
is an indexed access only if that segment is an identifier, and if the keys are of one line; and
then the segments can be read off it (`ApiTypes.Pointer.indexedAccess_type_iff`). A segment such as
`x-models` is no identifier, and no other reading helps (`ApiTypes.Pointer.not_indexedAccess_dash`).

That there is no other reading takes an argument: the first segment may have brackets and quotes in
it, so that keys could begin in it. If one begins and ends in it, there are too many keys
(`ApiTypes.TypeScript.length_lt_of_indexKeys`). If one begins in it and ends at a quote of another
key, then the quotes are paired the wrong way up to the end, where one is left over
(`ApiTypes.TypeScript.not_indexKeys_of_readInside`).
-/

namespace ApiTypes

namespace TypeScript

open Text (OneLine)

/-! ### Index keys -/

/-- **Index keys**, with the texts that they stand for. -/
inductive IndexKeys : Text → List Text → Prop
  /-- There are none. -/
  | nil : IndexKeys [] []
  /-- A literal between brackets, and others behind it. -/
  | cons {t rest key : Text} {keys : List Text} : readLiteral? '"' t = some (key, ']' :: rest) →
      IndexKeys rest keys → IndexKeys ('[' :: t) (key :: keys)

/-- **An indexed access**: an identifier and index keys behind it. -/
structure IndexedAccess (Identifier : Text → Prop) (t root : Text) (keys : List Text) : Prop where
  /-- The root is an identifier. -/
  identifier : Identifier root
  /-- The keys stand behind it. -/
  keys : ∃ rest, t = root ++ rest ∧ IndexKeys rest keys

/-- The index keys of an indexed access as they are written. -/
def writtenKeys (keys : List Text) : Text := keys.flatMap fun k => '[' :: (quoteKey k ++ [']'])

theorem indexed_eq (root : Text) (keys : List Text) :
    Written.indexed root keys = root ++ writtenKeys keys := rfl

theorem writtenKeys_cons (key : Text) (keys : List Text) :
    writtenKeys (key :: keys) =
      '[' :: '"' :: (escape '"' key ++ '"' :: ']' :: writtenKeys keys) := by
  simp [writtenKeys, quoteKey, quote]

variable {keys ks : List Text} {t x y v rest : Text}

/-- **Keys are read back as they were written** if they are of one line, and otherwise there are no
keys. -/
theorem indexKeys_writtenKeys_iff :
    IndexKeys (writtenKeys keys) ks ↔ ks = keys ∧ ∀ k ∈ keys, OneLine k := by
  induction keys generalizing ks with
  | nil =>
    constructor
    · intro h
      cases h
      exact ⟨rfl, by simp⟩
    · rintro ⟨rfl, -⟩
      exact .nil
  | cons key keys ih =>
    have hwritten : writtenKeys (key :: keys) =
        '[' :: (quoteKey key ++ ']' :: writtenKeys keys) := by simp [writtenKeys]
    have hread : readLiteral? '"' (quoteKey key ++ ']' :: writtenKeys keys) =
        if OneLine key then some (key, ']' :: writtenKeys keys) else none :=
      readLiteral_quote (.inl rfl) key _
    rw [hwritten, List.forall_mem_cons]
    constructor
    · intro h
      cases h with
      | cons hkey hrest =>
        rw [hread] at hkey
        split at hkey
        · next hline =>
          obtain ⟨rfl, rfl⟩ : key = _ ∧ writtenKeys keys = _ := by simpa using hkey
          obtain ⟨rfl, hlines⟩ := ih.1 hrest
          exact ⟨rfl, hline, hlines⟩
        · cases hkey
    · rintro ⟨rfl, hline, hlines⟩
      exact .cons (hread.trans (if_pos hline)) (ih.2 ⟨rfl, hlines⟩)

/-! ### Keys that begin in something else -/

/-- The inside of a literal ends in one piece of a text, or it goes on into the next piece, which
is then read as the inside of one. -/
theorem readInside_append (hy : ∀ c ∈ y.head?, ¬(c = '\\' ∨ c = '"' ∨ c = '\''))
    (h : readInside? '"' (x ++ y) = some (v, rest)) :
    (∃ z, rest = z ++ y) ∨ ∃ v', readInside? '"' y = some (v', rest) := by
  have hcons : ∀ {c : Char} {t v : Text}, c ≠ '\\' → readInside? '"' (c :: t) = some (v, rest) →
      rest = t ∨ ∃ v', readInside? '"' t = some (v', rest) := by
    intro c t v hc h
    rw [readInside_cons hc] at h
    split at h
    · exact .inl (Prod.mk.inj (Option.some.inj h)).2.symm
    · split at h
      · cases h
      · obtain ⟨⟨v', r⟩, hr, hv⟩ := Option.map_eq_some_iff.1 h
        obtain ⟨-, rfl⟩ := Prod.mk.inj hv
        exact .inr ⟨v', hr⟩
  induction x using List.twoStepInduction generalizing v with
  | nil => exact .inr ⟨v, h⟩
  | singleton c =>
    by_cases hc : c = '\\'
    · -- a backslash in front of the next piece would have to escape its first character
      subst hc
      cases y with
      | nil => simp [readInside?] at h
      | cons d y => simp [readInside?, hy d rfl] at h
    · exact (hcons hc h).imp_left fun hrest => ⟨[], hrest⟩
  | cons_cons c d x ih ih' =>
    by_cases hc : c = '\\'
    · subst hc
      rw [List.cons_append, List.cons_append, readInside?] at h
      split at h
      · obtain ⟨⟨v', r⟩, hr, hv⟩ := Option.map_eq_some_iff.1 h
        obtain ⟨-, rfl⟩ := Prod.mk.inj hv
        exact ih hr
      · cases h
    · rcases hcons hc h with hrest | ⟨v', hv'⟩
      · exact .inl ⟨d :: x, hrest⟩
      · exact ih' d hv'

/-- Where escaped text begins with a character that is not escaped, so does the text. -/
theorem escape_append_eq_cons {c : Char} {r s : Text} (hq : c ≠ '"') (hbackslash : c ≠ '\\')
    (h : escape '"' t ++ '"' :: r = c :: s) :
    ∃ t', t = c :: t' ∧ s = escape '"' t' ++ '"' :: r := by
  cases t with
  | nil => exact absurd (List.cons.inj h).1.symm hq
  | cons d t =>
    rw [escape_cons, escapeChar] at h
    split at h
    · exact absurd (List.cons.inj h).1.symm hbackslash
    · obtain ⟨rfl, rfl⟩ := List.cons.inj h
      exact ⟨t, rfl, rfl⟩

/-- Where escaped text begins with a quote, it is over. -/
theorem eq_nil_of_escape_append {r s : Text} (h : escape '"' t ++ '"' :: r = '"' :: s) :
    t = [] ∧ s = r := by
  cases t with
  | nil => exact ⟨rfl, (List.cons.inj h).2.symm⟩
  | cons d t =>
    rw [escape_cons, escapeChar] at h
    split at h
    · exact absurd (List.cons.inj h).1 (by decide)
    · next hd => exact absurd (.inr (List.cons.inj h).1) hd

/-- **Written keys are not read as the rest of a literal with keys behind it**: every quote that
opens a key would close one, and the last one would be left over. -/
theorem not_indexKeys_of_readInside
    (h : readInside? '"' (writtenKeys keys) = some (v, ']' :: rest)) : ¬IndexKeys rest ks := by
  induction keys generalizing v rest ks with
  | nil => cases h
  | cons key keys ih =>
    -- the literal ends at the first quote of the key, and so the key begins with a bracket
    rw [writtenKeys_cons, readInside_cons (by decide), if_neg (by decide), if_neg (by decide),
      readInside_cons (by decide), if_pos rfl] at h
    obtain ⟨-, hrest⟩ := Prod.mk.inj (Option.some.inj h)
    obtain ⟨key', -, hrest⟩ := escape_append_eq_cons (by decide) (by decide) hrest
    intro hkeys
    cases hkeys with
    | nil => simp at hrest
    | @cons t rest' _ ks hliteral hkeys =>
      -- the next key begins with the quote behind it
      obtain ⟨key'', -, ht⟩ := escape_append_eq_cons (by decide) (by decide) hrest.symm
      cases t with
      | nil => cases hliteral
      | cons c t =>
        rw [readLiteral?] at hliteral
        split at hliteral
        · next hc =>
          subst hc
          obtain ⟨-, rfl⟩ := eq_nil_of_escape_append ht.symm
          rw [readInside_cons (by decide), if_neg (by decide), if_neg (by decide)] at hliteral
          obtain ⟨⟨v', r⟩, hr, hv⟩ := Option.map_eq_some_iff.1 hliteral
          obtain ⟨-, rfl⟩ := Prod.mk.inj hv
          exact ih hr hkeys
        · cases hliteral

theorem head_writtenKeys {c : Char} (h : writtenKeys keys = c :: t) : c = '[' := by
  cases keys with
  | nil => cases h
  | cons key keys =>
    rw [writtenKeys_cons] at h
    exact (List.cons.inj h).1.symm

/-- **Keys that begin in front of some written keys** are more than these. -/
theorem length_lt_of_indexKeys (hx : x ≠ []) (h : IndexKeys (x ++ writtenKeys keys) ks) :
    keys.length < ks.length := by
  have hhead : ∀ c ∈ (writtenKeys keys).head?, ¬(c = '\\' ∨ c = '"' ∨ c = '\'') := by
    intro c hc
    obtain ⟨t, ht⟩ := List.head?_eq_some_iff.1 hc
    rw [head_writtenKeys ht]
    decide
  induction ks generalizing x with
  | nil =>
    generalize ht : x ++ writtenKeys keys = t at h
    cases h
    exact absurd (List.append_eq_nil_iff.1 ht).1 hx
  | cons k ks ih =>
    obtain ⟨c, x, rfl⟩ := List.exists_cons_of_ne_nil hx
    cases h with
    | @cons _ rest _ _ hliteral hkeys =>
      cases x with
      | nil =>
        -- the written keys would begin with a quote
        change readLiteral? '"' (writtenKeys keys) = _ at hliteral
        cases hwritten : writtenKeys keys with
        | nil =>
          rw [hwritten] at hliteral
          cases hliteral
        | cons d t =>
          obtain rfl := head_writtenKeys hwritten
          rw [hwritten] at hliteral
          exact absurd hliteral (by simp [readLiteral?])
      | cons d x =>
        change readLiteral? '"' (d :: (x ++ writtenKeys keys)) = _ at hliteral
        rw [readLiteral?] at hliteral
        split at hliteral
        · rcases readInside_append hhead hliteral with ⟨z, hz⟩ | ⟨v', hv'⟩
          · cases z with
            | nil => exact absurd (head_writtenKeys hz.symm) (by decide)
            | cons e z =>
              obtain ⟨-, rfl⟩ := List.cons.inj hz
              rw [List.length_cons]
              by_cases hz : z = []
              · subst hz
                obtain ⟨rfl, -⟩ := indexKeys_writtenKeys_iff.1 hkeys
                exact Nat.lt_succ_self _
              · exact Nat.lt_succ_of_lt (ih hz hkeys)
          · exact absurd hkeys (not_indexKeys_of_readInside hv')
        · cases hliteral

/-! ### Indexed accesses -/

/-- **What is written for a root and some keys is an indexed access with as many keys** if the root
is an identifier and the keys are of one line, and it is read in one way only. -/
theorem indexedAccess_indexed_iff {Identifier : Text → Prop}
    (hbracket : ∀ t, Identifier t → '[' ∉ t) {root r : Text} :
    IndexedAccess Identifier (Written.indexed root keys) r ks ∧ ks.length = keys.length ↔
      (r = root ∧ ks = keys) ∧ Identifier root ∧ ∀ k ∈ keys, OneLine k := by
  rw [indexed_eq]
  constructor
  · rintro ⟨⟨hr, rest, htext, hkeys⟩, hlength⟩
    have hread : ∀ rest, IndexKeys rest ks → r = root → rest = writtenKeys keys →
        (r = root ∧ ks = keys) ∧ Identifier root ∧ ∀ k ∈ keys, OneLine k := by
      rintro _ hkeys rfl rfl
      obtain ⟨rfl, hlines⟩ := indexKeys_writtenKeys_iff.1 hkeys
      exact ⟨⟨rfl, rfl⟩, hr, hlines⟩
    rcases List.append_eq_append_iff.1 htext with ⟨z, rfl, hz⟩ | ⟨z, rfl, hz⟩
    · -- the identifier would reach into the keys, and the first bracket would be in it
      cases z with
      | nil => exact hread rest hkeys (List.append_nil root) hz.symm
      | cons c z =>
        obtain rfl := head_writtenKeys hz
        exact absurd (by simp) (hbracket _ hr)
    · by_cases hnil : z = []
      · subst hnil
        exact hread rest hkeys (List.append_nil r).symm hz
      · -- the keys would begin in the root
        have hlt := length_lt_of_indexKeys hnil (hz ▸ hkeys)
        omega
  · rintro ⟨⟨rfl, rfl⟩, hr, hlines⟩
    exact ⟨⟨hr, _, rfl, indexKeys_writtenKeys_iff.2 ⟨rfl, hlines⟩⟩, rfl⟩

theorem bracket_not_mem_of_isIdentifier {t : Text} (h : IsIdentifier t) : '[' ∉ t :=
  fun hmem => absurd (h.2.1 _ hmem) (by decide)

end TypeScript

namespace Pointer

open TypeScript
open Text (OneLine)

/-- **When a pointer names an indexed access.** The type that a local pointer with the given
segments names is an indexed access with one key for each segment but the first exactly if the
first segment is an identifier and the others are of one line, once their escapes are undone; and
then it is read as the access by these segments and in no other way. -/
theorem indexedAccess_type_iff {Identifier : Text → Prop}
    (hbracket : ∀ t, Identifier t → '[' ∉ t) {first : Text} {others : List Text}
    (hslash : ∀ s ∈ first :: others, '/' ∉ s) (root : Text) (keys : List Text) :
    IndexedAccess Identifier (type ('#' :: '/' :: Text.join ['/'] (first :: others))).text
        root keys ∧ keys.length = others.length ↔
      (root = decode first ∧ keys = others.map decode) ∧
        Identifier (decode first) ∧ ∀ s ∈ others, OneLine (decode s) := by
  have hsegments : segments ('#' :: '/' :: Text.join ['/'] (first :: others)) =
      decode first :: others.map decode := by
    rw [segments, localPart, Text.split_join (by simp) hslash, List.map_cons]
  have htext : (type ('#' :: '/' :: Text.join ['/'] (first :: others))).text =
      Written.indexed (decode first) (others.map decode) := by
    rw [type, hsegments, TypeExpr.text]
  have hlength : (others.map decode).length = others.length := List.length_map decode
  rw [htext, ← hlength, indexedAccess_indexed_iff hbracket, List.forall_mem_map]

/-- A pointer whose keys have a slash, a quote and a bracket in them, among the identifiers of the
ASCII table. -/
theorem indexedAccess_awkward :
    (∀ t, IsIdentifier t → '[' ∉ t) ∧
      (∀ s ∈ ["components".toList, "a~1b\"".toList, "][".toList], '/' ∉ s) ∧
      IndexedAccess IsIdentifier (type "#/components/a~1b\"/][".toList).text
        "components".toList ["a/b\"".toList, "][".toList] := by
  have hslash : ∀ s ∈ ["components".toList, "a~1b\"".toList, "][".toList], '/' ∉ s := by
    decide +kernel
  refine ⟨fun t => bracket_not_mem_of_isIdentifier, hslash, ?_⟩
  have hboth := (indexedAccess_type_iff (fun t => bracket_not_mem_of_isIdentifier) hslash
    "components".toList ["a/b\"".toList, "][".toList]).2
    ⟨⟨by decide +kernel, by decide +kernel⟩, by decide +kernel, by decide +kernel⟩
  exact hboth.1

/-- A local pointer whose first segment is no identifier names no indexed access with a key for the
other segment. -/
theorem not_indexedAccess_dash :
    (type "#/x-models/Pet".toList).text = "x-models[\"Pet\"]".toList ∧
      ¬∃ root keys, IndexedAccess IsIdentifier (type "#/x-models/Pet".toList).text root keys ∧
        keys.length = 1 := by
  have htext : (type "#/x-models/Pet".toList).text =
      Written.indexed "x-models".toList ["Pet".toList] := by decide +kernel
  refine ⟨by decide +kernel, ?_⟩
  rintro ⟨root, keys, haccess⟩
  rw [htext] at haccess
  have hroot := ((indexedAccess_indexed_iff fun t => bracket_not_mem_of_isIdentifier).1
    haccess).2.1
  exact absurd hroot (by decide +kernel)

end Pointer

end ApiTypes

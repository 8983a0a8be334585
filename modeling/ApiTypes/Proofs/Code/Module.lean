import ApiTypes.Proofs.TypeScript.Formed
import ApiTypes.TypeScript.Module

/-!
# Generated modules pass the check

The check of generated code knows nothing of how code is generated: it looks for an
exported interface and counts braces. `ApiTypes.TypeScript.check_moduleText` says that it
accepts every module of both dialects, whatever names, descriptions, literals and keys the
schemas have, as long as no rendered pointer has a root with a brace, a quote or a slash
in it. The root is the one part of a pointer that is printed as it is.
-/

namespace ApiTypes.TypeScript

open Output Schema

/-- A root that has no meaning to the check of generated code. -/
def IsBareRoot (root : Text) : Prop := ∀ c ∈ root, IsBare c

instance : DecidablePred IsBareRoot := fun root =>
  inferInstanceAs (Decidable (∀ c ∈ root, IsBare c))

/-- The members of some schemas are code, when the roots of their pointers are bare. -/
theorem code_membersText {d : Dialect} {properties : Entries} (required : List Text)
    (h : ∀ e ∈ properties, PointerRoots d IsBareRoot e.2) :
    Code (membersText d properties required) := by
  have htype : ∀ e ∈ properties, TypeExpr.Formed IsBareRoot True (typeOf d e.2) := fun e he =>
    formed_typeOf (by decide) (fun _ => trivial) e.2 (h e he) fun _ => trivial
  refine TypeExpr.code_membersText (fun m hm => isComment_of_mem_membersOf hm) fun m hm => ?_
  exact (formed_of_mem_membersOf htype hm).code fun r hr => .of_bare hr

/-- What stands between the marks of the comment at the top of a module. -/
def bannerBody : Text :=
  "*\n* This file was auto-generated by openapi-to-ts.\n".toList ++
    "* Do not make direct changes to the file.\n".toList

theorem banner_eq : banner = '/' :: '*' :: (bannerBody ++ ['*', '/']) ++ ['\n', '\n'] := by
  delta banner bannerBody
  rw [String.toList_append,
    show "/**\n* This file was auto-generated by openapi-to-ts.\n".toList = _
      from String.toList_ofList,
    show "* Do not make direct changes to the file.\n*/\n\n".toList = _ from String.toList_ofList,
    show "*\n* This file was auto-generated by openapi-to-ts.\n".toList = _
      from String.toList_ofList,
    show "* Do not make direct changes to the file.\n".toList = _ from String.toList_ofList]
  rfl

theorem not_hasPair_bannerBody : ¬Text.HasPair '*' '/' bannerBody := by
  have hbody : '/' ∉ bannerBody := by
    delta bannerBody
    rw [List.mem_append, not_or,
      show "*\n* This file was auto-generated by openapi-to-ts.\n".toList = _
        from String.toList_ofList,
      show "* Do not make direct changes to the file.\n".toList = _ from String.toList_ofList]
    decide
  exact Text.not_hasPair_of_not_mem hbody

theorem code_banner : Code banner := by
  rw [banner_eq]
  exact (Code.comment not_hasPair_bannerBody).append (.of_bare (by decide))

theorem code_ofList {cs : List Char} (h : ∀ c ∈ cs, IsBare c) : Code (String.ofList cs).toList := by
  rw [String.toList_ofList]
  exact .of_bare h

/-- What the head of a module opens, its tail closes. -/
theorem code_module (d : Dialect) {members : Text} (h : Code members) :
    Code (moduleHead d ++ members ++ moduleTail d) := by
  cases d with
  | swagger2 =>
    have hfront : Code "export interface definitions ".toList := code_ofList (by decide)
    have hbody : Code ('\n' :: (members ++ ['\n'])) :=
      .cons (by decide) (h.append (.of_bare (by decide)))
    have hmodule := code_banner.append (hfront.append hbody.braces)
    change Code (banner ++ "export interface definitions \x7b\n".toList ++ members ++
      "\n\x7d".toList)
    rw [show "export interface definitions ".toList = _ from String.toList_ofList] at hmodule
    rw [show "export interface definitions \x7b\n".toList = _ from String.toList_ofList,
      show "\n\x7d".toList = _ from String.toList_ofList]
    simpa only [List.cons_append, List.nil_append, List.append_assoc] using hmodule
  | openapi3 =>
    have hfront : Code "export interface components ".toList := code_ofList (by decide)
    -- the members stand between two pairs of braces
    have hschemas : Code "\n  schemas: ".toList := code_ofList (by decide)
    have hinner : Code ('\n' :: (members ++ ['\n', ' ', ' '])) :=
      .cons (by decide) (h.append (.of_bare (by decide)))
    have hbody : Code ("\n  schemas: ".toList ++ _ ++ ['\n']) :=
      (hschemas.append hinner.braces).append (.of_bare (by decide))
    have hmodule := code_banner.append (hfront.append hbody.braces)
    change Code (banner ++ "export interface components \x7b\n  schemas: \x7b\n".toList ++
      members ++ "\n  \x7d\n\x7d".toList)
    rw [show "export interface components ".toList = _ from String.toList_ofList,
      show "\n  schemas: ".toList = _ from String.toList_ofList] at hmodule
    rw [show "export interface components \x7b\n  schemas: \x7b\n".toList = _
        from String.toList_ofList,
      show "\n  \x7d\n\x7d".toList = _ from String.toList_ofList]
    simpa only [List.cons_append, List.nil_append, List.append_assoc] using hmodule

theorem marker_infix_moduleHead (d : Dialect) : marker <:+: moduleHead d := by
  delta marker
  rw [show "export interface ".toList = _ from String.toList_ofList]
  cases d with
  | swagger2 =>
    change _ <:+: banner ++ "export interface definitions \x7b\n".toList
    rw [show "export interface definitions \x7b\n".toList = _ from String.toList_ofList]
    exact ⟨banner, _, List.append_assoc _ _ _⟩
  | openapi3 =>
    change _ <:+: banner ++ "export interface components \x7b\n  schemas: \x7b\n".toList
    rw [show "export interface components \x7b\n  schemas: \x7b\n".toList = _
      from String.toList_ofList]
    exact ⟨banner, _, List.append_assoc _ _ _⟩

/-- **The check accepts every generated module** whose rendered pointers have roots
without braces, quotes and slashes. -/
theorem check_moduleText (d : Dialect) (schemas : Entries)
    (h : ∀ e ∈ schemas, PointerRoots d IsBareRoot e.2) :
    check (moduleText d schemas) = .ok () := by
  refine (code_module d (code_membersText _ h)).check ?_
  exact ((marker_infix_moduleHead d).trans (List.infix_append' [] _ _)).trans
    (List.infix_append' [] _ _)

/-- Schemas with everything in their texts that could confuse the check. -/
def hostileSchemas : Entries :=
  [(.str "/*'", .map
    [(.str "description", .str "Ends */ early, \x7b"),
     (.str "properties", .map
       [(.str "a\x7b\"/*", .map [(.str "enum", .list [.str "\x7d'", .str "\\"])]),
        (.str "owner", .map [(.str "$ref", .str "#/definitions/O\x7b")])])])]

/-- The module with all of that in it passes the check. -/
theorem check_moduleText_hostileSchemas :
    (∀ e ∈ hostileSchemas, PointerRoots .swagger2 IsBareRoot e.2) ∧
      check (moduleText .swagger2 hostileSchemas) = .ok () := by
  have hroots : ∀ e ∈ hostileSchemas, PointerRoots .swagger2 IsBareRoot e.2 := by
    intro e he
    obtain rfl := List.mem_singleton.1 he
    refine forall_rendered_iff.2 ⟨fun path h => (nomatch h), fun v hv => ?_⟩
    rcases List.mem_cons.1 (show v ∈ [_, _] from hv) with rfl | hv
    · exact forall_rendered_iff.2 ⟨fun path h => (nomatch h), fun w hw => nomatch hw⟩
    · obtain rfl := List.mem_singleton.1 hv
      refine forall_rendered_iff.2 ⟨fun path h => ?_, fun w hw => nomatch hw⟩
      obtain rfl : "#/definitions/O\x7b".toList = path := Shape.ref.inj h
      decide
  exact ⟨hroots, check_moduleText .swagger2 _ hroots⟩

end ApiTypes.TypeScript

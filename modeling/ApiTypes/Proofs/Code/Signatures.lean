import ApiTypes.Proofs.Code.Module
import ApiTypes.Proofs.TypeScript.Pieces

/-!
# The members of a generated module

What a module declares can be read back without knowing how it was made. A reader steps
over comments and literals as the check does, keeps count of the braces, and notes every
name in double quotes with a colon or with a question mark and a colon behind it
(`ApiTypes.TypeScript.signaturesAt`).

At the depth at which a member stands, its type shows nothing, since members inside of it
stand between braces, literal types have other quotes, and behind an index key there is a
bracket. Pieces of code like that are *quiet* (`ApiTypes.TypeScript.Quiet`), and the text of
every type is (`ApiTypes.TypeScript.TypeExpr.Formed.quiet`, by induction on the type).

| code | what the reader finds at its depth | theorem |
|---|---|---|
| any that is deeper inside | nothing | `ApiTypes.TypeScript.signatures_code_append` |
| a comment | nothing | `ApiTypes.TypeScript.signatures_comment` |
| a member | its name and its mark | `ApiTypes.TypeScript.signatures_member` |
| a module | the named schemas, in order | `ApiTypes.TypeScript.signaturesAt_moduleText` |
-/

namespace ApiTypes.TypeScript

open Output Schema

/-! ### Reading signatures -/

/-- What a character does to the depth of braces. -/
def shift (c : Char) : ℤ := if c = '{' then 1 else if c = '}' then -1 else 0

/-- What follows the name of a property signature: a colon, or a question mark and a colon. The
value is whether the question mark is there. -/
def readColon? : List Lexeme → Option Bool
  | .plain ':' :: _ => some false
  | .plain '?' :: .plain ':' :: _ => some true
  | _ => none

/-- The signature whose name a token is, when it stands in double quotes and is followed by a
colon. -/
def signature? (token : Text) (ls : List Lexeme) : Option (Text × Bool) :=
  if token.head? = some '"' then (readColon? ls).map fun optional => (token, optional) else none

/-- The signatures at brace depth `depth`, where `now` is the depth at the front. -/
def signatures (depth : ℤ) : ℤ → List Lexeme → List (Text × Bool)
  | _, [] => []
  | now, .plain c :: ls => signatures depth (now + shift c) ls
  | now, .token t :: ls =>
    (if now = depth then (signature? t ls).toList else []) ++ signatures depth now ls

/-- **The property signatures of some code at a brace depth**: their names as they are written,
and whether there is a question mark behind them. -/
def signaturesAt (depth : ℤ) (code : Text) : List (Text × Bool) := signatures depth 0 (lexemes code)

variable {depth now : ℤ} {ls ms : List Lexeme} {t : Text}

/-- The depth behind some characters, where `now` is the depth in front of them. -/
def depthAfter (now : ℤ) (t : Text) : ℤ := t.foldl (fun n c => n + shift c) now

theorem signatures_plain_append (t : Text) (now : ℤ) (ls : List Lexeme) :
    signatures depth now (t.map .plain ++ ls) = signatures depth (depthAfter now t) ls := by
  induction t generalizing now with
  | nil => rfl
  | cons c t ih =>
    rw [List.map_cons, List.cons_append, signatures, ih]
    rfl

theorem signatures_token {t : Text} (h : now = depth → signature? t ls = none) :
    signatures depth now (.token t :: ls) = signatures depth now ls := by
  rw [signatures]
  split
  · next hnow => rw [h hnow]; rfl
  · rfl

theorem shift_eq_zero {c : Char} (h : IsBare c) : shift c = 0 := by
  simp only [IsBare, List.mem_cons, List.not_mem_nil, not_or] at h
  rw [shift, if_neg h.1, if_neg h.2.1]

theorem depthAfter_of_bare (h : ∀ c ∈ t, IsBare c) : depthAfter now t = now := by
  induction t with
  | nil => rfl
  | cons c t ih =>
    rw [depthAfter, List.foldl_cons, shift_eq_zero (h c (by simp)), Int.add_zero]
    exact ih fun d hd => h d (by simp [hd])

/-! ### Code at a greater depth -/

/-- What stands between braces is read one level deeper, and behind them the level is that of
before. -/
theorem signatures_braces_append {t : Text} (ht : Closed t)
    (hinside : ∀ ms, signatures depth (now + 1) (lexemes t ++ ms) = signatures depth (now + 1) ms)
    (ls : List Lexeme) :
    signatures depth now (lexemes ('{' :: (t ++ ['}'])) ++ ls) = signatures depth now ls := by
  have hopen : shift '{' = 1 := rfl
  have hclose : shift '}' = -1 := rfl
  have hlexeme : lexemes ['}'] = [.plain '}'] := lexemes_of_plain (by decide)
  rw [lexemes_cons_of_plain (by decide), ht, hlexeme, List.cons_append, List.append_assoc,
    signatures, hopen, hinside, List.singleton_append, signatures, hclose, Int.add_neg_cancel_right]

/-- **Deeper inside, nothing is read**: code with its braces in pairs has no signature at a
smaller depth than where it begins. -/
theorem signatures_code_append {t : Text} (h : Code t) (hnow : depth < now) (ls : List Lexeme) :
    signatures depth now (lexemes t ++ ls) = signatures depth now ls := by
  induction h generalizing now ls with
  | nil => rw [lexemes_nil, List.nil_append]
  | @bare c hc =>
    rw [lexemes_of_plain (by simpa using hc.isPlain), signatures_plain_append,
      depthAfter_of_bare (by simpa using hc)]
  | literal t hq =>
    rw [lexemes_quote hq]
    exact signatures_token fun h => by omega
  | comment ht =>
    rw [lexemes_comment ht]
    exact signatures_token fun h => by omega
  | append ht _ iht ihu => rw [ht.closed, List.append_assoc, iht hnow, ihu hnow]
  | braces ht ih => exact signatures_braces_append ht.closed (fun ms => ih (by omega) ms) ls

/-! ### Pieces without signatures of their own -/

/-- **Pieces without signatures of their own**: read at some depth they leave it as it is and
show no signature there, whatever follows. -/
def Quiet (ls : List Lexeme) : Prop :=
  ∀ (depth now : ℤ) (ms : List Lexeme), depth ≤ now →
    signatures depth now (ls ++ ms) = signatures depth now ms

namespace Quiet

theorem nil : Quiet [] := fun _ _ _ _ => rfl

theorem append (hl : Quiet ls) (hm : Quiet ms) : Quiet (ls ++ ms) := by
  intro depth now ns hnow
  rw [List.append_assoc, hl _ _ _ hnow, hm _ _ _ hnow]

theorem of_bare (h : ∀ c ∈ t, IsBare c) : Quiet (t.map .plain) := by
  intro depth now ms _
  rw [signatures_plain_append, depthAfter_of_bare h]

/-- Quiet pieces between characters without meaning to the check. -/
theorem between_bare {t u : Text} (ht : ∀ c ∈ t, IsBare c) (hl : Quiet ls)
    (hu : ∀ c ∈ u, IsBare c) : Quiet (t.map .plain ++ (ls ++ u.map .plain)) :=
  (of_bare ht).append (hl.append (of_bare hu))

/-- A token in other than double quotes. -/
theorem token (h : t.head? ≠ some '"') : Quiet [.token t] := by
  intro depth now ms _
  exact signatures_token fun _ => if_neg h

/-- An index key: a bracket follows it, and no colon. -/
theorem indexKey (k : Text) : Quiet [.plain '[', .token (quoteKey k), .plain ']'] := by
  intro depth now ms _
  have hkey : signature? (quoteKey k) (.plain ']' :: ms) = none := if_pos rfl
  have hopen : now + shift '[' = now := Int.add_zero now
  have hclose : now + shift ']' = now := Int.add_zero now
  rw [List.cons_append, List.cons_append, List.cons_append, List.nil_append, signatures, hopen,
    signatures_token fun _ => hkey, signatures, hclose]

theorem keyLexemes (keys : List Text) : Quiet (keyLexemes keys) := by
  induction keys with
  | nil => exact nil
  | cons k keys ih =>
    rw [TypeScript.keyLexemes, List.flatMap_cons]
    exact (indexKey k).append ih

/-- Code between braces is deeper inside. -/
theorem braces (h : Code t) : Quiet (lexemes ('{' :: (t ++ ['}']))) := by
  intro depth now ms hnow
  exact signatures_braces_append h.closed (signatures_code_append h (by omega)) ms

theorem object (h : Code t) : Quiet (lexemes (Written.object t)) := by
  have hend : Code [' '] := .of_bare (by decide)
  have hbraces := braces (.cons (c := ' ') (by decide) (h.append hend))
  simpa [Written.object] using hbraces

/-- The operands of a union or an intersection, up to the parenthesis behind the last one. -/
theorem operands {op : Char} (hop : IsBare op) {ts : List Text}
    (ht : ∀ t ∈ ts, Closed t ∧ Quiet (lexemes t)) :
    Quiet (lexemes (Text.join (between op) ts ++ [')'])) := by
  have hend : Quiet ([')'].map .plain) := of_bare (by decide)
  have hbetween : ∀ c ∈ between op, IsBare c := by
    intro c hc
    simp only [between, List.mem_cons, List.not_mem_nil, or_false] at hc
    rcases hc with rfl | rfl | rfl | rfl | rfl
    all_goals first | exact hop | decide
  induction ts with
  | nil =>
    rw [Text.join, List.nil_append, lexemes_of_plain (by decide)]
    exact hend
  | cons t ts ih =>
    obtain ⟨hclosed, hquiet⟩ := ht t (by simp)
    cases ts with
    | nil =>
      rw [Text.join, lexemes_append_plain hclosed (by decide)]
      exact hquiet.append hend
    | cons u us =>
      rw [lexemes_operands hop.isPlain hclosed]
      have hrest := ih fun v hv => ht v (List.mem_cons_of_mem _ hv)
      exact hquiet.append ((of_bare hbetween).append hrest)

theorem wrapped {op : Char} (hop : IsBare op) {ts : List Text}
    (ht : ∀ t ∈ ts, Closed t ∧ Quiet (lexemes t)) : Quiet (lexemes (Written.wrapped op ts)) := by
  have hall : Quiet (lexemes ('(' :: (Text.join (between op) ts ++ [')']))) := by
    rw [lexemes_cons_of_plain (by decide)]
    exact (of_bare (t := ['(']) (by decide)).append (operands hop ht)
  -- a single operand stands without parentheses
  match ts with
  | [t] => exact (ht t (by simp)).2
  | [] => exact hall
  | _ :: _ :: _ => exact hall

end Quiet

/-- **The text of a type shows no signature**: what members it has stand between braces. -/
theorem TypeExpr.Formed.quiet {t : TypeExpr} {void : Prop} (h : t.Formed IsBareRoot void) :
    Quiet (lexemes t.text) := by
  have hcode : ∀ {t : TypeExpr}, t.Formed IsBareRoot void → Code t.text := fun ht =>
    ht.code fun r hr => .of_bare hr
  induction h with
  | nothing =>
    rw [text, lexemes_nil]
    exact .nil
  | name keys hr =>
    rw [text, lexemes_indexed fun c hc => (hr c hc).isPlain]
    exact (Quiet.of_bare hr).append (.keyLexemes keys)
  | literal value =>
    rw [text, quoteLiteral, lexemes_quote (.inr rfl)]
    exact .token (by simp [quote])
  | union _ _ ht ih =>
    rw [text, texts_eq_map]
    refine .wrapped (by decide) ?_
    simpa using fun t hmem => ⟨(hcode (ht t hmem)).closed, ih t hmem⟩
  | intersection _ _ ht ih =>
    rw [text, texts_eq_map]
    refine .wrapped (by decide) ?_
    simpa using fun t hmem => ⟨(hcode (ht t hmem)).closed, ih t hmem⟩
  | array ht ih =>
    rw [text, lexemes_array (hcode ht).closed]
    exact Quiet.between_bare (t := ['(']) (by decide) ih (by decide)
  | partially ht ih =>
    rw [text, lexemes_partially (hcode ht).closed, List.append_assoc]
    exact Quiet.between_bare (by decide) ih (by decide)
  | nullable ht ih =>
    rw [text, lexemes_nullable (hcode ht).closed]
    exact Quiet.between_bare (t := ['(']) (by decide) ih (by decide)
  | openObject =>
    have hinside : Code (' ' :: (Written.indexHead ++ Written.any ++ [' '])) :=
      .of_bare (by decide)
    simpa [text, Written.openObject] using Quiet.braces hinside
  | block hcomment hms hindex =>
    refine .object (code_inside hcomment (fun m hm => hcode (hms m hm)) fun t ht => ?_)
    exact hcode (hindex t ht)

/-! ### The members of a block -/

theorem signatures_comment {t : Text} (h : IsComment t) (ls : List Lexeme) :
    signatures depth now (lexemes t ++ ls) = signatures depth now ls := by
  rcases h with rfl | ⟨description, rfl⟩
  · rw [lexemes_nil, List.nil_append]
  · have hblock : lexemes (docComment description) =
        [.token (docBlock description), .plain '\n'] := by
      simpa using lexemes_docComment_append description []
    have hline : now + shift '\n' = now := Int.add_zero now
    rw [hblock, List.cons_append, List.singleton_append, signatures_token fun _ => rfl, signatures,
      hline]

theorem signature?_quoteKey (name : Text) (optional : Bool) (ls : List Lexeme) :
    signature? (quoteKey name) (markLexemes optional ++ .plain ':' :: ls) =
      some (quoteKey name, optional) := by
  cases optional <;> rfl

/-- What stands behind the name of a member, from its mark to the end of its line. -/
theorem signatures_behind {u : List Lexeme} (optional : Bool) (hu : Quiet u) (ls : List Lexeme) :
    signatures depth depth (markLexemes optional ++ (.plain ':' :: .plain ' ' :: (u ++
      (.plain ';' :: .plain '\n' :: ls)))) = signatures depth depth ls := by
  have hmark : Quiet (markLexemes optional) := by
    cases optional
    · exact .nil
    · exact Quiet.of_bare (t := ['?']) (by decide)
  have hcolon : Quiet ([':', ' '].map .plain) := .of_bare (by decide)
  have hend : Quiet ([';', '\n'].map .plain) := .of_bare (by decide)
  have hall := (hmark.append (hcolon.append (hu.append hend))) depth depth ls (Int.le_refl _)
  simpa only [List.append_assoc, List.map_cons, List.map_nil, List.cons_append,
    List.nil_append] using hall

/-- **A member is read back as it was written**, and nothing else in it is. -/
theorem signatures_member {m : Member TypeExpr} {void : Prop} (hcomment : IsComment m.comment)
    (htype : m.type.Formed IsBareRoot void) (ms : List (Member TypeExpr)) (ls : List Lexeme) :
    signatures depth depth (lexemes (TypeExpr.membersText (m :: ms)) ++ ls) =
      (quoteKey m.name, m.optional) ::
        signatures depth depth (lexemes (TypeExpr.membersText ms) ++ ls) := by
  have hcode : Code m.type.text := htype.code fun r hr => .of_bare hr
  rw [lexemes_membersText_cons hcomment hcode, List.append_assoc, signatures_comment hcomment,
    List.cons_append, signatures, if_pos rfl]
  simp only [List.append_assoc, List.cons_append]
  rw [signature?_quoteKey, signatures_behind _ htype.quiet]
  rfl

theorem signatures_membersText {ms : List (Member TypeExpr)} {void : Prop}
    (hcomment : ∀ m ∈ ms, IsComment m.comment)
    (htype : ∀ m ∈ ms, m.type.Formed IsBareRoot void) (ls : List Lexeme) :
    signatures depth depth (lexemes (TypeExpr.membersText ms) ++ ls) =
      ms.map (fun m => (quoteKey m.name, m.optional)) ++ signatures depth depth ls := by
  induction ms with
  | nil => rw [TypeExpr.membersText, lexemes_nil, List.nil_append, List.map_nil, List.nil_append]
  | cons m ms ih =>
    rw [signatures_member (hcomment m (by simp)) (htype m (by simp)),
      ih (fun n hn => hcomment n (by simp [hn])) fun n hn => htype n (by simp [hn]),
      List.map_cons, List.cons_append]

/-! ### The members of a module -/

/-- The depth at which the members of a module stand: between the braces of the interface, and
in OpenAPI 3 between those of its schemas too. -/
def memberDepth : Dialect → ℤ
  | .swagger2 => 1
  | .openapi3 => 2

/-- **The text of a named schema in a module**: its comment, its name and its type. -/
def entryText (d : Dialect) (key schema : Value) : Text :=
  commentOf (Node.ofValue schema) ++
    Written.property key.text false (propertyType d (Node.ofValue schema) (typeOf d schema)).text

/-- The head of a module opens as many braces as its members stand deep. -/
theorem moduleHead_eq (d : Dialect) : ∃ opening, moduleHead d = banner ++ opening ∧
    (∀ c ∈ opening, IsPlain c) ∧ depthAfter 0 opening = memberDepth d := by
  cases d with
  | swagger2 =>
    refine ⟨"export interface definitions \x7b\n".toList, rfl, ?_⟩
    rw [show "export interface definitions \x7b\n".toList = _ from String.toList_ofList]
    decide
  | openapi3 =>
    refine ⟨"export interface components \x7b\n  schemas: \x7b\n".toList, rfl, ?_⟩
    rw [show "export interface components \x7b\n  schemas: \x7b\n".toList = _
      from String.toList_ofList]
    decide

theorem isPlain_moduleTail (d : Dialect) : ∀ c ∈ moduleTail d, IsPlain c := by
  cases d with
  | swagger2 =>
    change ∀ c ∈ "\n\x7d".toList, IsPlain c
    rw [show "\n\x7d".toList = _ from String.toList_ofList]
    decide
  | openapi3 =>
    change ∀ c ∈ "\n  \x7d\n\x7d".toList, IsPlain c
    rw [show "\n  \x7d\n\x7d".toList = _ from String.toList_ofList]
    decide

theorem closed_moduleHead (d : Dialect) : Closed (moduleHead d) := by
  obtain ⟨opening, h, hplain, -⟩ := moduleHead_eq d
  rw [h]
  exact code_banner.closed.append (closed_of_plain hplain)

theorem signatures_banner (ls : List Lexeme) :
    signatures depth now (lexemes banner ++ ls) = signatures depth now ls := by
  have hcomment : Closed ('/' :: '*' :: (bannerBody ++ ['*', '/'])) :=
    closed_comment not_hasPair_bannerBody
  have hblank : now + shift '\n' + shift '\n' = now := by simp [shift]
  rw [banner_eq, hcomment, lexemes_comment not_hasPair_bannerBody, lexemes_of_plain (by decide),
    List.append_assoc, List.singleton_append, signatures_token fun _ => rfl, List.map_cons,
    List.map_singleton, List.cons_append, signatures, List.singleton_append, signatures, hblank]

theorem signatures_moduleHead (d : Dialect) (ls : List Lexeme) :
    signatures depth 0 (lexemes (moduleHead d) ++ ls) = signatures depth (memberDepth d) ls := by
  obtain ⟨opening, h, hplain, hdepth⟩ := moduleHead_eq d
  rw [h, code_banner.closed, lexemes_of_plain hplain, List.append_assoc, signatures_banner,
    signatures_plain_append, hdepth]

theorem signatures_moduleTail (d : Dialect) (now : ℤ) :
    signatures depth now (lexemes (moduleTail d)) = [] := by
  rw [lexemes_of_plain (isPlain_moduleTail d), ← List.append_nil (List.map _ _),
    signatures_plain_append, signatures]

/-- The members of a module are all required, since their own names are listed for it. -/
theorem membersOf_names (d : Dialect) (schemas : Entries) :
    membersOf d (typeOf d) schemas (schemas.map fun e => e.1.text) =
      schemas.map fun e => { memberOf d (typeOf d) [] e.1 e.2 with optional := false } := by
  refine List.map_congr_left fun e he => ?_
  have hname : e.1.text ∈ schemas.map fun e => e.1.text := List.mem_map.2 ⟨e, he, rfl⟩
  simp [memberOf, hname]

theorem moduleMembers_eq (d : Dialect) (schemas : Entries) :
    moduleMembers d schemas = schemas.flatMap fun e => entryText d e.1 e.2 := by
  rw [moduleMembers, membersText, membersOf_names]
  induction schemas with
  | nil => rfl
  | cons e schemas ih =>
    rw [List.map_cons, TypeExpr.membersText, ih, List.flatMap_cons]
    rfl

/-- **A module has exactly one member for each named schema**, in their order. Its text is a
head, the texts of the named schemas, each of which depends on its own name and schema only,
and a tail; and the signatures that are read back at the depth of its members are the quoted
names, none with a question mark, whatever stands in names, literals and descriptions. -/
theorem signaturesAt_moduleText (d : Dialect) (schemas : Entries)
    (h : ∀ e ∈ schemas, PointerRoots d IsBareRoot e.2) :
    moduleText d schemas =
        moduleHead d ++ (schemas.flatMap fun e => entryText d e.1 e.2) ++ moduleTail d ∧
      signaturesAt (memberDepth d) (moduleText d schemas) =
        schemas.map fun e => (quoteKey e.1.text, false) := by
  have htype : ∀ e ∈ schemas, (typeOf d e.2).Formed IsBareRoot True := fun e he =>
    formed_typeOf (by decide) (fun _ => trivial) e.2 (h e he) fun _ => trivial
  have hmembers : Closed (moduleMembers d schemas) := (code_membersText _ h).closed
  refine ⟨by rw [moduleText, moduleMembers_eq], ?_⟩
  rw [signaturesAt, moduleText, List.append_assoc, closed_moduleHead, hmembers,
    signatures_moduleHead, moduleMembers, membersText, signatures_membersText
      (fun m hm => isComment_of_mem_membersOf hm) (fun m hm => formed_of_mem_membersOf htype hm),
    signatures_moduleTail, membersOf_names, List.append_nil, List.map_map]
  rfl

/-- Two schemas, the first with a description, a property and a literal that look like members,
braces and the end of a comment. -/
def deceptiveSchemas : Entries :=
  [(.str "A", .map
    [(.str "description", .str "*/ \"fake\": \x7b"),
     (.str "properties", .map
       [(.str "b", .map [(.str "description", .str "\x7d \"fake\": "),
          (.str "enum", .list [.str "\x7d \"fake\": ", .str "'"])])])]),
   (.str "\"B\":", .map [(.str "$ref", .str "#/components/schemas/A")])]

/-- Only the two named schemas are members of their module. -/
theorem signaturesAt_deceptiveSchemas :
    (∀ e ∈ deceptiveSchemas, PointerRoots .openapi3 IsBareRoot e.2) ∧
      moduleText .openapi3 deceptiveSchemas =
        moduleHead .openapi3 ++ (deceptiveSchemas.flatMap fun e => entryText .openapi3 e.1 e.2) ++
          moduleTail .openapi3 ∧
      signaturesAt 2 (moduleText .openapi3 deceptiveSchemas) =
        [(quoteKey "A".toList, false), (quoteKey "\"B\":".toList, false)] := by
  have hroots : ∀ e ∈ deceptiveSchemas, PointerRoots .openapi3 IsBareRoot e.2 := by
    intro e he
    rcases List.mem_cons.1 he with rfl | he
    · refine forall_rendered_iff.2 ⟨fun path h => (nomatch h), fun v hv => ?_⟩
      obtain rfl := List.mem_singleton.1 (show v ∈ [_] from hv)
      exact forall_rendered_iff.2 ⟨fun path h => (nomatch h), fun w hw => nomatch hw⟩
    · obtain rfl := List.mem_singleton.1 he
      refine forall_rendered_iff.2 ⟨fun path h => ?_, fun w hw => nomatch hw⟩
      obtain rfl : "#/components/schemas/A".toList = path := Shape.ref.inj h
      decide
  exact ⟨hroots, signaturesAt_moduleText .openapi3 deceptiveSchemas hroots⟩

end ApiTypes.TypeScript

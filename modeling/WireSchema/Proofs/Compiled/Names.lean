/-
WireSchema.Proofs.Compiled.Names — the text of a qualified name stands for that name alone.

Cutting a text at its points and joining a name with points undo each other, as long as no piece of the
name has a point inside. The grammar lets none into a declared name or into a namespace
(`Session.Declares.plain`), so the declared names of a session have different texts. The document of a
compiled session can use them as keys (`Session.Compiles.keys_typesJson`), and a file without namespace
reaches every declared type by its text (`Session.Declares.exists_resolve?`).

Main statement: `Session.typeName_text_faithful`.
-/
import Mathlib.Data.Set.Function
import WireSchema.Compiled.Document
import WireSchema.Proofs.Compiled.Closed
import WireSchema.Proofs.Session.Grammatical
import WireSchema.Proofs.Session.Resolution

namespace WireSchema

open WireSchema.Grammar (IsIdentifier)
open WireSchema.Outcome
open WireSchema.Resolved (Declaration)

/-! ## Members of documents -/

namespace Json

/-- A member of an object by its key. -/
def member? (key : String) : Json → Option Json
  | object members => members.lookup key
  | _ => none

/-- The keys of an object, in order. -/
def keys : Json → List String
  | object members => members.map (·.1)
  | _ => []

end Json

/-! ## Declared names -/

theorem Grammar.point_not_mem_of_isIdentifier {name : String} (h : IsIdentifier name) :
    '.' ∉ name.toList := by
  obtain ⟨first, rest, hname, hfirst, hrest⟩ := h
  rw [hname, List.mem_cons, not_or]
  constructor
  · rintro rfl
    exact absurd hfirst (by decide)
  · intro hmem
    exact absurd (hrest '.' hmem) (by decide)

/-- No type has the name of a primitive. -/
theorem SymbolTable.Built.ofName?_eq_none {file : SymbolTable} (h : file.Built) {name : String}
    {declared : Symbol.Declared} (hholds : file.Holds name declared) :
    Primitive.ofName? name = none := by
  obtain ⟨schema, hbuild⟩ := h
  obtain ⟨hbuildable, hfrom⟩ := builtFrom_of_build hbuild
  obtain ⟨d, hd, hmakes⟩ := (hfrom.holds name declared).mp hholds
  exact ((Source.Declaration.isSound_of_typeName? hmakes.typeName?).mp (hbuildable.sound d hd)).1

namespace Session

variable {session : Session} {texts : List (String × String)} {n : TypeName}

section

variable (hregister : registerTexts {} texts = .ok session) {declared : Symbol.Declared}
  (h : session.Declares n declared)

include hregister h

/-- No piece of a declared name has a point inside. -/
theorem Declares.plain : ∀ piece ∈ n.path ++ [n.name], '.' ∉ piece.toList := by
  obtain ⟨file, hfile, hpath, hfind⟩ := h
  have hgrammatical := grammatical_of_registerTexts hregister file hfile
  intro piece hpiece
  rw [List.mem_append, List.mem_singleton] at hpiece
  refine Grammar.point_not_mem_of_isIdentifier ?_
  rcases hpiece with hpiece | rfl
  · exact hgrammatical.scopePath piece (hpath ▸ hpiece)
  · exact hgrammatical.typeName _ declared (SymbolTable.holds_of_find? hfind)

theorem Declares.ofText_text : TypeName.ofText n.text = n :=
  TypeName.ofText_text (h.plain hregister)

/-- The text of a declared name is no primitive's name. -/
theorem Declares.ofName?_text : Primitive.ofName? n.text = none := by
  have hname := h.ofText_text hregister
  obtain ⟨file, hfile, _, hfind⟩ := h
  have hprimitives : ∀ p : Primitive, '.' ∉ p.name.toList := by
    intro p
    cases p <;> decide
  cases hp : Primitive.ofName? n.text with
  | none => rfl
  | some p =>
    -- a primitive's name has no point, so it would be the local name of a global type
    have htext : p.name = n.text := Primitive.ofName?_eq_some_iff.mp hp
    rw [← htext, TypeName.ofText_of_plain (hprimitives p)] at hname
    have hnone := (built_of_registerTexts hregister file hfile).ofName?_eq_none
      (SymbolTable.holds_of_find? hfind)
    rw [← hname, Primitive.ofName?_name] at hnone
    cases hnone

/-- A file of the global namespace reaches a declared type by its text. -/
theorem Declares.exists_resolve? {path : String} {file : SymbolTable}
    (hfile : session.file? path = some file) (hglobal : file.namespacePath = none) :
    ∃ found, Scope.resolve? ⟨session, file⟩ n.text = some (n, found) ∧
      Scope.Supplies ⟨session, file⟩ n found := by
  have hbuilt := built_of_registerTexts hregister
  have hmem : file ∈ session.files.values := OrderedMap.mem_values_iff.mpr ⟨path, hfile⟩
  have hscope : file.scopePath = [] := by simp [SymbolTable.scopePath, hglobal]
  have hunder : Scope.under ⟨session, file⟩ n 0 = n := by simp [Scope.under]
  obtain ⟨found, hlookup⟩ : ∃ found, Scope.lookup? ⟨session, file⟩ n = some found := by
    obtain ⟨other, hother, hpath, hfind⟩ := h
    refine (Scope.exists_lookup?_iff hbuilt ?_).mpr
      ⟨other, hother, declared, hpath, SymbolTable.holds_of_find? hfind⟩
    exact hmem
  have hsupplies : Scope.Supplies ⟨session, file⟩ n found :=
    (Scope.lookup?_eq_some_iff_supplies hbuilt hmem).mp hlookup
  refine ⟨found, ?_, hsupplies⟩
  -- the empty path is the only prefix to look under
  rw [Scope.resolve?_eq_search? (h.ofName?_text hregister), Scope.search?_eq,
    h.ofText_text hregister]
  simp [hscope, hunder, hlookup]

end

theorem text_injOn_declares (hregister : registerTexts {} texts = .ok session) :
    Set.InjOn TypeName.text {n | ∃ declared, session.Declares n declared} := by
  rintro n ⟨declared, hn⟩ m ⟨other, hm⟩ heq
  rw [← hn.ofText_text hregister, heq, hm.ofText_text hregister]

/-! ## Keys of the document -/

/-- The types of a document stand under the texts of their names, in emission order. -/
theorem Compiles.keys_typesJson {settings : CompilerSettings} {compiled : Compiled}
    {declarations : OrderedMap TypeName Declaration}
    (h : session.Compiles settings declarations compiled) :
    ∃ types, compiled.toJson.member? "types" = some types ∧
      types.keys = compiled.order.map TypeName.text := by
  refine ⟨_, rfl, ?_⟩
  rw [Json.keys, ← h.keys, OrderedMap.keys, List.map_map, List.map_map]
  rfl

theorem Compiles.exists_declares_of_mem_order {settings : CompilerSettings} {compiled : Compiled}
    {declarations : OrderedMap TypeName Declaration}
    (h : session.Compiles settings declarations compiled) (hn : n ∈ compiled.order) :
    ∃ declared, session.Declares n declared := by
  rw [← h.keys, OrderedMap.mem_keys_iff] at hn
  obtain ⟨entry, hentry⟩ := hn
  obtain ⟨file, hfile, declared, hpath, hfind, _⟩ := h.exists_source hentry
  exact ⟨declared, file, hfile, hpath, hfind⟩

/-- **Texts of names.** Every text is the text of the name it is cut into, and a name without points
inside its pieces is cut out of its own text. So, in a session of registered texts, declared names with
one text are the same name, the types of the document have different keys, and in a file without
namespace the text of a declared name stands for that name. -/
theorem typeName_text_faithful (hregister : registerTexts {} texts = .ok session) :
    (∀ written, (TypeName.ofText written).text = written) ∧
    (∀ n : TypeName, (∀ piece ∈ n.path ++ [n.name], '.' ∉ piece.toList) →
      TypeName.ofText n.text = n) ∧
    Set.InjOn TypeName.text {n | ∃ declared, session.Declares n declared} ∧
    (∀ settings compiled, session.compile settings = .ok compiled →
      ∃ types, compiled.toJson.member? "types" = some types ∧
        types.keys = compiled.order.map TypeName.text ∧ types.keys.Nodup) ∧
    ∀ path file, session.file? path = some file → file.namespacePath = none →
      ∀ n declared, session.Declares n declared →
        ∃ found, Scope.resolve? ⟨session, file⟩ n.text = some (n, found) ∧
          Scope.Supplies ⟨session, file⟩ n found := by
  refine ⟨TypeName.text_ofText, fun n => TypeName.ofText_text, text_injOn_declares hregister, ?_, ?_⟩
  · intro settings compiled hcompile
    obtain ⟨declarations, h⟩ := compiles_of_compile (built_of_registerTexts hregister) hcompile
    obtain ⟨types, htypes, hkeys⟩ := h.keys_typesJson
    have hnodup : (compiled.order.map TypeName.text).Nodup :=
      (h.resolves.nodup_order h.order).map_on fun n hn m hm heq =>
        text_injOn_declares hregister (h.exists_declares_of_mem_order hn)
          (h.exists_declares_of_mem_order hm) heq
    exact ⟨types, htypes, hkeys, hkeys ▸ hnodup⟩
  · intro path file hfile hglobal n declared hn
    exact hn.exists_resolve? hregister hfile hglobal

/-- One local name in three namespaces, one of them the global one. -/
def jettyTexts : List (String × String) :=
  [("jetty", "table Berth {} table Quay { own: Berth; far: sea.dock.Berth; }"),
   ("dock", "namespace sea.dock; table Berth {}"), ("sea", "namespace sea; struct Berth { x: int; }")]

def jettySession : Session :=
  ((registerTexts {} jettyTexts).toOption).getD {}

theorem jetty_texts_faithful :
    registerTexts {} jettyTexts = .ok jettySession ∧
    TypeName.ofText "sea.dock.Berth" = ⟨["sea", "dock"], "Berth"⟩ ∧
    (∃ compiled types, jettySession.compile {} = .ok compiled ∧
      compiled.toJson.member? "types" = some types ∧
      types.keys = ["Berth", "sea.dock.Berth", "sea.Berth", "Quay"] ∧ types.keys.Nodup) ∧
    ∃ file found, jettySession.file? "jetty" = some file ∧ file.namespacePath = none ∧
      Scope.resolve? ⟨jettySession, file⟩ "sea.dock.Berth" =
        some (⟨["sea", "dock"], "Berth"⟩, found) := by
  obtain ⟨hregisters, horder, hjetty, hdock⟩ :
      (registerTexts {} jettyTexts).toOption.isSome = true ∧
      ((jettySession.compile {}).toOption.map (·.order.map TypeName.text)) =
        some ["Berth", "sea.dock.Berth", "sea.Berth", "Quay"] ∧
      ((jettySession.file? "jetty").map (·.namespacePath)) = some none ∧
      ((jettySession.file? "dock").bind fun file => (file.find? "Berth").map fun declared =>
        (file.scopePath, declared.kind)) = some (["sea", "dock"], Kind.table) := by decide +kernel
  have hregister : registerTexts {} jettyTexts = .ok jettySession := eq_ok_getD hregisters
  obtain ⟨compiled, hcompiled, horder⟩ := Option.map_eq_some_iff.mp horder
  obtain ⟨jetty, hfile, hglobal⟩ := Option.map_eq_some_iff.mp hjetty
  obtain ⟨dock, hdock, hfound⟩ := Option.bind_eq_some_iff.mp hdock
  obtain ⟨declared, hfind, heq⟩ := Option.map_eq_some_iff.mp hfound
  obtain ⟨_, hcut, _, hdocument, hresolves⟩ := typeName_text_faithful hregister
  have hcompile := eq_ok_of_toOption hcompiled
  obtain ⟨types, htypes, hkeys, hnodup⟩ := hdocument {} compiled hcompile
  have hdeclares : jettySession.Declares ⟨["sea", "dock"], "Berth"⟩ declared :=
    ⟨dock, OrderedMap.mem_values_iff.mpr ⟨_, hdock⟩, (Prod.mk.inj heq).1, hfind⟩
  obtain ⟨found, hfound, _⟩ := hresolves "jetty" jetty hfile hglobal _ declared hdeclares
  exact ⟨hregister, hcut ⟨["sea", "dock"], "Berth"⟩ (by decide),
    ⟨compiled, types, hcompile, htypes, hkeys.trans horder, hnodup⟩,
    jetty, found, hfile, hglobal, hfound⟩

end Session

end WireSchema

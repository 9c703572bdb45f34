/-
WireSchema.Proofs.Compiled.Calls — layouts of the declarations of a session, called for in any order.

The rules of a session leave only alignments that divide the number of words, so every cached layout is
the reference layout in machine words (`LayoutCache.Sound`), whatever calls came before. It is the
reference layout itself exactly where its size is a word. No rule bounds sizes: four structs in one,
twenty-eight times over, come out with size zero (`LayoutCache.ladder_not_reference`).

Main statement: `LayoutCache.run_resolve_afterCalls`.
-/
import WireSchema.Proofs.Compiled.Closed
import WireSchema.Proofs.Compiled.Exact

namespace WireSchema

open WireSchema.Outcome
open WireSchema.Resolved (Declaration)

namespace LayoutCache

/-- **Calls.** Let declarations of a verified session be called for in any order, with repeats and too
early. A call that succeeds gives the one reference layout of its declaration in machine words, which is
that layout exactly where its size is a word, and caches that alone. A call for a declaration that is
cached succeeds and leaves the cache as it is; one for another declaration fails exactly when a type
held in place is not cached, and then the cache stays as it is. -/
theorem run_resolve_afterCalls {session : Session} {settings : CompilerSettings}
    {declarations : OrderedMap TypeName Declaration} {discriminant : Primitive}
    (h : Resolved.declarations session = .ok declarations)
    (hrules : Rules.session session settings = .ok ())
    (hdiscriminant : discriminant.isDiscriminant = true) {calls : List Declaration}
    (hcalls : ∀ d ∈ calls, d ∈ declarations.values) {d : Declaration}
    (hd : d ∈ declarations.values) :
    let cache := afterCalls ⟨discriminant, {}⟩ calls
    (∀ layout after, (resolve d).run cache = .ok layout after →
      (∃ exact, (∀ other, ReferenceLayout declarations.get? discriminant d other ↔ other = exact) ∧
        layout = exact.wrap ∧ (layout = exact ↔ exact.size < Wire.wordCount)) ∧
      ∀ name, after.layouts.get? name =
        if name = d.name then some layout else cache.layouts.get? name) ∧
    (∀ layout, cache.layouts.get? d.name = some layout → (resolve d).run cache = .ok layout cache) ∧
    (cache.layouts.get? d.name = none →
      ((∃ fault after, (resolve d).run cache = .error fault after) ↔
        ∃ f ∈ d.inlineFields, cache.layouts.get? f.type.name = none)) ∧
    ∀ fault after, (resolve d).run cache = .error fault after →
      (Error.internal fault).kind = .internal ∧ after = cache := by
  intro cache
  have hown : ∀ d ∈ declarations.values, declarations.get? d.name = some d := by
    intro d hd
    obtain ⟨name, hname⟩ := OrderedMap.mem_values_iff.mp hd
    rwa [Resolved.declarations_name h hname]
  have hwords := Resolved.alignsToWords_of_rules h hrules
  have hsound : Sound declarations.get? discriminant cache :=
    Sound.empty.afterCalls hwords hdiscriminant fun d hd => hown d (hcalls d hd)
  refine ⟨?_, ?_, ?_, ?_⟩
  · intro layout after hcall
    obtain ⟨⟨exact, hexact, rfl⟩, _⟩ := hsound.run_resolve hwords hdiscriminant (hown d hd) hcall
    refine ⟨⟨exact, fun other => ⟨hexact.unique, fun heq => heq ▸ hexact⟩, rfl,
      hexact.wrap_eq_self_iff⟩, fun name => ?_⟩
    rcases run_resolve_eq_ok_iff.mp hcall with ⟨hcached, rfl⟩ | ⟨_, _, _, rfl⟩
    · split
      · rename_i heq
        rw [heq, hcached]
      · rfl
    · exact OrderedMap.get?_insert _ _ _ _
  · intro layout hcached
    exact run_resolve_eq_ok_iff.mpr (.inl ⟨hcached, rfl⟩)
  · intro hnew
    rw [run_resolve_error_iff]
    simp only [hnew, Ready, true_and, OrderedMap.get?_eq_none_iff, not_forall, exists_prop]
  · intro fault after hfault
    exact ⟨rfl, eq_of_run_resolve_eq_error hfault⟩

/-- A call with a result also leaves a cache. -/
theorem exists_run_of_run' {d : Declaration} {cache : LayoutCache} {layout : Layout}
    (h : (resolve d).run' cache = some layout) :
    ∃ after, (resolve d).run cache = .ok layout after := by
  delta EStateM.run' at h
  split at h
  · rename_i hrun
    cases h
    exact ⟨_, hrun⟩
  · cases h

/-! A table that holds a struct and a union, where the struct holds an enum. -/

def hue : Declaration :=
  .enum ⟨⟨[], "Hue"⟩, .ubyte, [⟨"Red", 0⟩], []⟩

def dot : Declaration :=
  .struct ⟨⟨[], "Dot"⟩, [⟨"hue", ⟨⟨[], "Hue"⟩, .enum⟩, false, none, []⟩,
    ⟨"x", ⟨⟨[], "int"⟩, .primitive .int⟩, false, none, []⟩], [.forceAlign 8], some 8⟩

def scene : Declaration :=
  .table ⟨⟨[], "Scene"⟩, [⟨"old", ⟨⟨[], "Hue"⟩, .enum⟩, false, none, [.deprecated]⟩,
    ⟨"any", ⟨⟨[], "Any"⟩, .union⟩, false, none, []⟩,
    ⟨"dot", ⟨⟨[], "Dot"⟩, .struct⟩, false, none, []⟩,
    ⟨"all", ⟨⟨[], "Scene"⟩, .table⟩, true, none, []⟩], [], none⟩

def sceneDeclarations : OrderedMap TypeName Declaration where
  entries :=
    [(⟨[], "Hue"⟩, hue), (⟨[], "Dot"⟩, dot),
     (⟨[], "Any"⟩, .union ⟨⟨[], "Any"⟩, [⟨[], "Scene"⟩], []⟩), (⟨[], "Scene"⟩, scene)]
  nodup := by decide

/-- A verified session with these declarations. -/
def sceneSession : Session :=
  ((Session.registerTexts {} [("scene",
    "enum Hue: ubyte { Red } struct Dot (force_align: 8) { hue: Hue; x: int; } union Any { Scene }
     table Scene { old: Hue (deprecated); any: Any; dot: Dot; all: [Scene]; }")]).toOption).getD {}

/-- Called for first, the table fails and leaves no trace; after its struct was called for too early
and then again, it has its layout. -/
theorem run_resolve_scene :
    Rules.session sceneSession {} = .ok () ∧
    Resolved.declarations sceneSession = .ok sceneDeclarations ∧
    (∃ fault, (resolve scene).run (afterCalls ⟨.ubyte, {}⟩ [scene, dot, hue]) =
      .error fault (afterCalls ⟨.ubyte, {}⟩ [scene, dot, hue])) ∧
    ∃ exact, ReferenceLayout sceneDeclarations.get? .ubyte scene exact ∧
      exact.wrap = ⟨8, 32, some [(1, 8), (2, 16), (3, 24)], [(1, 4)]⟩ := by
  have hrules : Rules.session sceneSession {} = .ok () := eq_ok_of_toOption (by decide +kernel)
  have hdeclarations : Resolved.declarations sceneSession = .ok sceneDeclarations :=
    eq_ok_of_toOption (by decide +kernel)
  have hscene : scene ∈ sceneDeclarations.values := by decide
  have hubyte : Primitive.ubyte.isDiscriminant = true := by decide
  refine ⟨hrules, hdeclarations, ?_, ?_⟩
  · obtain ⟨_, _, hfails, hkept⟩ := run_resolve_afterCalls hdeclarations hrules hubyte
      (by decide : ∀ d ∈ [scene, dot, hue], d ∈ sceneDeclarations.values) hscene
    obtain ⟨fault, after, hcall⟩ := (hfails (by decide)).mpr (by decide)
    obtain ⟨_, rfl⟩ := hkept fault after hcall
    exact ⟨fault, hcall⟩
  · obtain ⟨hreference, _⟩ := run_resolve_afterCalls hdeclarations hrules hubyte
      (by decide : ∀ d ∈ [scene, dot, hue, dot], d ∈ sceneDeclarations.values) hscene
    obtain ⟨after, hcall⟩ := exists_run_of_run' (by decide :
      (resolve scene).run' (afterCalls ⟨.ubyte, {}⟩ [scene, dot, hue, dot]) =
        some ⟨8, 32, some [(1, 8), (2, 16), (3, 24)], [(1, 4)]⟩)
    obtain ⟨⟨exact, honly, hwrap, _⟩, _⟩ := hreference _ after hcall
    exact ⟨exact, (honly exact).mpr rfl, hwrap.symm⟩

/-- Among declarations that are all called for in order, the last rung of the ladder is laid out with
no bytes at all, which no reference layout is. -/
theorem ladder_not_reference : ∃ declarations d layout after,
    Rules.session (Session.ladderSession []) {} = .ok () ∧
    Resolved.declarations (Session.ladderSession []) = .ok declarations ∧
    declarations.get? ⟨[], "c"⟩ = some d ∧
    (resolve d).run (afterCalls ⟨.ubyte, {}⟩ declarations.values) = .ok layout after ∧
    layout = ⟨256, 0, none, []⟩ ∧ ¬ ReferenceLayout declarations.get? .ubyte d layout := by
  obtain ⟨hverifies, hlays⟩ : (Rules.session (Session.ladderSession []) {}).toOption = some () ∧
      ((Resolved.declarations (Session.ladderSession [])).toOption.bind fun declarations =>
        (declarations.get? ⟨[], "c"⟩).map fun d =>
          ((resolve d).run' (afterCalls ⟨.ubyte, {}⟩ declarations.values),
            declarations.values.all fun d => !d.fields.isEmpty)) =
        some (some ⟨256, 0, none, []⟩, true) := by
    decide +kernel
  obtain ⟨declarations, hdeclared, hlays⟩ := Option.bind_eq_some_iff.mp hlays
  obtain ⟨d, hd, hfacts⟩ := Option.map_eq_some_iff.mp hlays
  obtain ⟨hcall, hfields⟩ := Prod.mk.inj hfacts
  obtain ⟨after, hcall⟩ := exists_run_of_run' hcall
  have hrules := eq_ok_of_toOption hverifies
  have hdeclarations := eq_ok_of_toOption hdeclared
  refine ⟨declarations, d, _, after, hrules, hdeclarations, hd, hcall, rfl, fun hreference => ?_⟩
  have hproper := hreference.isProper (fun name s hs => ?_) hd
  · exact absurd hproper.size_pos (by decide)
  · have hs' := List.all_eq_true.mp hfields _ (OrderedMap.mem_values_iff.mpr ⟨name, hs⟩)
    refine ⟨fun hnone => by simp [Resolved.Declaration.fields, hnone] at hs', fun bytes hbytes =>
      (Resolved.forceAlign_of_rules hdeclarations hrules hs hbytes).1⟩

end LayoutCache

end WireSchema

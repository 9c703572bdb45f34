/-
WireSchema.Proofs.Session.Listed — the files of a session after registration.

Registering reads file after file and keeps them in order under distinct paths: `registerWith_eq_ok_iff`.
So the files of a session are what the registered texts declare (`Session.readFrom_of_registerTexts`),
every one of them is built (`Session.built_of_registerTexts`), and its declaration order lists exactly
the names it declares (`SymbolTable.Listed`, `Session.listed_of_registerTexts`).
-/
import Mathlib.Data.List.Forall2
import WireSchema.Proofs.SymbolTable.Build
import WireSchema.Session

namespace WireSchema

open WireSchema.Outcome

namespace SymbolTable

variable {file : SymbolTable}

/-- The declaration order lists exactly the declared names. -/
def Listed (file : SymbolTable) : Prop :=
  ∀ name, name ∈ file.declarationOrder ↔ ∃ declared, file.find? name = some declared

theorem Built.listed (h : file.Built) : file.Listed := by
  intro name
  simp only [h.mem_declarationOrder_iff, h.find?_eq_some_iff]

theorem ofText_eq_ok_iff {text : String} : ofText text = .ok file ↔
    ∃ tokens schema, Token.scan text = .ok tokens ∧ Source.parse tokens = .ok schema ∧
      build schema = .ok file := by
  simp only [ofText, bind_eq_ok_iff, mapError_eq_ok_iff, exists_and_left]

theorem built_of_ofText {text : String} (h : ofText text = .ok file) : file.Built := by
  obtain ⟨_, schema, _, _, hbuild⟩ := ofText_eq_ok_iff.mp h
  exact ⟨schema, hbuild⟩

end SymbolTable

namespace Session

variable {session after : Session}

theorem eq_of_entries (h : session.files.entries = after.files.entries) : session = after :=
  congrArg Session.mk (OrderedMap.eq_of_entries h)

theorem register_eq_ok_iff {path : String} {file : SymbolTable} :
    session.register path file = .ok after ↔
      path ∉ session.files.keys ∧ after.files.entries = session.files.entries ++ [(path, file)] := by
  unfold register
  split
  · rename_i hknown
    simp [OrderedMap.contains_iff.mp hknown]
  · rename_i hnew
    rw [OrderedMap.contains_iff] at hnew
    rw [← OrderedMap.entries_insert_fresh file hnew]
    simp only [hnew, not_false_eq_true, true_and, Except.ok.injEq]
    constructor
    · rintro rfl
      rfl
    · intro hentries
      exact eq_of_entries hentries.symm

/-- Reads files in order and adds each under its path. -/
def registerWith {α : Type} (read : α → Except Error SymbolTable) (session : Session)
    (items : List (String × α)) : Except Error Session :=
  items.foldlM (fun session item => do session.register item.1 (← read item.2)) session

theorem registerTexts_eq (session : Session) (texts : List (String × String)) :
    session.registerTexts texts = session.registerWith SymbolTable.ofText texts :=
  rfl

/-- Registering succeeds when every file can be read and no path repeats. -/
theorem registerWith_eq_ok_iff {α : Type} {read : α → Except Error SymbolTable}
    {items : List (String × α)} :
    session.registerWith read items = .ok after ↔
      ∃ added, List.Forall₂ (fun item entry => item.1 = entry.1 ∧ read item.2 = .ok entry.2)
        items added ∧ after.files.entries = session.files.entries ++ added := by
  induction items generalizing session with
  | nil =>
    simp only [registerWith, List.foldlM_nil, List.forall₂_nil_left_iff, exists_eq_left,
      List.append_nil]
    constructor
    · intro h
      rw [Except.ok.inj h]
    · intro hentries
      rw [eq_of_entries hentries]
      rfl
  | cons item rest ih =>
    simp only [registerWith, List.foldlM_cons, bind_eq_ok_iff, List.forall₂_cons_left_iff] at ih ⊢
    constructor
    · rintro ⟨next, ⟨file, hread, hregister⟩, hrest⟩
      obtain ⟨_, hnext⟩ := register_eq_ok_iff.mp hregister
      obtain ⟨added, hadded, hentries⟩ := ih.mp hrest
      exact ⟨(item.1, file) :: added, ⟨_, added, ⟨rfl, hread⟩, hadded, rfl⟩,
        by simp [hentries, hnext]⟩
    · rintro ⟨_, ⟨⟨path, file⟩, added, ⟨rfl, hread⟩, hadded, rfl⟩, hentries⟩
      have hnodup := after.files.nodup
      simp only [hentries, List.map_append, List.map_cons] at hnodup
      have hnew : item.1 ∉ session.files.keys := fun hmem =>
        (List.nodup_append.mp hnodup).2.2 _ hmem _ List.mem_cons_self rfl
      refine ⟨⟨session.files.insert item.1 file⟩, ⟨file, hread, register_eq_ok_iff.mpr
        ⟨hnew, OrderedMap.entries_insert_fresh file hnew⟩⟩, ih.mpr ⟨added, hadded, ?_⟩⟩
      rw [hentries, OrderedMap.entries_insert_fresh file hnew, List.append_assoc]
      rfl

/-- The files of a session are, one by one, what the schemas of the texts declare. -/
def ReadFrom (session : Session) (texts : List (String × String)) : Prop :=
  List.Forall₂ (fun item entry => item.1 = entry.1 ∧ ∃ tokens schema,
    Token.scan item.2 = .ok tokens ∧ Source.parse tokens = .ok schema ∧
      Source.Buildable schema ∧ SymbolTable.BuiltFrom schema entry.2) texts session.files.entries

theorem readFrom_of_registerTexts {texts : List (String × String)}
    (h : registerTexts {} texts = .ok session) : session.ReadFrom texts := by
  rw [registerTexts_eq, registerWith_eq_ok_iff] at h
  obtain ⟨added, hadded, hentries⟩ := h
  rw [ReadFrom, hentries]
  refine hadded.imp fun item entry hread => ⟨hread.1, ?_⟩
  obtain ⟨tokens, schema, hscan, hparse, hbuild⟩ := SymbolTable.ofText_eq_ok_iff.mp hread.2
  exact ⟨tokens, schema, hscan, hparse, SymbolTable.builtFrom_of_build hbuild⟩

theorem exists_ofText_of_registerTexts {texts : List (String × String)}
    (h : registerTexts {} texts = .ok session) :
    ∀ file ∈ session.files.values, ∃ text, SymbolTable.ofText text = .ok file := by
  rw [registerTexts_eq, registerWith_eq_ok_iff] at h
  obtain ⟨added, hadded, hentries⟩ := h
  intro file hfile
  obtain ⟨entry, hentry, rfl⟩ := List.mem_map.mp hfile
  rw [hentries] at hentry
  obtain ⟨item, _, _, hread⟩ := exists_of_forall₂_of_mem hadded hentry
  exact ⟨item.2, hread⟩

/-- Every file of a session of registered texts was built. -/
theorem built_of_registerTexts {texts : List (String × String)}
    (h : registerTexts {} texts = .ok session) : ∀ file ∈ session.files.values, file.Built := by
  intro file hfile
  obtain ⟨text, hread⟩ := exists_ofText_of_registerTexts h file hfile
  exact SymbolTable.built_of_ofText hread

/-- Every file of a session of registered texts lists what it declares. -/
theorem listed_of_registerTexts {texts : List (String × String)}
    (h : registerTexts {} texts = .ok session) : ∀ file ∈ session.files.values, file.Listed :=
  fun file hfile => (built_of_registerTexts h file hfile).listed

end Session

end WireSchema

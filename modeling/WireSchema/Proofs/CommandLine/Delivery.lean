/-
WireSchema.Proofs.CommandLine.Delivery — a run writes the code of all its files, or nothing.

Everything a run does before it writes leaves the files as they are (`Desk.OnlyReads`), and ends with
the code of each file (`Prepares`, `result_prepare_eq_ok_iff`). The output paths are compared next
(`outputPaths_eq_ok_iff`). Then the output directory is made and the files are put into it one by one
(`Desk.receive`), each at a place of its own.

Main statement: `execute_delivers_all_or_nothing`.
-/
import WireSchema.CommandLine.Run
import WireSchema.Proofs.Compiled.Files
import WireSchema.Proofs.Files.Tree

namespace WireSchema

open WireSchema.Outcome

/-! ## Output names -/

namespace CommandLine

open WireSchema.Path (IsProper)

variable {directory path : String}

/-- The stem of a schema file with underscores for hyphens and points. -/
def outputStem (path : String) : String :=
  (Path.stem path).map fun c => if c == '-' || c == '.' then '_' else c

theorem toList_outputStem (path : String) : (outputStem path).toList =
    (Path.stem path).toList.map fun c => if c == '-' || c == '.' then '_' else c :=
  String.toList_map

/-- The name of the file of code for a schema file. -/
def outputName (path : String) : String :=
  outputStem path ++ ".rs"

theorem outputPath_eq (directory path : String) :
    outputPath directory path = Path.join directory (outputName path) :=
  rfl

theorem outputPath_inj {other : String} :
    outputPath directory path = outputPath directory other ↔ outputStem path = outputStem other := by
  rw [outputPath_eq, outputPath_eq, Path.join_inj, outputName, outputName, String.append_left_inj]

/-- The file of code for a schema file that can be read has a name that leads one step down. -/
theorem isProper_outputName {tree : FileTree} {text : String} (h : tree.readText path = .ok text) :
    IsProper (outputName path) := by
  obtain ⟨front, name, hnames, hname⟩ := FileTree.exists_name_of_readText h
  have hend : (outputName path).toList = (outputStem path).toList ++ ['.', 'r', 's'] := by
    simp [outputName]
  have hne : ∀ short : String, short.toList.length < 3 → outputName path ≠ short := by
    rintro short hshort rfl
    rw [hend, List.length_append] at hshort
    exact absurd hshort (by simp)
  refine ⟨?_, hne ".." (by decide), ?_⟩
  · simp [Path.staysPut, hne "" (by decide), hne "." (by decide)]
  · rw [hend, toList_outputStem, Path.stem_of_names hnames hname]
    intro hmem
    rw [List.mem_append, List.mem_map] at hmem
    rcases hmem with ⟨c, hc, hslash⟩ | hmem
    · split at hslash
      · exact absurd hslash (by decide)
      · subst hslash
        rcases Path.mem_of_mem_withoutExtension hc with hpoint | hc
        · exact absurd hpoint (by decide)
        · exact hname.plain hc
    · exact absurd hmem (by decide)

/-- Output paths are found while none was taken before. -/
theorem outputPathsFrom_eq_ok_iff {taken : List (String × String)} {paths outputs : List String} :
    outputPathsFrom directory taken paths = .ok outputs ↔
      outputs = paths.map (outputPath directory) ∧ outputs.Nodup ∧
        ∀ output ∈ outputs, output ∉ taken.map (·.1) := by
  induction paths generalizing taken outputs with
  | nil =>
    simp only [outputPathsFrom, Except.ok.injEq, List.map_nil]
    constructor
    · rintro rfl
      simp
    · rintro ⟨rfl, _⟩
      rfl
  | cons path rest ih =>
    have htaken : taken.lookup (outputPath directory path) = none ↔
        outputPath directory path ∉ taken.map (·.1) := by
      rw [List.lookup_eq_none_iff, List.mem_map, not_exists]
      refine forall_congr' fun entry => ?_
      rw [not_and, bne_iff_ne, ne_comm]
    simp only [outputPathsFrom, List.map_cons]
    cases hlookup : taken.lookup (outputPath directory path) with
    | some other =>
      have hmem : outputPath directory path ∈ taken.map (·.1) := by
        by_contra hnew
        rw [htaken.mpr hnew] at hlookup
        cases hlookup
      constructor
      · intro h
        cases h
      · rintro ⟨rfl, _, hfree⟩
        exact absurd hmem (hfree _ List.mem_cons_self)
    | none =>
      have hnew := htaken.mp hlookup
      simp only [map_eq_ok_iff, bind_pure_comp, ih, List.map_cons, List.mem_cons, not_or]
      -- the new output joins the taken ones, which is what keeps it from coming again
      constructor
      · rintro ⟨_, ⟨rfl, hnodup, hfree⟩, rfl⟩
        refine ⟨rfl, List.nodup_cons.mpr ⟨fun hmem => (hfree _ hmem).1 rfl, hnodup⟩, ?_⟩
        rw [List.forall_mem_cons]
        exact ⟨hnew, fun output houtput => (hfree output houtput).2⟩
      · rintro ⟨rfl, hnodup, hfree⟩
        rw [List.nodup_cons] at hnodup
        rw [List.forall_mem_cons] at hfree
        refine ⟨_, ⟨rfl, hnodup.2, fun output houtput => ⟨?_, hfree.2 output houtput⟩⟩, rfl⟩
        rintro rfl
        exact hnodup.1 houtput

/-- There are output paths exactly when no two stems are rewritten alike. -/
theorem outputPaths_eq_ok_iff {paths outputs : List String} :
    outputPaths directory paths = .ok outputs ↔
      outputs = paths.map (outputPath directory) ∧ (paths.map outputStem).Nodup := by
  have hstems : (paths.map (outputPath directory)).Nodup ↔ (paths.map outputStem).Nodup := by
    simp only [List.Nodup, List.pairwise_map, ne_eq, outputPath_inj]
  rw [outputPaths, outputPathsFrom_eq_ok_iff]
  constructor
  · rintro ⟨rfl, hnodup, _⟩
    exact ⟨rfl, hstems.mp hnodup⟩
  · rintro ⟨rfl, hnodup⟩
    exact ⟨rfl, hstems.mpr hnodup, by simp⟩

end CommandLine

/-! ## Steps of a run -/

namespace Desk

open CommandLine

variable {α β : Type} {desk after : Desk} {x : ExceptT Error (StateM Desk) α}
  {f : α → ExceptT Error (StateM Desk) β}

/-- What a step ends with and what it leaves behind. -/
def perform (desk : Desk) (x : ExceptT Error (StateM Desk) α) : Except Error α × Desk :=
  x.run.run desk

/-- What a step ends with. -/
def result (desk : Desk) (x : ExceptT Error (StateM Desk) α) : Except Error α :=
  (desk.perform x).1

theorem perform_bind_of_ok {a : α} (h : desk.perform x = (.ok a, after)) :
    desk.perform (x >>= f) = after.perform (f a) := by
  rw [perform] at h
  rw [perform, ExceptT.run_bind, run_bind_of_run h]
  rfl

theorem perform_bind_of_error {e : Error} (h : desk.perform x = (.error e, after)) :
    desk.perform (x >>= f) = (.error e, after) := by
  rw [perform] at h
  rw [perform, ExceptT.run_bind, run_bind_of_run h]
  rfl

/-- A step that leaves the desk as it is. -/
def OnlyReads (x : ExceptT Error (StateM Desk) α) : Prop :=
  ∀ desk : Desk, (desk.perform x).2 = desk

theorem OnlyReads.perform_eq (h : OnlyReads x) (desk : Desk) :
    desk.perform x = (desk.result x, desk) :=
  Prod.ext rfl (h desk)

theorem OnlyReads.bind (hx : OnlyReads x) (hf : ∀ a, OnlyReads (f a)) : OnlyReads (x >>= f) := by
  intro desk
  have hperform := hx.perform_eq desk
  cases hresult : desk.result x with
  | error e =>
    rw [hresult] at hperform
    rw [perform_bind_of_error hperform]
  | ok a =>
    rw [hresult] at hperform
    rw [perform_bind_of_ok hperform]
    exact hf a desk

theorem OnlyReads.result_bind (hx : OnlyReads x) :
    desk.result (x >>= f) = desk.result x >>= fun a => desk.result (f a) := by
  have hperform := hx.perform_eq desk
  cases hresult : desk.result x with
  | error e =>
    rw [hresult] at hperform
    rw [result, perform_bind_of_error hperform]
    rfl
  | ok a =>
    rw [hresult] at hperform
    rw [result, perform_bind_of_ok hperform]
    rfl

theorem onlyReads_pure (a : α) : OnlyReads (pure a) :=
  fun _ => rfl

theorem onlyReads_demand (r : Except Error α) : OnlyReads (demand r) :=
  fun _ => rfl

theorem onlyReads_readText (path : String) : OnlyReads (attempt (Host.readText path)) :=
  fun _ => rfl

theorem perform_demand (r : Except Error α) : desk.perform (demand r) = (r, desk) :=
  rfl

theorem result_demand (r : Except Error α) : desk.result (demand r) = r :=
  rfl

theorem result_readText (path : String) :
    desk.result (attempt (Host.readText path)) = (desk.tree.readText path).mapError .io :=
  rfl

section

variable {step : β → α → ExceptT Error (StateM Desk) β} (h : ∀ b a, OnlyReads (step b a))

include h

theorem onlyReads_foldlM (items : List α) (b : β) : OnlyReads (items.foldlM step b) := by
  induction items generalizing b with
  | nil => exact onlyReads_pure b
  | cons a rest ih =>
    rw [List.foldlM_cons]
    exact (h b a).bind ih

theorem result_foldlM (items : List α) (b : β) :
    desk.result (items.foldlM step b) = items.foldlM (fun b a => desk.result (step b a)) b := by
  induction items generalizing b with
  | nil => rfl
  | cons a rest ih =>
    rw [List.foldlM_cons, (h b a).result_bind, List.foldlM_cons]
    simp only [ih]

end

end Desk

/-! ## Before anything is written -/

namespace CommandLine

open WireSchema.Desk (OnlyReads onlyReads_demand onlyReads_pure onlyReads_readText)

variable {invocation : Invocation} {desk : Desk} {settings : Settings}
  {texts generated : List (String × String)} {compiled : Compiled}

/-- What a run makes of its files: its settings, the texts it reads, and what they compile to. -/
structure Prepares (invocation : Invocation) (desk : Desk) (settings : Settings)
    (texts : List (String × String)) (compiled : Compiled) : Prop where
  configured : desk.result (runSettings invocation) = .ok settings
  read : List.Forall₂ (fun path entry => entry.1 = path ∧ desk.tree.readText path = .ok entry.2)
    invocation.files texts
  compiles : ∃ session, Session.registerTexts {} texts = .ok session ∧
    session.compile settings.compiler = .ok compiled

/-- The part of a run that emits code, up to its output. -/
def prepare {m : Type → Type} [Monad m] [Host m] (invocation : Invocation) :
    ExceptT Error m (List (String × String)) := do
  let settings ← runSettings invocation
  let compiled ← compileFiles invocation.files settings.compiler
  demand (Code.generate compiled settings.code)

theorem onlyReads_runSettings (invocation : Invocation) :
    OnlyReads (runSettings (m := StateM Desk) invocation) := by
  unfold runSettings
  split
  · rw [← bind_pure_comp]
    exact ((onlyReads_readText _).bind fun _ => onlyReads_demand _).bind fun _ => onlyReads_pure _
  · exact onlyReads_pure _

/-- One file is read and registered. -/
theorem onlyReads_registerFile (session : Session) (path : String) :
    OnlyReads (do demand (session.registerText path (← attempt (Host.readText path)))) :=
  (onlyReads_readText path).bind fun _ => onlyReads_demand _

theorem onlyReads_compileFiles (paths : List String) (settings : CompilerSettings) :
    OnlyReads (compileFiles (m := StateM Desk) paths settings) :=
  (Desk.onlyReads_foldlM onlyReads_registerFile paths {}).bind fun _ => onlyReads_demand _

theorem onlyReads_prepare (invocation : Invocation) :
    OnlyReads (prepare (m := StateM Desk) invocation) :=
  (onlyReads_runSettings invocation).bind fun settings =>
    (onlyReads_compileFiles invocation.files settings.compiler).bind fun _ => onlyReads_demand _

/-- Reading and registering in turn is reading all, then registering all, as far as it succeeds. -/
theorem foldlM_registerFile_eq_ok_iff {paths : List String} {session last : Session} :
    paths.foldlM (fun (session : Session) path => desk.result (do
        demand (session.registerText path (← attempt (Host.readText path))))) session = .ok last ↔
      ∃ texts, List.Forall₂ (fun path entry => entry.1 = path ∧
        desk.tree.readText path = .ok entry.2) paths texts ∧
          session.registerTexts texts = .ok last := by
  induction paths generalizing session with
  | nil =>
    simp only [List.forall₂_nil_left_iff, exists_eq_left]
    rfl
  | cons path rest ih =>
    rw [List.foldlM_cons, (onlyReads_readText path).result_bind, Desk.result_readText]
    simp only [bind_eq_ok_iff, mapError_eq_ok_iff, Desk.result_demand, ih,
      List.forall₂_cons_left_iff]
    constructor
    · rintro ⟨next, ⟨text, htext, hnext⟩, texts, hread, hrest⟩
      exact ⟨(path, text) :: texts, ⟨_, texts, ⟨rfl, htext⟩, hread, rfl⟩,
        bind_eq_ok_iff.mpr ⟨next, hnext, hrest⟩⟩
    · rintro ⟨_, ⟨⟨_, text⟩, texts, ⟨rfl, htext⟩, hread, rfl⟩, hregister⟩
      obtain ⟨next, hnext, hrest⟩ := bind_eq_ok_iff.mp hregister
      exact ⟨next, ⟨text, htext, hnext⟩, texts, hread, hrest⟩

theorem result_compileFiles_eq_ok_iff {paths : List String} {settings : CompilerSettings} :
    desk.result (compileFiles paths settings) = .ok compiled ↔
      ∃ texts, List.Forall₂ (fun path entry => entry.1 = path ∧
        desk.tree.readText path = .ok entry.2) paths texts ∧
          ∃ session, Session.registerTexts {} texts = .ok session ∧
            session.compile settings = .ok compiled := by
  rw [compileFiles, (Desk.onlyReads_foldlM onlyReads_registerFile paths {}).result_bind,
    Desk.result_foldlM onlyReads_registerFile, bind_eq_ok_iff]
  simp only [foldlM_registerFile_eq_ok_iff, Desk.result_demand]
  constructor
  · rintro ⟨session, ⟨texts, hread, hregister⟩, hcompile⟩
    exact ⟨texts, hread, session, hregister, hcompile⟩
  · rintro ⟨texts, hread, session, hregister, hcompile⟩
    exact ⟨session, ⟨texts, hread, hregister⟩, hcompile⟩

theorem result_prepare_eq_ok_iff : desk.result (prepare invocation) = .ok generated ↔
    ∃ settings texts compiled, Prepares invocation desk settings texts compiled ∧
      Code.generate compiled settings.code = .ok generated := by
  rw [prepare, (onlyReads_runSettings invocation).result_bind, bind_eq_ok_iff]
  simp only [(onlyReads_compileFiles _ _).result_bind, bind_eq_ok_iff, result_compileFiles_eq_ok_iff,
    Desk.result_demand]
  constructor
  · rintro ⟨settings, hsettings, compiled, ⟨texts, hread, hcompiles⟩, hgenerate⟩
    exact ⟨settings, texts, compiled, ⟨hsettings, hread, hcompiles⟩, hgenerate⟩
  · rintro ⟨settings, texts, compiled, ⟨hsettings, hread, hcompiles⟩, hgenerate⟩
    exact ⟨settings, hsettings, compiled, ⟨texts, hread, hcompiles⟩, hgenerate⟩

section

variable (h : Prepares invocation desk settings texts compiled)

include h

theorem Prepares.exists_readText {path : String} (hpath : path ∈ invocation.files) :
    ∃ text, desk.tree.readText path = .ok text := by
  obtain ⟨entry, _, _, htext⟩ := exists_of_forall₂_of_mem h.read.flip hpath
  exact ⟨entry.2, htext⟩

/-- The compiled files are those of the run, in order. -/
theorem Prepares.map_path_files : compiled.files.map (·.path) = invocation.files := by
  obtain ⟨session, hregister, hcompile⟩ := h.compiles
  obtain ⟨declarations, hcompiles⟩ :=
    Session.compiles_of_compile (Session.built_of_registerTexts hregister) hcompile
  have hregistered := Session.readFrom_of_registerTexts hregister
  have hkeys : texts.map (·.1) = session.files.entries.map (·.1) :=
    map_eq_map_of_forall₂ (hregistered.imp fun _ _ hread => hread.1)
  have hpaths : invocation.files.map id = texts.map (·.1) :=
    map_eq_map_of_forall₂ (h.read.imp fun _ _ hread => hread.1.symm)
  rw [hcompiles.map_path_files, OrderedMap.keys, ← hkeys, ← hpaths, List.map_id]

/-- The code of a run stands under the paths of its files, each with its own. -/
theorem Prepares.of_generate (hgenerate : Code.generate compiled settings.code = .ok generated) :
    generated.map (·.1) = invocation.files ∧
      ∀ entry ∈ generated, Code.text compiled entry.1 settings.code = .ok entry.2 := by
  have hfiles : List.Forall₂ (fun (file : Compiled.File) (entry : String × String) =>
      file.path = entry.1 ∧ Code.text compiled entry.1 settings.code = .ok entry.2)
      compiled.files generated := by
    refine (mapM_eq_ok_iff.mp hgenerate).imp fun file entry hentry => ?_
    obtain ⟨code, hcode, heq⟩ := bind_eq_ok_iff.mp hentry
    cases heq
    exact ⟨rfl, hcode⟩
  refine ⟨?_, fun entry hentry => ?_⟩
  · rw [← h.map_path_files]
    exact (map_eq_map_of_forall₂ (hfiles.imp fun _ _ hentry => hentry.1)).symm
  · obtain ⟨_, _, _, hcode⟩ := exists_of_forall₂_of_mem hfiles hentry
    exact hcode

theorem Prepares.exists_generate_iff :
    (∃ generated, Code.generate compiled settings.code = .ok generated) ↔
      ∀ path ∈ invocation.files, ∃ code, Code.text compiled path settings.code = .ok code := by
  constructor
  · rintro ⟨generated, hgenerate⟩
    obtain ⟨hpaths, hcodes⟩ := h.of_generate hgenerate
    rw [← hpaths, List.forall_mem_map]
    exact fun entry hentry => ⟨entry.2, hcodes entry hentry⟩
  · intro hcodes
    refine exists_mapM_eq_ok_iff.mpr fun file hfile => ?_
    have hpath : file.path ∈ invocation.files := by
      rw [← h.map_path_files]
      exact List.mem_map_of_mem hfile
    obtain ⟨code, hcode⟩ := hcodes _ hpath
    exact ⟨(file.path, code), bind_eq_ok_iff.mpr ⟨code, hcode, rfl⟩⟩

end

end CommandLine

/-! ## Writing -/

/-- Files can be put into a directory under some names. -/
structure FileTree.Ready (directory : String) (home : Place) (names : List String)
    (tree : FileTree) : Prop where
  found : tree.locate directory = .ok home
  isDirectory : tree.node? home = some .directory
  free : ∀ name ∈ names, tree.node? (home ++ [name]) ≠ some .directory

namespace FileTree.Ready

open WireSchema.Path (IsProper)

variable {tree : FileTree} {directory name : String} {home : Place} {names : List String}
  (h : Ready directory home names tree) (hname : name ∈ names)

include h hname

theorem writeText (hdirectory : directory ≠ "") (hproper : IsProper name) (text : String) :
    tree.writeText (Path.join directory name) text =
      .ok (tree.put (home ++ [name]) (.file (some text))) :=
  FileTree.writeText_eq_ok_iff.mpr ⟨_, (FileTree.locate_join_iff hdirectory hproper).mpr
    ⟨home, h.found, h.isDirectory, rfl⟩, h.free name hname, rfl⟩

/-- A file in the directory is in the way of no other. -/
theorem put (text : String) :
    Ready directory home names (tree.put (home ++ [name]) (.file (some text))) where
  found := walk_mono (fun _ => node?_put_of_directory (h.free name hname)) h.found
  isDirectory := node?_put_of_directory (h.free name hname) h.isDirectory
  free other hother := by
    rw [node?_put (not_isFixed_of_ne (h.free name hname))]
    split
    · simp
    · exact h.free other hother

end FileTree.Ready

namespace Desk

open CommandLine

variable {desk : Desk} {directory : String} {home : Place} {codes : List (String × String)}

/-- Files can be written at paths once a directory is made. -/
def Admits (desk : Desk) (directory : String) (paths : List String) : Prop :=
  ∃ made : Desk, (Host.createDirectories directory : StateM Desk _).run desk = (.ok (), made) ∧
    ∀ path ∈ paths, ∀ text, ∃ tree, made.tree.writeText path text = .ok tree

/-- Whether a file can be written does not depend on its text. -/
theorem admits_of_writeText {paths : List String}
    (hmade : ((Host.createDirectories directory : StateM Desk _).run desk).1.toOption = some ())
    (h : ∀ path ∈ paths,
      (((Host.createDirectories directory : StateM Desk _).run desk).2.tree.writeText
        path "").toOption.isSome = true) : desk.Admits directory paths := by
  rcases hrun : (Host.createDirectories directory : StateM Desk _).run desk with ⟨result, made⟩
  rw [hrun] at hmade h
  obtain rfl : result = .ok () := eq_ok_of_toOption hmade
  refine ⟨made, hrun, fun path hpath text => ?_⟩
  obtain ⟨tree, htree⟩ := Option.isSome_iff_exists.mp (h path hpath)
  obtain ⟨place, hplace, hfree, _⟩ := FileTree.writeText_eq_ok_iff.mp (eq_ok_of_toOption htree)
  exact ⟨_, FileTree.writeText_eq_ok_iff.mpr ⟨place, hplace, hfree, rfl⟩⟩

/-- The line that reports where the code for a file went. -/
def reportLine (directory path : String) : String :=
  path ++ " → " ++ outputPath directory path ++ "\n"

/-- A desk after the code for one file was put into a directory. -/
def receive (directory : String) (home : Place) (desk : Desk) (entry : String × String) : Desk where
  tree := desk.tree.put (home ++ [outputName entry.1]) (.file (some entry.2))
  printed := desk.printed ++ reportLine directory entry.1

/-- Writes the code for one file, and prints where it went. -/
def deliverOne (directory : String) (entry : String × String) :
    ExceptT Error (StateM Desk) Unit := do
  attempt (Host.writeText (outputPath directory entry.1) entry.2)
  printLine (entry.1 ++ " → " ++ outputPath directory entry.1)

theorem perform_attempt {α : Type} (action : StateM Desk (Except IoFault α)) :
    desk.perform (attempt action) = ((action.run desk).1.mapError .io, (action.run desk).2) :=
  rfl

theorem perform_deliverOne {names : List String} (h : desk.tree.Ready directory home names)
    (hdirectory : directory ≠ "") {entry : String × String} (hname : outputName entry.1 ∈ names)
    (hproper : Path.IsProper (outputName entry.1)) :
    desk.perform (deliverOne directory entry) = (.ok (), desk.receive directory home entry) := by
  have hrun : (Host.writeText (outputPath directory entry.1) entry.2 : StateM Desk _).run desk =
      (.ok (), { desk with
        tree := desk.tree.put (home ++ [outputName entry.1]) (.file (some entry.2)) }) := by
    change (change fun tree => tree.writeText (outputPath directory entry.1) entry.2).run desk = _
    rw [run_change, outputPath_eq, h.writeText hname hdirectory hproper]
  rw [deliverOne, perform_bind_of_ok (by rw [perform_attempt, hrun]; rfl)]
  change (Except.ok (), _) = (Except.ok (), _)
  rw [receive, reportLine]

/-- A run of writes puts one file after the other into the directory. -/
theorem perform_forM_deliverOne {names : List String} (h : desk.tree.Ready directory home names)
    (hdirectory : directory ≠ "") (hnames : ∀ entry ∈ codes, outputName entry.1 ∈ names)
    (hproper : ∀ entry ∈ codes, Path.IsProper (outputName entry.1)) :
    desk.perform (codes.forM (deliverOne directory)) =
        (.ok (), codes.foldl (receive directory home) desk) ∧
      (codes.foldl (receive directory home) desk).tree.Ready directory home names := by
  induction codes generalizing desk with
  | nil => exact ⟨rfl, h⟩
  | cons entry rest ih =>
    rw [List.forall_mem_cons] at hnames hproper
    have hstep := perform_deliverOne h hdirectory hnames.1 hproper.1
    rw [List.forM_eq_forM, List.forM_cons, perform_bind_of_ok hstep, List.foldl_cons]
    exact ih (h.put hnames.1 entry.2) hnames.2 hproper.2

theorem node?_foldl_receive_of_ne (hproper : ∀ entry ∈ codes, Path.IsProper (outputName entry.1))
    {place : Place} (hne : ∀ entry ∈ codes, place ≠ home ++ [outputName entry.1]) :
    (codes.foldl (receive directory home) desk).tree.node? place = desk.tree.node? place := by
  induction codes generalizing desk with
  | nil => rfl
  | cons entry rest ih =>
    rw [List.forall_mem_cons] at hproper hne
    rw [List.foldl_cons, ih hproper.2 hne.2, receive,
      FileTree.node?_put (FileTree.not_isFixed_append home hproper.1), if_neg hne.1]

/-- Names of their own keep the files apart. -/
theorem node?_foldl_receive_of_mem (hproper : ∀ entry ∈ codes, Path.IsProper (outputName entry.1))
    (hnodup : (codes.map fun entry => outputName entry.1).Nodup) {entry : String × String}
    (hentry : entry ∈ codes) :
    (codes.foldl (receive directory home) desk).tree.node? (home ++ [outputName entry.1]) =
      some (.file (some entry.2)) := by
  induction codes generalizing desk with
  | nil => cases hentry
  | cons first rest ih =>
    rw [List.forall_mem_cons] at hproper
    rw [List.map_cons, List.nodup_cons] at hnodup
    rw [List.foldl_cons]
    rcases List.mem_cons.mp hentry with rfl | hentry
    · have hne : ∀ other ∈ rest, home ++ [outputName entry.1] ≠ home ++ [outputName other.1] := by
        intro other hother heq
        have hname : outputName entry.1 = outputName other.1 := by simpa using heq
        exact hnodup.1 (hname ▸ List.mem_map_of_mem hother)
      rw [node?_foldl_receive_of_ne hproper.2 hne, receive,
        FileTree.node?_put (FileTree.not_isFixed_append home hproper.1), if_pos rfl]
    · exact ih hproper.2 hnodup.2 hentry

theorem printed_foldl_receive : (codes.foldl (receive directory home) desk).printed =
    (codes.map fun entry => reportLine directory entry.1).foldl (· ++ ·) desk.printed := by
  induction codes generalizing desk with
  | nil => rfl
  | cons entry rest ih => exact ih

theorem perform_writeCode_of_error {error : Error}
    (h : outputPaths directory (codes.map (·.1)) = .error error) :
    desk.perform (writeCode directory codes) = (.error error, desk) := by
  rw [writeCode, h]
  exact perform_bind_of_error (perform_demand _)

theorem forM_zip_map {α β : Type} {m : Type → Type} [Monad m] {f : α × β → m PUnit} {g : α → β}
    {items : List α} : (items.zip (items.map g)).forM f = items.forM fun a => f (a, g a) := by
  induction items with
  | nil => rfl
  | cons a rest ih =>
    simp only [List.forM_eq_forM] at ih ⊢
    rw [List.map_cons, List.zip_cons_cons, List.forM_cons, List.forM_cons, ih]

theorem perform_writeCode_of_ok {outputs : List String} {made : Desk}
    (h : outputPaths directory (codes.map (·.1)) = .ok outputs)
    (hmade : (Host.createDirectories directory : StateM Desk _).run desk = (.ok (), made)) :
    desk.perform (writeCode directory codes) = made.perform (codes.forM (deliverOne directory)) := by
  obtain ⟨rfl, _⟩ := outputPaths_eq_ok_iff.mp h
  rw [writeCode, h, perform_bind_of_ok (perform_demand _),
    perform_bind_of_ok (by rw [perform_attempt, hmade]; rfl), List.map_map, forM_zip_map]
  rfl

end Desk

/-! ## Runs -/

namespace CommandLine

variable {invocation : Invocation} {desk made after : Desk}
  {directory : String} {home : Place} {settings : Settings}
  {texts generated : List (String × String)} {compiled : Compiled}

/-- What a run leaves behind that put the code of its files into a directory, found at `home`. Every
output is at a path of its own there and holds the code for its own file. Other places keep what they
had, and nothing comes to them but directories on the way to the output. -/
structure Delivers (directory : String) (home : Place) (paths : List String) (compiled : Compiled)
    (settings : CodeSettings) (before after : Desk) : Prop where
  found : after.tree.locate directory = .ok home
  distinct : (paths.map fun path => Path.join directory (outputName path)).Nodup
  written : ∀ path ∈ paths,
    after.tree.locate (Path.join directory (outputName path)) = .ok (home ++ [outputName path]) ∧
      ∃ code, Code.text compiled path settings = .ok code ∧
        after.tree.readText (Path.join directory (outputName path)) = .ok code
  kept : ∀ place, (∀ path ∈ paths, place ≠ home ++ [outputName path]) → ∀ node,
    before.tree.node? place = some node → after.tree.node? place = some node
  made : ∀ place, (∀ path ∈ paths, place ≠ home ++ [outputName path]) → ∀ node,
    after.tree.node? place = some node → before.tree.node? place = some node ∨
      node = .directory ∧
        ∃ path ∈ directory :: Path.ancestors directory, after.tree.locate path = .ok place
  printed : after.printed = (paths.map (Desk.reportLine directory)).foldl (· ++ ·) before.printed

/-- A directory that is made and takes the output files is ready for them. -/
theorem exists_ready_of_admits {paths : List String} (hdirectory : directory ≠ "")
    (hproper : ∀ path ∈ paths, Path.IsProper (outputName path))
    (h : desk.Admits directory (paths.map (outputPath directory))) :
    ∃ made : Desk, (Host.createDirectories directory : StateM Desk _).run desk = (.ok (), made) ∧
      ∃ home, made.tree.Ready directory home (paths.map outputName) := by
  obtain ⟨made, hrun, hwrites⟩ := h
  obtain ⟨home, hfound, hhome⟩ :=
    FileTree.isDirectory_iff.mp ((Desk.run_createDirectories hrun).present rfl)
  refine ⟨made, hrun, home, hfound, hhome, fun name hname => ?_⟩
  obtain ⟨path, hpath, rfl⟩ := List.mem_map.mp hname
  obtain ⟨tree, hwrite⟩ := hwrites _ (List.mem_map_of_mem hpath) ""
  obtain ⟨place, hplace, hfree, _⟩ := FileTree.writeText_eq_ok_iff.mp hwrite
  obtain ⟨home', hfound', _, rfl⟩ :=
    (FileTree.locate_join_iff hdirectory (hproper path hpath)).mp hplace
  rw [hfound] at hfound'
  exact Except.ok.inj hfound' ▸ hfree

/-- The desk that received the code for all files has it delivered. -/
theorem delivers_foldl_receive {codes : List (String × String)} (hdirectory : directory ≠ "")
    (hmakes : Desk.Makes (directory :: Path.ancestors directory) directory desk (.ok ()) made)
    (hready : made.tree.Ready directory home (codes.map fun entry => outputName entry.1))
    (hproper : ∀ entry ∈ codes, Path.IsProper (outputName entry.1))
    (hdistinct : (codes.map fun entry => outputStem entry.1).Nodup)
    (hcodes : ∀ entry ∈ codes, Code.text compiled entry.1 settings.code = .ok entry.2) :
    Delivers directory home (codes.map (·.1)) compiled settings.code desk
      (codes.foldl (Desk.receive directory home) made) := by
  have hafter := (Desk.perform_forM_deliverOne hready hdirectory
    (fun entry hentry => List.mem_map_of_mem hentry) hproper).2
  have hother : ∀ place, (∀ path ∈ codes.map (·.1), place ≠ home ++ [outputName path]) →
      (codes.foldl (Desk.receive directory home) made).tree.node? place = made.tree.node? place :=
    fun place hne => Desk.node?_foldl_receive_of_ne hproper fun entry hentry =>
      hne _ (List.mem_map_of_mem hentry)
  -- no output takes the place of a directory, so what was found is still found
  have hlocate : ∀ {path place}, made.tree.locate path = .ok place →
      (codes.foldl (Desk.receive directory home) made).tree.locate path = .ok place := by
    refine FileTree.walk_mono fun place hplace => ?_
    rw [hother place ?_, hplace]
    rintro path hpath rfl
    refine hready.free _ ?_ hplace
    rw [List.mem_map] at hpath ⊢
    obtain ⟨entry, hentry, rfl⟩ := hpath
    exact ⟨entry, hentry, rfl⟩
  have hnames : (codes.map fun entry => outputName entry.1).Nodup := by
    simpa only [List.Nodup, List.pairwise_map, outputName, ne_eq, String.append_left_inj]
      using hdistinct
  refine ⟨hafter.found, ?_, ?_, ?_, ?_, ?_⟩
  · simpa only [List.Nodup, List.pairwise_map, ne_eq, Path.join_inj] using hnames
  · rw [List.forall_mem_map]
    intro entry hentry
    have hplace := (FileTree.locate_join_iff hdirectory (hproper entry hentry)).mpr
      ⟨home, hafter.found, hafter.isDirectory, rfl⟩
    exact ⟨hplace, entry.2, hcodes entry hentry, FileTree.readText_eq_ok_iff.mpr
      ⟨_, hplace, Desk.node?_foldl_receive_of_mem hproper hnames hentry⟩⟩
  · intro place hne node hnode
    rw [hother place hne]
    exact hmakes.grows.kept place node hnode
  · intro place hne node hnode
    rw [hother place hne] at hnode
    refine (hmakes.grows.made place node hnode).imp_right fun hmade => ?_
    obtain ⟨hdir, path, hpath, hfound⟩ := hmade
    exact ⟨hdir, path, hpath, hlocate hfound⟩
  · rw [Desk.printed_foldl_receive, hmakes.printed, List.map_map]
    rfl

theorem Prepares.delivers (h : Prepares invocation desk settings texts compiled)
    (hgenerate : Code.generate compiled settings.code = .ok generated) (hdirectory : directory ≠ "")
    (hwrites : desk.Admits directory (invocation.files.map (outputPath directory)))
    (hdistinct : (invocation.files.map outputStem).Nodup) :
    ∃ after home, desk.perform (writeCode directory generated) = (.ok (), after) ∧
      Delivers directory home invocation.files compiled settings.code desk after := by
  obtain ⟨hpaths, hcodes⟩ := h.of_generate hgenerate
  have hproper : ∀ path ∈ invocation.files, Path.IsProper (outputName path) := by
    intro path hpath
    obtain ⟨text, htext⟩ := h.exists_readText hpath
    exact isProper_outputName htext
  obtain ⟨made, hmade, home, hready⟩ := exists_ready_of_admits hdirectory hproper hwrites
  rw [← hpaths] at hproper hdistinct hready ⊢
  rw [List.forall_mem_map] at hproper
  have hstems := hdistinct
  rw [List.map_map] at hdistinct hready
  refine ⟨_, home, ?_, delivers_foldl_receive hdirectory (Desk.run_createDirectories hmade) hready
    hproper hdistinct hcodes⟩
  rw [Desk.perform_writeCode_of_ok (outputPaths_eq_ok_iff.mpr ⟨rfl, hstems⟩) hmade]
  exact (Desk.perform_forM_deliverOne hready hdirectory
    (fun entry hentry => List.mem_map_of_mem hentry) hproper).1

/-- A run for code with an output directory prepares the code, then writes it. -/
theorem execute_eq (hcommand : invocation.command = .generate)
    (houtput : invocation.output = some directory) :
    execute (m := StateM Desk) invocation = prepare invocation >>= writeCode directory := by
  simp only [execute, deliver, prepare, hcommand, houtput, bind_assoc]

theorem perform_execute_of_prepare (hcommand : invocation.command = .generate)
    (houtput : invocation.output = some directory)
    (h : desk.result (prepare invocation) = .ok generated) :
    desk.perform (execute invocation) = desk.perform (writeCode directory generated) := by
  rw [execute_eq hcommand houtput]
  exact Desk.perform_bind_of_ok (h ▸ (onlyReads_prepare invocation).perform_eq desk)

section

variable (hcommand : invocation.command = .generate) (houtput : invocation.output = some directory)

include hcommand houtput

theorem perform_execute_of_prepare_error {error : Error}
    (h : desk.result (prepare invocation) = .error error) :
    desk.perform (execute invocation) = (.error error, desk) := by
  rw [execute_eq hcommand houtput]
  exact Desk.perform_bind_of_error (h ▸ (onlyReads_prepare invocation).perform_eq desk)

/-- Prepared code that has no output paths of its own is not written at all. -/
theorem exists_error_of_clash (h : desk.result (prepare invocation) = .ok generated)
    (hclash : ¬ (invocation.files.map outputStem).Nodup) :
    ∃ error, desk.perform (execute invocation) = (.error error, desk) := by
  obtain ⟨settings, texts, compiled, hprepares, hgenerate⟩ := result_prepare_eq_ok_iff.mp h
  rw [← (hprepares.of_generate hgenerate).1] at hclash
  cases hpaths : outputPaths directory (generated.map (·.1)) with
  | ok outputs => exact absurd (outputPaths_eq_ok_iff.mp hpaths).2 hclash
  | error error =>
    refine ⟨error, ?_⟩
    rw [perform_execute_of_prepare hcommand houtput h, Desk.perform_writeCode_of_error hpaths]

theorem exists_delivers_of_distinct (hdirectory : directory ≠ "")
    (hwrites : desk.Admits directory (invocation.files.map (outputPath directory)))
    (h : desk.result (prepare invocation) = .ok generated)
    (hdistinct : (invocation.files.map outputStem).Nodup) :
    ∃ after settings texts compiled home, desk.perform (execute invocation) = (.ok (), after) ∧
      Prepares invocation desk settings texts compiled ∧
      Delivers directory home invocation.files compiled settings.code desk after := by
  obtain ⟨settings, texts, compiled, hprepares, hgenerate⟩ := result_prepare_eq_ok_iff.mp h
  obtain ⟨after, home, hperform, hdelivers⟩ :=
    hprepares.delivers hgenerate hdirectory hwrites hdistinct
  refine ⟨after, settings, texts, compiled, home, ?_, hprepares, hdelivers⟩
  rw [perform_execute_of_prepare hcommand houtput h, hperform]

end

/-- **Delivery.** An invocation for code in a directory writes all of it or nothing. With code for
every file it is the outputs alone that decide: it fails when two of them share a name. -/
theorem execute_delivers_all_or_nothing (hcommand : invocation.command = .generate)
    (houtput : invocation.output = some directory) (hdirectory : directory ≠ "")
    (hwrites : desk.Admits directory (invocation.files.map (outputPath directory))) :
    ((∃ error, desk.perform (execute invocation) = (.error error, desk)) ∨
      ∃ after settings texts compiled home, desk.perform (execute invocation) = (.ok (), after) ∧
        Prepares invocation desk settings texts compiled ∧
        Delivers directory home invocation.files compiled settings.code desk after) ∧
    ∀ settings texts compiled, Prepares invocation desk settings texts compiled →
      (∀ path ∈ invocation.files, ∃ code, Code.text compiled path settings.code = .ok code) →
      ((∃ error, desk.perform (execute invocation) = (.error error, desk)) ↔
        ¬ (invocation.files.map outputStem).Nodup) := by
  constructor
  · cases hresult : desk.result (prepare invocation) with
    | error error => exact .inl ⟨error, perform_execute_of_prepare_error hcommand houtput hresult⟩
    | ok generated =>
      by_cases hdistinct : (invocation.files.map outputStem).Nodup
      · exact .inr
          (exists_delivers_of_distinct hcommand houtput hdirectory hwrites hresult hdistinct)
      · exact .inl (exists_error_of_clash hcommand houtput hresult hdistinct)
  · intro settings texts compiled hprepares hcodes
    obtain ⟨generated, hgenerate⟩ := hprepares.exists_generate_iff.mpr hcodes
    have hresult : desk.result (prepare invocation) = .ok generated :=
      result_prepare_eq_ok_iff.mpr ⟨settings, texts, compiled, hprepares, hgenerate⟩
    refine ⟨?_, exists_error_of_clash hcommand houtput hresult⟩
    rintro ⟨error, hfailed⟩ hdistinct
    obtain ⟨after, _, _, _, _, hdone, _⟩ :=
      exists_delivers_of_distinct hcommand houtput hdirectory hwrites hresult hdistinct
    rw [hfailed] at hdone
    cases hdone

/-- Three files, two of which have their code in one place. -/
def quayDesk : Desk where
  tree := [(["in", "quay-side.fbs"], "namespace quay; table Berth { at: geo.Spot; }"),
    (["geo.v2.fbs"], "namespace geo; struct Spot { x: int; }"),
    (["geo-v2.fbs"], "namespace geo.old; table Spot {}")].foldl
      (fun tree entry => tree.putFile entry.1 (some entry.2)) {}

def quayFiles : List String :=
  ["in/quay-side.fbs", "geo.v2.fbs"]

def quayInvocation (files : List String) : Invocation where
  command := .generate
  files := files
  output := some "out/gen"

theorem quay_delivers_or_keeps :
    quayDesk.Admits "out/gen" (("geo-v2.fbs" :: quayFiles).map (outputPath "out/gen")) ∧
    (∃ after settings texts compiled home,
      quayDesk.perform (execute (quayInvocation quayFiles)) = (.ok (), after) ∧
      Prepares (quayInvocation quayFiles) quayDesk settings texts compiled ∧
      Delivers "out/gen" home quayFiles compiled settings.code quayDesk after) ∧
    ∃ error, quayDesk.perform (execute (quayInvocation ("geo-v2.fbs" :: quayFiles))) =
      (.error error, quayDesk) := by
  obtain ⟨hdone, hresult, hcreate, hall⟩ :
      (quayDesk.perform (execute (quayInvocation quayFiles))).1.toOption.isSome = true ∧
      (quayDesk.result (prepare (quayInvocation ("geo-v2.fbs" :: quayFiles)))).toOption.isSome =
        true ∧
      ((Host.createDirectories "out/gen" : StateM Desk _).run quayDesk).1.toOption = some () ∧
      ∀ path ∈ ("geo-v2.fbs" :: quayFiles).map (outputPath "out/gen"),
        (((Host.createDirectories "out/gen" : StateM Desk _).run quayDesk).2.tree.writeText
          path "").toOption.isSome = true := by decide +kernel
  have hstem : outputStem "geo.v2.fbs" = outputStem "geo-v2.fbs" := by
    rw [← String.toList_inj, toList_outputStem, toList_outputStem]
    decide +kernel
  have hclash : ¬ (("geo-v2.fbs" :: quayFiles).map outputStem).Nodup := fun hnodup =>
    (List.nodup_cons.mp hnodup).1 (List.mem_map.mpr ⟨"geo.v2.fbs", by decide, hstem⟩)
  have hadmits := Desk.admits_of_writeText hcreate hall
  have hfewer : quayDesk.Admits "out/gen" (quayFiles.map (outputPath "out/gen")) :=
    Desk.admits_of_writeText hcreate (List.forall_mem_cons.mp hall).2
  have hdirectory : "out/gen" ≠ "" := by decide
  have hcommand : ∀ files, (quayInvocation files).command = .generate := fun _ => rfl
  have houtput : ∀ files, (quayInvocation files).output = some "out/gen" := fun _ => rfl
  obtain ⟨hends, _⟩ :=
    execute_delivers_all_or_nothing (hcommand quayFiles) (houtput _) hdirectory hfewer
  obtain ⟨generated, hgenerated⟩ := Option.isSome_iff_exists.mp hresult
  obtain ⟨settings, texts, compiled, hprepares, hgenerate⟩ :=
    result_prepare_eq_ok_iff.mp (eq_ok_of_toOption hgenerated)
  obtain ⟨_, hfails⟩ :=
    execute_delivers_all_or_nothing (hcommand (_ :: quayFiles)) (houtput _) hdirectory hadmits
  refine ⟨hadmits, hends.resolve_left ?_, (hfails settings texts compiled hprepares
    (hprepares.exists_generate_iff.mp ⟨generated, hgenerate⟩)).mpr hclash⟩
  rintro ⟨error, hfailed⟩
  rw [hfailed] at hdone
  cases hdone

end CommandLine

end WireSchema

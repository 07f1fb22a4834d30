/-
Settings/Proofs/Registering.lean

What loading a directory registers.  Its entries are gone through in the order
in which the system lists them; the first schema file that cannot be loaded
ends it.  What holds after some of the paths is `Registered`: every schema file
among them has been loaded, its stem is in the registry, and the schema that
stands there is that of a file with this stem.  One more path keeps this
(`Registered.loadFile`), and so do all paths in order (`Registered.foldlM`).

Nothing in this depends on the order, and if the stems are all different there
is but one file for each of them.  So the main statement,
`loadDirectory_in_any_order`, is about a tree that lists its entries in some
order, in terms of a tree with the same files.  Every order of the entries is
that of such a tree.

Since schemas are checked when they are loaded, all schemas of such a registry
are valid (`valid_of_loadDirectory`).
-/
import Mathlib.Data.String.Basic
import Settings.Proofs.Files
import Settings.Proofs.InPlace.Basic
import Settings.Proofs.Names
import Settings.Registry

namespace Settings

open InPlace

/-! ### Loading schemas -/

/-- What is loaded does not depend on the order of the nodes. -/
theorem Schema.load_congr {tree tree' : FileTree} (h : tree'.node? = tree.node?) (path : String) :
    load tree' path = load tree path := by
  simp only [load, Definition.load, FileTree.readText_congr h]

/-- Only valid schemas are loaded. -/
theorem Schema.validate_of_load {tree : FileTree} {path : String} {schema : Schema}
    (h : load tree path = .ok schema) : schema.validate = .ok () := by
  obtain ⟨loaded, -, h⟩ := exists_of_bind_eq_ok h
  obtain ⟨⟨⟩, hvalid, h⟩ := exists_of_bind_eq_ok h
  cases h
  exact hvalid

namespace Registry

variable {registry registry' : Registry} {tree shuffled : FileTree}
  {name stem path directory : String} {schema : Schema} {paths done names : List String} {e : Error}

/-! ### Schema files -/

/-- The path has the extension of schema files, and a stem. -/
structure IsSchemaFile (path stem : String) : Prop where
  extension : Path.extension path = "toml" ∨ Path.extension path = "json"
  stem_eq : Path.stem? path = some stem

theorem schemaName?_eq_some_iff : schemaName? path = some stem ↔ IsSchemaFile path stem := by
  simp only [schemaName?, Bool.or_eq_true, decide_eq_true_eq]
  split
  next h => exact ⟨fun hs => ⟨h, hs⟩, fun hs => hs.stem_eq⟩
  next h => exact ⟨nofun, fun hs => absurd hs.extension h⟩

theorem isSchemaFile_iff : IsSchemaFile path stem ↔
    Path.extension path = "toml" ∧ Path.stem? path = some stem ∨
      Path.extension path = "json" ∧ Path.stem? path = some stem := by
  rw [← or_and_right]
  exact ⟨fun h => ⟨h.extension, h.stem_eq⟩, fun h => ⟨h.1, h.2⟩⟩

/-- **The names of schema files**: a stem, a point and one of two extensions. -/
theorem isSchemaFile_join_iff (directory : String) (h : Path.IsName name) :
    IsSchemaFile (Path.join directory name) stem ↔
      stem ≠ "" ∧ (name = stem ++ ".toml" ∨ name = stem ++ ".json") := by
  have hsplit : ∀ extension : String, '.' ∉ extension.toList → extension ≠ "" →
      (Path.extension (Path.join directory name) = extension ∧
          Path.stem? (Path.join directory name) = some stem ↔
        stem ≠ "" ∧ name = stem ++ ("." ++ extension)) := by
    intro extension hpoint hne
    rw [← String.append_assoc, ← Path.splitName_eq_iff hpoint]
    simp only [Path.extension, Path.stem?, Path.fileName?_join directory h, Option.bind_some,
      Option.map_some]
    rcases Path.splitName name with ⟨first, - | second⟩
    · simp [Ne.symm hne]
    · simp [and_comm]
  rw [isSchemaFile_iff, hsplit "toml" (by decide) (by decide), hsplit "json" (by decide) (by decide),
    ← and_or_left]
  rfl

theorem IsSchemaFile.unique {other : String} (h : IsSchemaFile path stem)
    (h' : IsSchemaFile path other) : stem = other :=
  Option.some.inj (h.stem_eq.symm.trans h'.stem_eq)

/-- The file can be loaded, if it is a schema file. -/
def Loads (tree : FileTree) (path : String) : Prop :=
  ∀ stem, IsSchemaFile path stem → ∃ schema, Schema.load tree path = .ok schema

instance (tree : FileTree) (path : String) : Decidable (Loads tree path) :=
  decidable_of_iff (∀ stem ∈ schemaName? path, (Schema.load tree path).isOk = true) (by
    simp only [Option.mem_def, schemaName?_eq_some_iff, Loads]
    cases Schema.load tree path <;> simp [Except.isOk, Except.toBool])

/-- Then there is nothing wrong with it. -/
theorem Loads.load_ne_error (h : Loads tree path) (hfile : IsSchemaFile path stem) :
    Schema.load tree path ≠ .error e := by
  obtain ⟨schema, hschema⟩ := h stem hfile
  rw [hschema]
  exact nofun

/-- The entries that are schema files have different stems. -/
def DistinctStems (directory : String) (names : List String) : Prop :=
  ∀ a ∈ names, ∀ b ∈ names, ∀ stem, IsSchemaFile (Path.join directory a) stem →
    IsSchemaFile (Path.join directory b) stem → a = b

instance (directory : String) (names : List String) : Decidable (DistinctStems directory names) :=
  decidable_of_iff
    (∀ a ∈ names, ∀ b ∈ names, ∀ stem ∈ schemaName? (Path.join directory a),
      stem ∈ schemaName? (Path.join directory b) → a = b)
    (by simp only [Option.mem_def, schemaName?_eq_some_iff, DistinctStems])

/-! ### One file after another -/

/-- What holds of a registry after some paths. -/
structure Registered (tree : FileTree) (paths : List String) (registry : Registry) : Prop where
  nodup_keys : (Fields.keys registry).Nodup
  loads : ∀ path ∈ paths, Loads tree path
  /-- What is registered comes from one of the files. -/
  sound : ∀ stem schema, Fields.get? stem registry = some schema →
    ∃ path ∈ paths, IsSchemaFile path stem ∧ Schema.load tree path = .ok schema
  /-- No file is left out. -/
  complete : ∀ path ∈ paths, ∀ stem, IsSchemaFile path stem →
    ∃ schema, Fields.get? stem registry = some schema

theorem registered_nil (tree : FileTree) : Registered tree [] [] where
  nodup_keys := List.nodup_nil
  loads := nofun
  sound := nofun
  complete := nofun

/-- Other files are passed over. -/
theorem loadFile_of_not (h : ∀ stem, ¬ IsSchemaFile path stem) :
    loadFile tree registry path = .ok registry := by
  have hnone : schemaName? path = none :=
    Option.eq_none_iff_forall_ne_some.mpr fun stem hs => h stem (schemaName?_eq_some_iff.mp hs)
  rw [loadFile, hnone]

/-- The schema of a schema file takes the place of the stem. -/
theorem loadFile_of_isSchemaFile (h : IsSchemaFile path stem) :
    loadFile tree registry path
      = (Schema.load tree path).map fun schema => Fields.insert stem schema registry := by
  rw [loadFile, schemaName?_eq_some_iff.mpr h]

/-- A schema file comes in. -/
theorem Registered.insert (h : Registered tree done registry) (hstem : IsSchemaFile path stem)
    (hschema : Schema.load tree path = .ok schema) :
    Registered tree (done ++ [path]) (Fields.insert stem schema registry) where
  nodup_keys := Fields.nodup_keys_insert h.nodup_keys
  loads := by
    rw [List.forall_mem_append, List.forall_mem_singleton]
    exact ⟨h.loads, fun _ _ => ⟨schema, hschema⟩⟩
  sound other found hfound := by
    rw [Fields.get?_insert] at hfound
    split at hfound
    next he =>
      cases hfound
      exact ⟨path, List.mem_append_right done (List.mem_singleton_self path), he ▸ hstem, hschema⟩
    next =>
      obtain ⟨old, hold, hfile⟩ := h.sound other found hfound
      exact ⟨old, List.mem_append_left [path] hold, hfile⟩
  complete := by
    rw [List.forall_mem_append, List.forall_mem_singleton]
    constructor
    · intro old hold other hother
      rw [Fields.get?_insert]
      split
      · exact ⟨schema, rfl⟩
      · exact h.complete old hold other hother
    · intro other hother
      rw [Fields.get?_insert, if_pos (hstem.unique hother)]
      exact ⟨schema, rfl⟩

/-- Nothing comes in with another file. -/
theorem Registered.skip (h : Registered tree done registry)
    (hfile : ∀ stem, ¬ IsSchemaFile path stem) : Registered tree (done ++ [path]) registry where
  nodup_keys := h.nodup_keys
  loads := by
    rw [List.forall_mem_append, List.forall_mem_singleton]
    exact ⟨h.loads, fun stem hs => absurd hs (hfile stem)⟩
  sound stem schema hfound := by
    obtain ⟨old, hold, hfrom⟩ := h.sound stem schema hfound
    exact ⟨old, List.mem_append_left [path] hold, hfrom⟩
  complete := by
    rw [List.forall_mem_append, List.forall_mem_singleton]
    exact ⟨h.complete, fun stem hs => absurd hs (hfile stem)⟩

/-- One more path. -/
theorem Registered.loadFile (h : Registered tree done registry)
    (hload : Registry.loadFile tree registry path = .ok registry') :
    Registered tree (done ++ [path]) registry' := by
  by_cases hfile : ∃ stem, IsSchemaFile path stem
  · obtain ⟨stem, hstem⟩ := hfile
    rw [loadFile_of_isSchemaFile hstem] at hload
    obtain ⟨schema, hschema, rfl⟩ := exists_of_map_eq_ok hload
    exact h.insert hstem hschema
  · rw [not_exists] at hfile
    rw [loadFile_of_not hfile] at hload
    cases hload
    exact h.skip hfile

/-- All paths in order. -/
theorem Registered.foldlM (h : Registered tree done registry)
    (hload : paths.foldlM (Registry.loadFile tree) registry = .ok registry') :
    Registered tree (done ++ paths) registry' := by
  induction paths generalizing done registry with
  | nil =>
    cases hload
    rwa [List.append_nil]
  | cons path rest ih =>
    rw [List.foldlM_cons] at hload
    obtain ⟨next, hnext, hrest⟩ := exists_of_bind_eq_ok hload
    rw [List.append_cons]
    exact ih (h.loadFile hnext) hrest

/-- Only a schema file that cannot be loaded ends loading. -/
theorem exists_of_loadFile_eq_error (h : loadFile tree registry path = .error e) :
    ∃ stem, IsSchemaFile path stem ∧ Schema.load tree path = .error e := by
  by_cases hfile : ∃ stem, IsSchemaFile path stem
  · obtain ⟨stem, hstem⟩ := hfile
    rw [loadFile_of_isSchemaFile hstem] at h
    refine ⟨stem, hstem, ?_⟩
    cases hload : Schema.load tree path with
    | ok schema =>
      rw [hload] at h
      cases h
    | error found =>
      rw [hload] at h
      cases h
      rfl
  · rw [loadFile_of_not (not_exists.mp hfile)] at h
    cases h

/-- So there is one among the paths. -/
theorem exists_of_foldlM_eq_error (h : paths.foldlM (loadFile tree) registry = .error e) :
    ∃ path ∈ paths, ∃ stem, IsSchemaFile path stem ∧ Schema.load tree path = .error e := by
  induction paths generalizing registry with
  | nil => cases h
  | cons path rest ih =>
    rw [List.foldlM_cons] at h
    cases hfile : loadFile tree registry path with
    | ok next =>
      rw [hfile] at h
      obtain ⟨other, hother, hfails⟩ := ih h
      exact ⟨other, List.mem_cons_of_mem path hother, hfails⟩
    | error first =>
      rw [hfile] at h
      cases h
      exact ⟨path, List.mem_cons_self, exists_of_loadFile_eq_error hfile⟩

/-! ### Names and schemas -/

theorem get_eq_ok_iff : registry.get stem = .ok schema ↔ Fields.get? stem registry = some schema := by
  unfold get
  cases Fields.get? stem registry <;> simp

theorem mem_names_iff : stem ∈ registry.names ↔ ∃ schema, registry.get stem = .ok schema := by
  have hperm : registry.names.Perm (Fields.keys registry) := List.mergeSort_perm _ _
  simp only [get_eq_ok_iff, ← Option.isSome_iff_exists, Option.isSome_iff_ne_none, ne_eq,
    Fields.get?_eq_none_iff, not_not]
  exact hperm.mem_iff

/-- The names ascend, as none of them is there twice. -/
theorem pairwise_lt_names (h : (Fields.keys registry).Nodup) :
    registry.names.Pairwise (· < ·) := by
  have hnodup : registry.names.Nodup := (List.mergeSort_perm _ _).nodup_iff.mpr h
  have hle : registry.names.Pairwise (· ≤ ·) := by
    refine (List.pairwise_mergeSort ?_ ?_ (Fields.keys registry)).imp of_decide_eq_true
    · intro a b c hab hbc
      exact decide_eq_true (le_trans (of_decide_eq_true hab) (of_decide_eq_true hbc))
    · intro a b
      simpa using le_total a b
  exact hle.imp₂ (fun _ _ hle hne => lt_of_le_of_ne hle hne) hnodup

/-! ### Directories -/

/-- Only the files count, and not their order. -/
theorem Registered.perm {others : List String} (h : Registered tree paths registry)
    (hperm : paths.Perm others) : Registered tree others registry where
  nodup_keys := h.nodup_keys
  loads path hpath := h.loads path (hperm.mem_iff.mpr hpath)
  sound stem schema hfound := by
    obtain ⟨path, hpath, hfile⟩ := h.sound stem schema hfound
    exact ⟨path, hperm.mem_iff.mp hpath, hfile⟩
  complete path hpath := h.complete path (hperm.mem_iff.mpr hpath)

/-- Whatever the order of the entries, the same paths are gone through. -/
theorem exists_perm_loadDirectory (hlist : tree.list directory = .ok names)
    (horder : shuffled.nodes.Perm tree.nodes) :
    ∃ paths : List String, paths.Perm (names.map (Path.join directory)) ∧
      loadDirectory shuffled directory = paths.foldlM (loadFile tree) [] := by
  obtain ⟨listed, hlisted, hperm⟩ := FileTree.list_perm horder hlist
  have hload : Schema.load shuffled = Schema.load tree :=
    funext (Schema.load_congr (FileTree.node?_eq_of_perm horder))
  have hfile : loadFile shuffled = loadFile tree := by
    funext registry path
    simp only [loadFile, hload]
  refine ⟨listed.map (Path.join directory), hperm.map _, ?_⟩
  rw [loadDirectory, hlisted, hfile]

/-- So this holds in the end. -/
theorem registered_of_loadDirectory (hlist : tree.list directory = .ok names)
    (horder : shuffled.nodes.Perm tree.nodes)
    (h : loadDirectory shuffled directory = .ok registry) :
    Registered tree (names.map (Path.join directory)) registry := by
  obtain ⟨paths, hperm, heq⟩ := exists_perm_loadDirectory hlist horder
  rw [heq] at h
  exact ((registered_nil tree).foldlM h).perm hperm

/-- What is reported is wrong with one of the schema files. -/
theorem exists_of_loadDirectory_eq_error (hlist : tree.list directory = .ok names)
    (horder : shuffled.nodes.Perm tree.nodes) (h : loadDirectory shuffled directory = .error e) :
    ∃ name ∈ names, ∃ stem, IsSchemaFile (Path.join directory name) stem ∧
      Schema.load tree (Path.join directory name) = .error e := by
  obtain ⟨paths, hperm, heq⟩ := exists_perm_loadDirectory hlist horder
  rw [heq] at h
  obtain ⟨path, hpath, hfile⟩ := exists_of_foldlM_eq_error h
  obtain ⟨name, hname, rfl⟩ := List.mem_map.mp (hperm.mem_iff.mp hpath)
  exact ⟨name, hname, hfile⟩

/-- Loading succeeds if there is nothing that cannot be loaded. -/
theorem exists_loadDirectory_iff (hlist : tree.list directory = .ok names)
    (horder : shuffled.nodes.Perm tree.nodes) :
    (∃ registry, loadDirectory shuffled directory = .ok registry) ↔
      ∀ name ∈ names, Loads tree (Path.join directory name) := by
  constructor
  · rintro ⟨registry, hload⟩ name hname
    exact (registered_of_loadDirectory hlist horder hload).loads _ (List.mem_map_of_mem hname)
  · intro hall
    cases hload : loadDirectory shuffled directory with
    | ok registry => exact ⟨registry, rfl⟩
    | error e =>
      obtain ⟨name, hname, stem, hfile, herror⟩ :=
        exists_of_loadDirectory_eq_error hlist horder hload
      exact absurd herror ((hall name hname).load_ne_error hfile)

/-- The one thing that is wrong is reported, whenever it comes to light. -/
theorem loadDirectory_eq_error (hlist : tree.list directory = .ok names)
    (horder : shuffled.nodes.Perm tree.nodes) (hname : name ∈ names)
    (hfile : IsSchemaFile (Path.join directory name) stem)
    (herror : Schema.load tree (Path.join directory name) = .error e)
    (hothers : ∀ other ∈ names, other ≠ name → Loads tree (Path.join directory other)) :
    loadDirectory shuffled directory = .error e := by
  cases hload : loadDirectory shuffled directory with
  | ok registry =>
    have hall := (exists_loadDirectory_iff hlist horder).mp ⟨registry, hload⟩
    exact absurd herror ((hall name hname).load_ne_error hfile)
  | error first =>
    obtain ⟨failed, hfailed, failedStem, hfile', hfirst⟩ :=
      exists_of_loadDirectory_eq_error hlist horder hload
    by_cases hsame : failed = name
    · rw [hsame, herror] at hfirst
      cases hfirst
      rfl
    · exact absurd hfirst ((hothers failed hfailed hsame).load_ne_error hfile')

/-- What a registry made of a directory with these entries has in it. -/
structure Registers (tree : FileTree) (directory : String) (names : List String)
    (registry : Registry) : Prop where
  /-- The names of the schemas ascend, and none is there twice. -/
  ascending : registry.names.Pairwise (· < ·)
  /-- They are the stems of the schema files. -/
  mem_names_iff : ∀ stem, stem ∈ registry.names ↔
    ∃ name ∈ names, IsSchemaFile (Path.join directory name) stem
  /-- Under the stem of a file stands its schema. -/
  get_eq : ∀ name ∈ names, ∀ stem, IsSchemaFile (Path.join directory name) stem →
    registry.get stem = Schema.load tree (Path.join directory name)
  /-- There is nothing under other names. -/
  get_eq_unknown : ∀ stem, stem ∉ registry.names →
    registry.get stem = .error (.unknownSchema stem)

theorem Registered.registers (hstems : DistinctStems directory names)
    (h : Registered tree (names.map (Path.join directory)) registry) :
    Registers tree directory names registry where
  ascending := pairwise_lt_names h.nodup_keys
  mem_names_iff stem := by
    rw [mem_names_iff]
    constructor
    · rintro ⟨schema, hget⟩
      obtain ⟨path, hpath, hfile, -⟩ := h.sound stem schema (get_eq_ok_iff.mp hget)
      obtain ⟨name, hname, rfl⟩ := List.mem_map.mp hpath
      exact ⟨name, hname, hfile⟩
    · rintro ⟨name, hname, hfile⟩
      obtain ⟨schema, hfound⟩ := h.complete _ (List.mem_map_of_mem hname) stem hfile
      exact ⟨schema, get_eq_ok_iff.mpr hfound⟩
  get_eq name hname stem hfile := by
    obtain ⟨schema, hfound⟩ := h.complete _ (List.mem_map_of_mem hname) stem hfile
    obtain ⟨path, hpath, hfile', hschema⟩ := h.sound stem schema hfound
    obtain ⟨name', hname', rfl⟩ := List.mem_map.mp hpath
    -- there is no other file with this stem
    obtain rfl : name' = name := hstems name' hname' name hname stem hfile' hfile
    rw [hschema, get_eq_ok_iff]
    exact hfound
  get_eq_unknown stem hstem := by
    have hnone : Fields.get? stem registry = none := by
      rw [Option.eq_none_iff_forall_ne_some]
      intro schema hfound
      exact hstem (mem_names_iff.mpr ⟨schema, get_eq_ok_iff.mpr hfound⟩)
    rw [get, hnone]

/-- **Loading a directory** registers the schema files in it, in whatever order
they are listed; and there is no order in which they cannot be.  These are the
entries named with a stem and one of the two extensions.  Loading succeeds if
all of them can be loaded, and only then; if one of them alone cannot, what is
wrong with it is what is reported. -/
theorem loadDirectory_in_any_order (hlist : tree.list directory = .ok names)
    (hstems : DistinctStems directory names) (horder : shuffled.nodes.Perm tree.nodes) :
    (∀ name, Path.IsName name → ∀ stem, IsSchemaFile (Path.join directory name) stem ↔
        stem ≠ "" ∧ (name = stem ++ ".toml" ∨ name = stem ++ ".json")) ∧
      (∀ listed : List String, listed.Perm names → ∃ other : FileTree,
        other.nodes.Perm tree.nodes ∧ other.list directory = .ok listed) ∧
      ((∃ registry, loadDirectory shuffled directory = .ok registry) ↔
        ∀ name ∈ names, Loads tree (Path.join directory name)) ∧
      (∀ registry, loadDirectory shuffled directory = .ok registry →
        Registers tree directory names registry) ∧
      ∀ name ∈ names, ∀ stem e, IsSchemaFile (Path.join directory name) stem →
        Schema.load tree (Path.join directory name) = .error e →
        (∀ other ∈ names, other ≠ name → Loads tree (Path.join directory other)) →
        loadDirectory shuffled directory = .error e := by
  refine ⟨?_, ?_, exists_loadDirectory_iff hlist horder, ?_, ?_⟩
  · intro name hname stem
    exact isSchemaFile_join_iff directory hname
  · intro listed hperm
    exact FileTree.exists_list_eq_of_perm hlist hperm
  · intro registry hload
    exact (registered_of_loadDirectory hlist horder hload).registers hstems
  · intro name hname stem e hfile herror hothers
    exact loadDirectory_eq_error hlist horder hname hfile herror hothers

/-- A directory with two schemas, of which one has this text, and other entries:
what has another extension or none, or nothing in front of it. -/
def mixedFiles (text : String) : FileTree where
  nodes := [(["schemas"], .directory), (["schemas", "tr2.toml"], .file text.toUTF8),
    (["schemas", "notes.txt"], .file "ignored".toUTF8), (["schemas", ".toml"], .file "=".toUTF8),
    (["schemas", "old"], .directory), (["schemas", "old", "tr2.toml"], .file "=".toUTF8),
    (["schemas", "tr1.json"], .file "\x7b\x7d".toUTF8)]
  unique := by simp [Fields.keys]

/-- The same files, the last one first. -/
def mixedFilesBack (text : String) : FileTree where
  nodes := (mixedFiles text).nodes.reverse
  unique := by simp [mixedFiles, Fields.keys]

/-- It is loaded if the text is that of a schema, and else the text is reported. -/
theorem loadDirectory_in_any_order_mixedFiles :
    (∃ registry, loadDirectory (mixedFilesBack "") "schemas" = .ok registry ∧
      Registers (mixedFiles "") "schemas" ["tr2.toml", "notes.txt", ".toml", "old", "tr1.json"]
        registry) ∧
      loadDirectory (mixedFilesBack "=") "schemas"
        = .error (.parse "schemas/tr2.toml" (.illFormed "not a definition in TOML")) := by
  have hlist : ∀ text, (mixedFiles text).list "schemas"
      = .ok ["tr2.toml", "notes.txt", ".toml", "old", "tr1.json"] := fun _ => rfl
  have hstems : DistinctStems "schemas" ["tr2.toml", "notes.txt", ".toml", "old", "tr1.json"] := by
    decide +kernel
  have horder : ∀ text, (mixedFilesBack text).nodes.Perm (mixedFiles text).nodes :=
    fun text => (mixedFiles text).nodes.reverse_perm
  constructor
  · obtain ⟨-, -, hloads, hregisters, -⟩ :=
      loadDirectory_in_any_order (hlist "") hstems (horder "")
    obtain ⟨registry, hload⟩ := hloads.mpr (by decide +kernel)
    exact ⟨registry, hload, hregisters registry hload⟩
  · obtain ⟨hnames, -, -, -, hfails⟩ :=
      loadDirectory_in_any_order (hlist "=") hstems (horder "=")
    have hname : Path.IsName "tr2.toml" := ⟨by decide, by decide, by decide, by decide⟩
    refine hfails "tr2.toml" (by decide) "tr2" _ ?_ (by rfl) (by decide +kernel)
    exact (hnames "tr2.toml" hname "tr2").mpr ⟨by decide, .inl rfl⟩

/-! ### Validity -/

/-- All schemas of the registry are valid. -/
def Valid (registry : Registry) : Prop :=
  ∀ name schema, registry.get name = .ok schema → schema.validate = .ok ()

/-- Nothing else is loaded. -/
theorem valid_of_loadDirectory (h : loadDirectory tree directory = .ok registry) :
    registry.Valid := by
  intro name schema hget
  cases hlist : tree.list directory with
  | error fault =>
    rw [loadDirectory, hlist] at h
    cases h
  | ok names =>
    have hregistered := registered_of_loadDirectory hlist (.refl _) h
    obtain ⟨path, -, -, hload⟩ := hregistered.sound name schema (get_eq_ok_iff.mp hget)
    exact Schema.validate_of_load hload

end Registry

end Settings

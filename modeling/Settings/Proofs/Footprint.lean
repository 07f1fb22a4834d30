/-
Settings/Proofs/Footprint.lean

What a run of the program does to the files.  Only writing changes any, and
what is written goes to the path of the open configuration.  In a run this is
the path of its request: opening a file makes it the configuration's own, and
so does creating one.

Everything that can fail while a file is opened or created comes before the
file is written.  After that only a command that changes something and saves
it writes once more, and nothing comes after its saving.  So a run that fails
has changed nothing (`existing`), or has created the file and not changed it
afterwards (`missing`).

The main statement is `run_spares_files`, for every list of arguments and all
files that there can be.
-/
import Settings.Proofs.Bare
import Settings.Proofs.InPlace.CommandLine
import Settings.Proofs.Saving

namespace Settings

/-! ### Files -/

/-- At most the file at the path is another one. -/
structure FileTree.SameBeside (path : String) (tree tree' : FileTree) : Prop where
  /-- The path leads where it has led before. -/
  locate_eq : tree'.locate path = tree.locate path
  node?_eq : ∀ location, tree.locate path ≠ .ok location →
    tree'.node? location = tree.node? location

namespace FileTree

variable {path text : String} {tree tree' tree'' : FileTree}

@[refl] theorem SameBeside.refl (path : String) (tree : FileTree) : SameBeside path tree tree :=
  ⟨rfl, fun _ _ => rfl⟩

theorem SameBeside.trans (h : SameBeside path tree tree') (h' : SameBeside path tree' tree'') :
    SameBeside path tree tree'' where
  locate_eq := h'.locate_eq.trans h.locate_eq
  node?_eq := fun location hne =>
    (h'.node?_eq location (h.locate_eq ▸ hne)).trans (h.node?_eq location hne)

/-- A text is written to one place. -/
theorem sameBeside_of_writeText (h : tree.writeText path text = .ok tree') :
    SameBeside path tree tree' := by
  unfold writeText at h
  split at h
  · split at h <;> cases h
  · split at h
    · cases h
    next location hlocate =>
      split at h
      · cases h
      next hd =>
        cases h
        refine ⟨(locate_put hlocate hd).trans hlocate.symm, ?_⟩
        intro other hne
        rw [node?_put tree (ne_nil_of_node? hd), if_neg]
        rintro rfl
        exact hne hlocate

end FileTree

/-! ### Configurations -/

namespace Configuration

open InPlace

variable {c d : Configuration} {tree tree' : FileTree} {path name : String} {written : Bool}

/-- Writing changes one file, if any. -/
theorem sameBeside_of_write (h : c.write tree path = .ok (written, d, tree')) :
    FileTree.SameBeside path tree tree' := by
  rw [write_eq] at h
  split at h
  · cases h
    exact .refl path tree
  · obtain ⟨saved, hsaved, hd⟩ := exists_of_map_eq_ok h
    cases hd
    cases hw : tree.writeText path c.toText with
    | error fault =>
      rw [hw] at hsaved
      cases hsaved
    | ok t =>
      rw [hw] at hsaved
      cases hsaved
      exact FileTree.sameBeside_of_writeText hw

/-- The file that has been read is the configuration's own. -/
theorem path_of_read {registry : Registry} {language : Language}
    (h : read tree registry language path name = .ok c) : c.path = some path := by
  unfold read at h
  split at h
  · cases h
  · unfold readWith at h
    split at h
    · cases h
    · unfold ofDocument at h
      simp only at h
      split at h
      · cases h
        rfl
      · cases h

/-- Configurations that are equal up to enforced values have one path. -/
theorem path_eq_of_bare_eq (h : c.bare = d.bare) : c.path = d.path := by
  show c.bare.path = d.bare.path
  rw [h]

/-- The document of defaults does not depend on the language. -/
theorem toText_ofDefaults (schema : Schema) (language other : Language) :
    (ofDefaults name schema language).toText = (ofDefaults name schema other).toText := by
  have hvalues : ∀ language : Language,
      (ofDefaults name schema language).properties.map (fun p => (p.field, p.exported))
        = schema.properties.map fun spec =>
            (spec.field, (spec.domain.fresh schema.enums).value.toJson) := by
    intro language
    show (schema.properties.map _).map _ = _
    rw [List.map_map]
    rfl
  unfold toText toDocument
  rw [hvalues, hvalues]
  rfl

end Configuration

/-! ### Sessions -/

namespace Session

open InPlace

variable {s s' : Session} {c d : Configuration} {tree tree' : FileTree} {path name : String}

/-- A configuration is open, and the path is that of its file. -/
def IsOpenAt (s : Session) (path : String) : Prop :=
  ∃ c, s.configuration = some c ∧ c.path = some path

/-- What is enforced on opening is all that changes. -/
theorem bare_of_enforceOnOpening (h : s.enforceOnOpening tree c = .ok d) : d.bare = c.bare := by
  unfold enforceOnOpening at h
  split at h
  · cases h
    rfl
  next path _ =>
    have hbare := Configuration.bare_applyEnforced c tree path
    split at h
    · cases h
    next changes after happly =>
      cases h
      rwa [happly] at hbare

theorem isOpenAt_of_openFile (h : s.openFile tree path name = .ok s') : s'.IsOpenAt path := by
  obtain ⟨c, hc, h⟩ := exists_of_bind_eq_ok h
  obtain ⟨d, hd, h⟩ := exists_of_bind_eq_ok h
  cases h
  refine ⟨d, rfl, ?_⟩
  rw [Configuration.path_eq_of_bare_eq (bare_of_enforceOnOpening hd)]
  exact Configuration.path_of_read hc

/-- A file that is created holds the defaults, whatever is enforced. -/
theorem spec_of_openDefault (h : s.openDefault tree path name = .ok (s', tree')) :
    s'.IsOpenAt path ∧ tree.SameBeside path tree' ∧
      ∃ schema, s.registry.get name = .ok schema ∧
        tree'.readText path = .ok (Configuration.ofDefaults name schema s.language).toText := by
  obtain ⟨schema, hschema, h⟩ := exists_of_bind_eq_ok h
  obtain ⟨c, hc, h⟩ := exists_of_bind_eq_ok h
  obtain ⟨⟨written, d, saved⟩, hw, h⟩ := exists_of_bind_eq_ok h
  cases h
  have htext : c.toText = (Configuration.ofDefaults name schema s.language).toText := by
    rw [← Configuration.toText_bare, bare_of_enforceOnOpening hc, Configuration.toText_bare]
  refine ⟨⟨d, rfl, ?_⟩, Configuration.sameBeside_of_write hw, schema, hschema, ?_⟩
  · rw [Configuration.write_eq_ok hw]
    rfl
  · rw [Configuration.readText_of_write hw, htext]

theorem sameBeside_of_save {written : Bool} (ho : s.IsOpenAt path)
    (h : s.save tree = .ok (written, s', tree')) : tree.SameBeside path tree' := by
  obtain ⟨c, hc, hpath⟩ := ho
  have hcurrent := current_eq_ok_iff.mpr hc
  unfold save at h
  rw [hcurrent] at h
  simp only [ok_bind, hpath] at h
  unfold saveAs at h
  rw [hcurrent, ok_bind] at h
  obtain ⟨⟨w, d, saved⟩, hw, h⟩ := exists_of_bind_eq_ok h
  cases h
  exact Configuration.sameBeside_of_write hw

/-- Putting in a value does not move the configuration to another file. -/
theorem IsOpenAt.setValue (ho : s.IsOpenAt path) {field : String} {value : Value}
    {change : Option Change} (h : s.setValue field value = .ok (s', change)) :
    s'.IsOpenAt path := by
  obtain ⟨c, hc, hpath⟩ := ho
  unfold Session.setValue at h
  rw [current_eq_ok_iff.mpr hc, ok_bind] at h
  obtain ⟨⟨d, change'⟩, hd, h⟩ := exists_of_bind_eq_ok h
  obtain ⟨p, q, -, -, rfl⟩ := Configuration.exists_of_modify hd
  cases h
  refine ⟨{ c with properties := Configuration.replace field q c.properties }, ?_, hpath⟩
  cases change <;> rfl

/-- Nor does going back to the defaults. -/
theorem IsOpenAt.restoreDefaults (ho : s.IsOpenAt path) {changes : List Change}
    (h : s.restoreDefaults = .ok (s', changes)) : s'.IsOpenAt path := by
  obtain ⟨c, hc, hpath⟩ := ho
  unfold Session.restoreDefaults at h
  rw [current_eq_ok_iff.mpr hc, ok_bind] at h
  cases h
  exact ⟨_, rfl, hpath⟩

end Session

/-! ### Runs -/

/-- The command only looks at the configuration. -/
def Command.onlyLooks : Command → Bool
  | .list => true
  | .search _ => true
  | .set .. => false
  | .reset => false
  | .schemas => true

namespace CommandLine

open InPlace

variable {session : Session} {tree : FileTree} {request : Request}

/-- Saving writes to one place, or fails and writes nothing. -/
theorem spec_of_saved {path : String} (ho : session.IsOpenAt path) (tree : FileTree) :
    tree.SameBeside path (saved session tree).2 ∧
      ((∃ failure, (saved session tree).1 = .error failure) → (saved session tree).2 = tree) := by
  unfold saved
  cases hs : session.save tree with
  | error e => exact ⟨.refl path tree, fun _ => rfl⟩
  | ok r =>
    refine ⟨Session.sameBeside_of_save ho hs, ?_⟩
    rintro ⟨failure, h⟩
    cases h

/-- Only a command that saves writes, and nothing comes after that. -/
theorem spec_of_executed {path : String} (ho : session.IsOpenAt path) (tree : FileTree)
    (command : Command) :
    tree.SameBeside path (executed session tree command).2 ∧
      (command.onlyLooks = true ∨ (∃ failure, (executed session tree command).1 = .error failure) →
        (executed session tree command).2 = tree) := by
  cases command with
  | list =>
    unfold executed execute
    cases session.configuration <;> exact ⟨.refl path tree, fun _ => rfl⟩
  | search words =>
    unfold executed execute
    simp only
    cases session.search (String.intercalate " " words) <;> exact ⟨.refl path tree, fun _ => rfl⟩
  | schemas => exact ⟨.refl path tree, fun _ => rfl⟩
  | set field text =>
    cases hp : session.configuration.bind (·.property? field) with
    | none =>
      simp only [executed, execute, hp]
      exact ⟨.refl path tree, fun _ => trivial⟩
    | some p =>
      cases hv : Value.parse? p.value.kind text with
      | none =>
        simp only [executed, execute, hp, hv]
        exact ⟨.refl path tree, fun _ => trivial⟩
      | some value =>
        rw [executed_set hp hv]
        cases hset : session.setValue field value with
        | error e => exact ⟨.refl path tree, fun _ => rfl⟩
        | ok r =>
          obtain ⟨hbeside, hfail⟩ := spec_of_saved (ho.setValue hset) tree
          exact ⟨hbeside, fun h => hfail (h.resolve_left Bool.false_ne_true)⟩
  | reset =>
    rw [executed_reset]
    cases hrestore : session.restoreDefaults with
    | error e => exact ⟨.refl path tree, fun _ => rfl⟩
    | ok r =>
      obtain ⟨hbeside, hfail⟩ := spec_of_saved (ho.restoreDefaults hrestore) tree
      exact ⟨hbeside, fun h => hfail (h.resolve_left Bool.false_ne_true)⟩

/-- What is open is the file of the request, which is either as it was or new
and with the defaults in it. -/
theorem spec_of_openConfig {session' : Session} {tree' : FileTree}
    (h : openConfig session tree request = .ok (session', tree')) :
    session'.IsOpenAt request.config ∧ tree.SameBeside request.config tree' ∧
      (tree.pathExists request.config = true → tree' = tree) ∧
      (tree.pathExists request.config = false →
        ∃ schema, session.registry.get request.schema = .ok schema ∧
          tree'.readText request.config = .ok
            (Configuration.ofDefaults request.schema schema session.language).toText) := by
  unfold openConfig at h
  split at h
  next hexists =>
    split at h
    next opened ho =>
      cases h
      refine ⟨Session.isOpenAt_of_openFile ho, .refl _ tree, fun _ => rfl, ?_⟩
      intro hmissing
      rw [hexists] at hmissing
      cases hmissing
    next => cases h
  next hmissing =>
    cases ho : session.openDefault tree request.config request.schema with
    | error e =>
      rw [ho] at h
      cases h
    | ok r =>
      rw [ho] at h
      cases h
      obtain ⟨hopen, hbeside, hdefaults⟩ := Session.spec_of_openDefault ho
      exact ⟨hopen, hbeside, fun hexists => absurd hexists hmissing, fun _ => hdefaults⟩

/-- What a run may do to the files: change the one at its path, where it ends
well.  A file that is there stays as it is if the run fails or only looks at it,
and one that is not there is afterwards not there either, or has the defaults
in it, if the run fails. -/
structure Outcome.Spares (o : Outcome) (request : Request) (tree : FileTree) : Prop where
  elsewhere : ∀ location, tree.locate request.config ≠ .ok location →
    o.tree.node? location = tree.node? location
  existing : tree.pathExists request.config = true →
    o.ending.code ≠ 0 ∨ request.command.onlyLooks = true → o.tree = tree
  missing : tree.pathExists request.config = false → o.ending.code ≠ 0 → o.tree = tree ∨
    ∃ registry schema, Registry.loadDirectory tree request.schemaDirectory = .ok registry ∧
      registry.get request.schema = .ok schema ∧ ∀ language, o.tree.readText request.config
        = .ok (Configuration.ofDefaults request.schema schema language).toText

/-- Where nothing is changed there is nothing to be said. -/
theorem Outcome.spares_self {o : Outcome} (h : o.tree = tree) : o.Spares request tree where
  elsewhere := fun _ _ => by rw [h]
  existing := fun _ _ => h
  missing := fun _ _ => .inl h

/-- A run that gets as far as its command. -/
theorem spares_of_openConfig {registry : Registry} {language : Language} {opened : FileTree}
    {o : Outcome} (hload : Registry.loadDirectory tree request.schemaDirectory = .ok registry)
    (hopen : openConfig (Session.start registry language request.enforced) tree request
      = .ok (session, opened))
    (htree : o.tree = (executed session opened request.command).2)
    (hcode : o.ending.code ≠ 0 →
      ∃ failure, (executed session opened request.command).1 = .error failure) :
    o.Spares request tree := by
  obtain ⟨ho, hbeside, hexists, hmissing⟩ := spec_of_openConfig hopen
  obtain ⟨hexecuted, hkept⟩ := spec_of_executed ho opened request.command
  rw [← htree] at hexecuted hkept
  refine ⟨(hbeside.trans hexecuted).node?_eq, fun hpath h => ?_, fun hpath hne => .inr ?_⟩
  · exact (hkept (h.symm.imp_right hcode)).trans (hexists hpath)
  · -- the command has failed, so a file that was created is as it was then
    have hleft : o.tree = opened := hkept (.inr (hcode hne))
    obtain ⟨schema, hschema, htext⟩ := hmissing hpath
    refine ⟨registry, schema, hload, hschema, fun other => ?_⟩
    rw [hleft, ← Configuration.toText_ofDefaults schema language other]
    exact htext

theorem spares_runRequest (request : Request) (tree : FileTree) :
    (runRequest tree request).Spares request tree := by
  unfold runRequest
  cases hload : Registry.loadDirectory tree request.schemaDirectory with
  | error e => exact Outcome.spares_self rfl
  | ok registry =>
    simp only
    split
    · exact Outcome.spares_self rfl
    · cases loadLanguage tree request.language with
      | error failure => exact Outcome.spares_self rfl
      | ok language =>
        simp only
        cases hopen : openConfig (Session.start registry language request.enforced) tree
          request with
        | error failure => exact Outcome.spares_self rfl
        | ok r =>
          apply spares_of_openConfig hload hopen
          · unfold executed
            rcases hx : execute r.1 r.2 request.command with ⟨- | failure, lines, left⟩ <;>
              simp only [hx]
          · unfold executed
            rcases hx : execute r.1 r.2 request.command with ⟨- | failure, lines, left⟩
            · simp only [hx]
              exact fun hne => absurd rfl hne
            · exact fun _ => ⟨failure, rfl⟩

/-- **The files of a run.**  For all arguments and all files: a run in place
does what the function says, and it touches no file but the one at the path of
its request, and that one only as `Outcome.Spares` says.  Without a request it
touches nothing. -/
theorem run_spares_files (arguments : List String) (tree : FileTree) :
    outcome (runM arguments) tree = ((run arguments tree).result, (run arguments tree).tree) ∧
      match Arguments.read arguments with
      | .run request => (run arguments tree).Spares request tree
      | _ => (run arguments tree).tree = tree := by
  refine ⟨outcome_runM arguments tree, ?_⟩
  unfold run
  cases Arguments.read arguments with
  | run request => exact spares_runRequest request tree
  | _ => rfl

/-- The files of a schema with one setting. -/
def flagFiles : FileTree where
  nodes := [(["schemas"], .directory), (["schemas", "tr1.json"],
    .file ("\x7b\"categories\": [\x7b\"title\": \"t\", \"properties\": [\x7b\"field\": \"flag\", " ++
      "\"data_type\": \"bool\", \"default\": true\x7d]\x7d]\x7d").toUTF8)]
  unique := by decide

/-- Arguments that ask for a value that is none, in a file that is not there. -/
def flagArguments : List String := ["--schema-dir", "schemas", "a.json5", "set", "flag", "maybe"]

/-- The file is created, and has the defaults in it when the run fails. -/
theorem run_spares_files_flagFiles :
    (run flagArguments flagFiles).ending.code = 1 ∧
      (run flagArguments flagFiles).tree ≠ flagFiles ∧
      (∀ location ≠ ["a.json5"],
        (run flagArguments flagFiles).tree.node? location = flagFiles.node? location) ∧
      ∃ schema, (run flagArguments flagFiles).tree.readText "a.json5"
        = .ok (Configuration.ofDefaults "tr1" schema []).toText := by
  obtain ⟨hread, hpath⟩ : Arguments.read flagArguments = .run
        ⟨"a.json5", "schemas", "tr1", "resources/lang/en.toml", none, .set "flag" "maybe"⟩ ∧
      flagFiles.locate "a.json5" = .ok ["a.json5"] := by decide +kernel
  obtain ⟨hcode, htext⟩ : (run flagArguments flagFiles).ending.code = 1 ∧
      ((run flagArguments flagFiles).tree.readText "a.json5").toOption
        = some "\x7b\n  \"flag\": true\n\x7d" := by decide +kernel
  have hchanged : (run flagArguments flagFiles).tree ≠ flagFiles := by
    intro h
    rw [h] at htext
    revert htext
    decide +kernel
  have hspares := (run_spares_files flagArguments flagFiles).2
  rw [hread] at hspares
  have hmissing := hspares.missing (by decide +kernel) (by rw [hcode]; decide)
  obtain ⟨registry, schema, -, -, hdefaults⟩ := hmissing.resolve_left hchanged
  refine ⟨hcode, hchanged, fun location hne => ?_, schema, hdefaults []⟩
  apply hspares.elsewhere location
  show flagFiles.locate "a.json5" ≠ _
  rw [hpath]
  rintro ⟨⟩
  exact hne rfl

end CommandLine

end Settings

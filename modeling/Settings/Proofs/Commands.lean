/-
Settings/Proofs/Commands.lean

What the commands that change something leave in the file.  A run reads the
file, enforces what it is told to, changes one value or all of them, and writes
everything back.  In what is written

    the named field    has what setting its property to the value stores,
    the other fields   have what reading the file has given,
    the other names    have what they had in the file,

and after going back to the defaults all fields have these.  A value that has
been read either is the default or differs from it, so it is the default itself
that is written then (`ReadAs.value_restoreDefault`).

Enforced values are not written, and no command looks at them
(`executed_congr`).  So the main statement, `run_changes_named`, also says that
the outcome is the same whatever is enforced.
-/
import Settings.Proofs.Entries
import Settings.Proofs.Footprint
import Settings.Proofs.Registering

namespace Settings

open InPlace

/-! ### Back to the defaults -/

/-- Resetting leaves the default, unless another value is there that equals it. -/
theorem Setting.value_reset {s : Setting} (h : s.value = s.default ∨ (s.value == s.default) = false) :
    s.reset.value = s.default := by
  rw [reset_eq, put]
  split
  next heq =>
    refine h.resolve_right fun hne => ?_
    rw [heq] at hne
    cases hne
  next => exact value_withValue s.kind_default

namespace PropertySpec

variable {enums : Fields (List String)} {language : Language} {document : Document}
  {spec : PropertySpec} {p : Property}

/-- What is read is the property of the specification with another value. -/
theorem ReadAs.exists_put (h : spec.ReadAs enums language document p) :
    p = Configuration.freshProperty enums language spec ∨ ∃ w,
      w.kind = (spec.domain.fresh enums).kind ∧
      p = { Configuration.freshProperty enums language spec with
        setting := (spec.domain.fresh enums).put w } := by
  cases hentry : Fields.get? spec.field document with
  | none => exact .inl (h.fresh hentry).1
  | some entry =>
    obtain ⟨v, w, -, hw, hp⟩ := Property.load_eq_ok_iff.mp (h.loaded entry hentry)
    exact .inr ⟨w, Setting.kind_of_fitted hw, hp⟩

theorem ReadAs.field_eq (h : spec.ReadAs enums language document p) : p.field = spec.field := by
  rcases h.exists_put with rfl | ⟨w, -, rfl⟩ <;> rfl

theorem ReadAs.default_eq (h : spec.ReadAs enums language document p) :
    p.default = (spec.domain.fresh enums).default := by
  rcases h.exists_put with rfl | ⟨w, -, rfl⟩
  · rfl
  · show ((spec.domain.fresh enums).put w).default = _
    rw [← Setting.default_frame, Setting.frame_put, Setting.default_frame]

/-- What is read is the default or differs from it. -/
theorem ReadAs.value_eq_or (h : spec.ReadAs enums language document p) :
    p.value = p.default ∨ (p.value == p.default) = false := by
  have hfresh := spec.domain.value_fresh enums
  rw [h.default_eq]
  rcases h.exists_put with rfl | ⟨w, hk, rfl⟩
  · exact .inl hfresh
  · show ((spec.domain.fresh enums).put w).value = _ ∨
      (((spec.domain.fresh enums).put w).value == _) = false
    rw [Setting.put]
    split
    next => exact .inl hfresh
    next hne =>
      rw [Setting.value_withValue hk, Value.beq_comm, ← hfresh]
      exact .inr (Bool.eq_false_iff.mpr hne)

/-- So going back to the default leaves the default itself. -/
theorem ReadAs.value_restoreDefault (h : spec.ReadAs enums language document p) :
    p.restoreDefault.1.value = p.default := Setting.value_reset h.value_eq_or

end PropertySpec

/-! ### What is written -/

namespace Configuration

variable {schema : Schema} {c d : Configuration} {p q : Property} {document : Document}

/-- The fields of a configuration with another value, all of them. -/
theorem get?_toDocument_assign {field : String} {v : Value} {change : Option Change}
    (hn : (c.properties.map (·.field)).Nodup) (hp : c.property? field = some p)
    (hq : p.setValue v = .ok (q, change)) {r : Property} (hr : r ∈ c.properties) :
    Fields.get? r.field (c.assign q).toDocument
      = some (if r.field = field then q.value.toJson else r.value.toJson) := by
  have hedit := Property.edit_of_setValue hq
  have hqfield : q.field = field := hedit.field.trans (field_of_find? hp)
  have hn' : ((c.assign q).properties.map (·.field)).Nodup := by rwa [fields_assign]
  split
  next hf =>
    have hm : q ∈ (c.assign q).properties :=
      List.mem_of_find?_eq_some (property?_assign hp hqfield)
    rw [hf, ← hqfield]
    exact get?_toDocument_field hn' hm
  next hf =>
    have hm : r ∈ (c.assign q).properties := mem_replace_of_ne (hqfield ▸ hf) hr
    exact get?_toDocument_field hn' hm

/-- The fields of a configuration that has gone back to its defaults. -/
theorem get?_toDocument_restoreDefaults (hn : (c.properties.map (·.field)).Nodup)
    (hr : p ∈ c.properties) (hvalue : p.restoreDefault.1.value = p.default) :
    Fields.get? p.field c.restoreDefaults.1.toDocument = some p.default.toJson := by
  have hn' : (c.restoreDefaults.1.properties.map (·.field)).Nodup := by
    rw [properties_restoreDefaults, List.map_map]
    exact hn
  have hm : p.restoreDefault.1 ∈ c.restoreDefaults.1.properties := by
    rw [properties_restoreDefaults]
    exact List.mem_map_of_mem hr
  rw [← hvalue]
  exact get?_toDocument_field hn' hm

end Configuration

/-- What a command that changes something leaves under the fields, in terms of
what has been read. -/
def Command.Leaves (c : Configuration) (left : Document) : Command → Prop
  | .set field text =>
    ∃ p v q change, c.property? field = some p ∧ Value.parse? p.value.kind text = some v ∧
      p.setValue v = .ok (q, change) ∧ ∀ r ∈ c.properties, Fields.get? r.field left
        = some (if r.field = field then q.value.toJson else r.value.toJson)
  | .reset => ∀ r ∈ c.properties, Fields.get? r.field left = some r.default.toJson
  | _ => True

/-- The object in which a command has changed what it names, and nothing else
of the document that has been read. -/
structure Command.Rewrites (command : Command) (schema : Schema) (c : Configuration)
    (document left : Document) : Prop where
  nodup_keys : (Fields.keys left).Nodup
  fields : command.Leaves c left
  /-- What the schema does not know, and nothing more. -/
  others : ∀ key, key ∉ schema.properties.map (·.field) →
    Fields.get? key left = Fields.get? key document

/-! ### Enforced values -/

/-- What a file enforces, if one is named, can be enforced. -/
def Configuration.Enforces (c : Configuration) (tree : FileTree) (enforced : Option String) : Prop :=
  ∀ path, enforced = some path → ∃ changes d, c.applyEnforced tree path = (.ok changes, d)

namespace Session

variable {session session' : Session} {c d d' : Configuration} {tree : FileTree}
  {path name field : String} {v : Value}

theorem exists_enforceOnOpening_iff :
    (∃ d, session.enforceOnOpening tree c = .ok d) ↔ c.Enforces tree session.enforcedPath := by
  unfold enforceOnOpening Configuration.Enforces
  cases session.enforcedPath with
  | none => simp
  | some path =>
    cases hresult : c.applyEnforced tree path with
    | mk result after => cases result <;> simp [hresult]

/-- What is opened is what is read, but for enforced values. -/
theorem exists_of_openFile (h : session.openFile tree path name = .ok session') :
    ∃ c d, Configuration.read tree session.registry session.language path name = .ok c ∧
      session.enforceOnOpening tree c = .ok d ∧ session' = session.withConfiguration d := by
  obtain ⟨c, hc, h⟩ := exists_of_bind_eq_ok h
  obtain ⟨d, hd, h⟩ := exists_of_bind_eq_ok h
  cases h
  exact ⟨c, d, hc, hd, rfl⟩

end Session

namespace CommandLine

variable {session session' : Session} {c d d' : Configuration} {tree left : FileTree}
  {path field text : String} {command : Command} {lines : List String}

/-- What saving leaves is the text of the configuration. -/
theorem readText_of_saved (hopen : session.configuration = some d) (hpath : d.path = some path)
    (h : saved session tree = (.ok lines, left)) : left.readText path = .ok d.toText := by
  unfold saved at h
  split at h
  · cases h
  next r hsave =>
    cases h
    unfold Session.save at hsave
    rw [Session.current_eq_ok_iff.mpr hopen] at hsave
    simp only [ok_bind, hpath] at hsave
    unfold Session.saveAs at hsave
    rw [Session.current_eq_ok_iff.mpr hopen, ok_bind] at hsave
    obtain ⟨⟨written, after, tree'⟩, hw, hsave⟩ := exists_of_bind_eq_ok hsave
    cases hsave
    exact Configuration.readText_of_write hw

/-- Saving does not look at enforced values. -/
theorem saved_congr (hopen : session.configuration = some d)
    (hopen' : session'.configuration = some d') (h : d.bare = d'.bare) (tree : FileTree) :
    saved session tree = saved session' tree := by
  have hcurrent := Session.current_eq_ok_iff.mpr hopen
  have hcurrent' := Session.current_eq_ok_iff.mpr hopen'
  rw [saved, saved, Session.save, Session.save, hcurrent, hcurrent', ok_bind, ok_bind,
    Configuration.path_eq_of_bare_eq h]
  cases d'.path with
  | none => rfl
  | some path =>
    have hwrite := d.write_bare tree path
    rw [h, d'.write_bare] at hwrite
    simp only [Session.saveAs, hcurrent, hcurrent', ok_bind]
    rcases cases_of_map_eq hwrite with ⟨e, he', he⟩ | ⟨r', r, hr', hr, hsame⟩
    · rw [he, he']
      rfl
    · rw [hr, hr']
      exact congrArg (fun r => (Except.ok [], r.2.2)) hsame.symm

/-- Nor does putting in a value and saving then. -/
theorem saved_setValue_congr (hopen : session.configuration = some d)
    (hopen' : session'.configuration = some d') (h : d.bare = d'.bare) (field : String) (v : Value)
    (tree : FileTree) :
    (match session.setValue field v with
      | .error e => (.error (.error e), tree)
      | .ok (session, _) => saved session tree) =
    (match session'.setValue field v with
      | .error e => (.error (.error e), tree)
      | .ok (session, _) => saved session tree : Except Failure (List String) × FileTree) := by
  obtain ⟨adopt, hadopt, hset⟩ := Session.setValue_eq hopen field v
  obtain ⟨adopt', hadopt', hset'⟩ := Session.setValue_eq hopen' field v
  have hbare := d.setValue_bare field v
  rw [h, d'.setValue_bare] at hbare
  rw [hset, hset']
  rcases cases_of_map_eq hbare with ⟨e, he', he⟩ | ⟨r', r, hr', hr, hsame⟩
  · rw [he, he']
    rfl
  · rw [hr, hr']
    exact saved_congr (hadopt r) (hadopt' r') (congrArg Prod.fst hsame).symm tree

/-- Nor does any command that changes something. -/
theorem executed_congr (hopen : session.configuration = some d)
    (hopen' : session'.configuration = some d') (h : d.bare = d'.bare)
    (hcommand : command.onlyLooks = false) (tree : FileTree) :
    executed session tree command = executed session' tree command := by
  cases command with
  | list | search | schemas => cases hcommand
  | reset =>
    have hrestore : d.restoreDefaults.1.bare = d'.restoreDefaults.1.bare := by
      have hbare := d.restoreDefaults_bare
      rw [h, d'.restoreDefaults_bare] at hbare
      exact (congrArg Prod.fst hbare).symm
    rw [executed_reset, executed_reset, Session.restoreDefaults, Session.restoreDefaults,
      Session.current_eq_ok_iff.mpr hopen, Session.current_eq_ok_iff.mpr hopen']
    exact saved_congr rfl rfl hrestore tree
  | set field text =>
    have hbind : session.configuration.bind (·.property? field) = d.property? field := by
      rw [hopen, Option.bind_some]
    have hbind' : session'.configuration.bind (·.property? field) = d'.property? field := by
      rw [hopen', Option.bind_some]
    have hfound : (d'.property? field).map Property.bare = (d.property? field).map Property.bare := by
      rw [← Configuration.property?_bare, ← h, Configuration.property?_bare]
    cases hp : d.property? field with
    | none =>
      rw [hp, Option.map_none, Option.map_eq_none_iff] at hfound
      simp only [executed, execute, hbind.trans hp, hbind'.trans hfound]
    | some p =>
      -- the same property is found, with the same value to guide the reader
      rw [hp, Option.map_some, Option.map_eq_some_iff] at hfound
      obtain ⟨p', hp', hbare⟩ := hfound
      have hvalue : p'.bare.value = p.bare.value := congrArg Property.value hbare
      rw [Property.value_bare, Property.value_bare] at hvalue
      cases hv : Value.parse? p.value.kind text with
      | none => simp only [executed, execute, hbind.trans hp, hbind'.trans hp', hvalue, hv]
      | some v =>
        have hv' : Value.parse? p'.value.kind text = some v := by rw [hvalue, hv]
        rw [executed_set (hbind.trans hp) hv, executed_set (hbind'.trans hp') hv']
        exact saved_setValue_congr hopen hopen' h field v tree

/-! ### What commands leave -/

/-- A value that has been set is in the text that is left, and nothing else has
changed in it. -/
theorem exists_of_executed_set (hopen : session.configuration = some c)
    (hpath : c.path = some path)
    (h : executed session tree (.set field text) = (.ok lines, left)) :
    ∃ p v q change, c.property? field = some p ∧ Value.parse? p.value.kind text = some v ∧
      p.setValue v = .ok (q, change) ∧ left.readText path = .ok (c.assign q).toText := by
  have hbind : session.configuration.bind (·.property? field) = c.property? field := by
    rw [hopen, Option.bind_some]
  cases hp : c.property? field with
  | none =>
    simp only [executed, execute, hbind.trans hp] at h
    cases h
  | some p =>
    cases hv : Value.parse? p.value.kind text with
    | none =>
      simp only [executed, execute, hbind.trans hp, hv] at h
      cases h
    | some v =>
      obtain ⟨adopt, hadopt, hset⟩ := Session.setValue_eq hopen field v
      rw [executed_set (hbind.trans hp) hv, hset] at h
      cases hq : p.setValue v with
      | error e =>
        have hfails : c.setValue field v = .error (.malformed e) := by
          rw [Configuration.setValue, Configuration.modify, hp]
          simp only [hq]
        rw [hfails] at h
        cases h
      | ok r =>
        obtain ⟨q, change⟩ := r
        rw [Configuration.setValue, Configuration.modify_eq_ok hp hq
          (Property.edit_of_setValue hq).field] at h
        exact ⟨p, v, q, change, rfl, hv, hq, readText_of_saved (hadopt _) hpath h⟩

/-- So have the defaults, all of them. -/
theorem readText_of_executed_reset (hopen : session.configuration = some c)
    (hpath : c.path = some path) (h : executed session tree .reset = (.ok lines, left)) :
    left.readText path = .ok c.restoreDefaults.1.toText := by
  rw [executed_reset, Session.restoreDefaults, Session.current_eq_ok_iff.mpr hopen] at h
  have hsaved : saved (session.withConfiguration c.restoreDefaults.1) tree = (.ok lines, left) := h
  exact readText_of_saved rfl hpath hsaved

/-- What commands leave is a document with the names that have been read. -/
theorem exists_leaves (hopen : session.configuration = some c) (hpath : c.path = some path)
    (hn : (c.properties.map (·.field)).Nodup)
    (hreset : ∀ p ∈ c.properties, p.restoreDefault.1.value = p.default)
    (hcommand : command.onlyLooks = false)
    (h : executed session tree command = (.ok lines, left)) :
    ∃ d : Configuration, left.readText path = .ok d.toText ∧ d.extra = c.extra ∧
      d.properties.map (·.field) = c.properties.map (·.field) ∧
      command.Leaves c d.toDocument := by
  cases command with
  | list | search | schemas => cases hcommand
  | set field text =>
    obtain ⟨p, v, q, change, hp, hv, hq, htext⟩ := exists_of_executed_set hopen hpath h
    exact ⟨c.assign q, htext, rfl, Configuration.fields_assign c q,
      p, v, q, change, hp, hv, hq,
      fun r hr => Configuration.get?_toDocument_assign hn hp hq hr⟩
  | reset =>
    refine ⟨c.restoreDefaults.1, readText_of_executed_reset hopen hpath h, rfl, ?_,
      fun r hr => Configuration.get?_toDocument_restoreDefaults hn hr (hreset r hr)⟩
    rw [Configuration.properties_restoreDefaults, List.map_map]
    rfl

/-! ### Runs -/

theorem Ending.code_eq_zero_iff {ending : Ending} : ending.code = 0 ↔ ending = .success := by
  cases ending <;> simp [Ending.code]

theorem runRequest_eq_success {request : Request} (h : (runRequest tree request).ending.code = 0) :
    runRequest tree request
      = ⟨.success, (runRequest tree request).lines, (runRequest tree request).tree⟩ := by
  rw [← Ending.code_eq_zero_iff.mp h]

theorem execute_eq_iff {after : FileTree} : execute session tree command = (none, lines, after) ↔
    executed session tree command = (.ok lines, after) := by
  unfold executed
  rcases execute session tree command with ⟨- | failure, lines', after'⟩ <;> simp

/-- A run that changes a file that is there: what it loads, reads, enforces and
does. -/
theorem runRequest_eq_success_iff (request : Request) (hcommand : request.command.onlyLooks = false)
    (hexists : tree.pathExists request.config = true) :
    runRequest tree request = ⟨.success, lines, left⟩ ↔
      ∃ registry language c d,
        Registry.loadDirectory tree request.schemaDirectory = .ok registry ∧
        loadLanguage tree request.language = .ok language ∧
        Configuration.read tree registry language request.config request.schema = .ok c ∧
        (Session.start registry language request.enforced).enforceOnOpening tree c = .ok d ∧
        executed ((Session.start registry language request.enforced).withConfiguration d) tree
          request.command = (.ok lines, left) := by
  have hschemas : request.command ≠ .schemas := by
    intro h
    rw [h] at hcommand
    cases hcommand
  constructor
  · intro h
    unfold runRequest at h
    cases hregistry : Registry.loadDirectory tree request.schemaDirectory with
    | error e => simp [hregistry, fail] at h
    | ok registry =>
      simp only [hregistry, if_neg hschemas] at h
      cases hlanguage : loadLanguage tree request.language with
      | error failure => simp [hlanguage, fail] at h
      | ok language =>
        simp only [hlanguage, openConfig, hexists, if_true] at h
        cases hopen : (Session.start registry language request.enforced).openFile tree
          request.config request.schema with
        | error e => simp [hopen, fail] at h
        | ok session =>
          simp only [hopen] at h
          obtain ⟨c, d, hc, hd, rfl⟩ := Session.exists_of_openFile hopen
          refine ⟨registry, language, c, d, rfl, rfl, hc, hd, execute_eq_iff.mp ?_⟩
          split at h
          · cases h
          next hexecute =>
            cases h
            exact hexecute
  · rintro ⟨registry, language, c, d, hregistry, hlanguage, hc, hd, hexecuted⟩
    have hopen : (Session.start registry language request.enforced).openFile tree request.config
        request.schema = .ok
          ((Session.start registry language request.enforced).withConfiguration d) := by
      show (Configuration.read tree registry language request.config request.schema >>= _) = _
      rw [hc, ok_bind, hd, ok_bind]
      rfl
    simp only [runRequest, hregistry, if_neg hschemas, hlanguage, openConfig, hexists, if_true,
      hopen, execute_eq_iff.mpr hexecuted]

/-- What is enforced does not show: another run that gets as far as its command
ends in the same way. -/
theorem runRequest_congr {request : Request} (hcommand : request.command.onlyLooks = false)
    (hexists : tree.pathExists request.config = true)
    (h : runRequest tree request = ⟨.success, lines, left⟩) {registry : Registry}
    {language : Language}
    (hregistry : Registry.loadDirectory tree request.schemaDirectory = .ok registry)
    (hlanguage : loadLanguage tree request.language = .ok language)
    (hc : Configuration.read tree registry language request.config request.schema = .ok c)
    (enforced : Option String) :
    (c.Enforces tree enforced →
      runRequest tree { request with enforced } = ⟨.success, lines, left⟩) ∧
    ((runRequest tree { request with enforced }).ending.code = 0 → c.Enforces tree enforced) := by
  refine ⟨fun henforces => ?_, fun hcode => ?_⟩
  · obtain ⟨registry', language', c', d, hregistry', hlanguage', hc', hd, hexecuted⟩ :=
      (runRequest_eq_success_iff request hcommand hexists).mp h
    cases hregistry.symm.trans hregistry'
    cases hlanguage.symm.trans hlanguage'
    cases hc.symm.trans hc'
    obtain ⟨d', hd'⟩ : ∃ d', (Session.start registry language enforced).enforceOnOpening tree c
        = .ok d' := Session.exists_enforceOnOpening_iff.mpr henforces
    refine (runRequest_eq_success_iff { request with enforced } hcommand hexists).mpr
      ⟨registry, language, c, d', hregistry, hlanguage, hc, hd', ?_⟩
    -- both have enforced something on what has been read
    have hbare : d'.bare = d.bare :=
      (Session.bare_of_enforceOnOpening hd').trans (Session.bare_of_enforceOnOpening hd).symm
    exact (executed_congr rfl rfl hbare hcommand tree).trans hexecuted
  · have hsuccess := runRequest_eq_success hcode
    obtain ⟨registry', language', c', d, hregistry', hlanguage', hc', hd, -⟩ :=
      (runRequest_eq_success_iff { request with enforced } hcommand hexists).mp hsuccess
    cases hregistry.symm.trans hregistry'
    cases hlanguage.symm.trans hlanguage'
    cases hc.symm.trans hc'
    exact Session.exists_enforceOnOpening_iff.mp ⟨d, hd⟩

/-- What is read without enforced values is what the command works on. -/
theorem exists_rewrites {request : Request} (hcommand : request.command.onlyLooks = false)
    {registry : Registry} {language : Language}
    (hregistry : Registry.loadDirectory tree request.schemaDirectory = .ok registry)
    (hc : Configuration.read tree registry language request.config request.schema = .ok c)
    (hd : (Session.start registry language request.enforced).enforceOnOpening tree c = .ok d)
    (hexecuted : executed ((Session.start registry language request.enforced).withConfiguration d)
      tree request.command = (.ok lines, left)) :
    ∃ schema document written, registry.get request.schema = .ok schema ∧
      schema.validate = .ok () ∧ Document.read tree request.config = .ok document ∧
      List.Forall₂ (PropertySpec.ReadAs schema.enums language document)
        schema.properties c.properties ∧
      left.readText request.config = .ok (Json.object written).pretty ∧
      request.command.Rewrites schema c document written := by
  obtain ⟨schema, hschema⟩ : ∃ schema, registry.get request.schema = .ok schema := by
    cases hs : registry.get request.schema with
    | ok schema => exact ⟨schema, rfl⟩
    | error e =>
      rw [Configuration.read, hs] at hc
      cases hc
  have hreadWith : Configuration.readWith tree request.schema schema language request.config
      = .ok c := by
    rwa [Configuration.read, hschema] at hc
  have hvalid := Registry.valid_of_loadDirectory hregistry _ _ hschema
  obtain ⟨hn, -⟩ := Schema.validate_eq_ok_iff.mp hvalid
  obtain ⟨document, hdocument, hextra⟩ := Configuration.exists_of_readWith hreadWith
  obtain ⟨-, -, hall, -⟩ := Configuration.read_pointwise language hschema hn hdocument
  have hreadAs := hall c hc
  have hfields : c.properties.map (·.field) = schema.properties.map (·.field) :=
    (Configuration.Reachable.read hreadWith).fields_eq
  have hreset : ∀ p ∈ c.properties, p.restoreDefault.1.value = p.default :=
    Configuration.forall_mem_of_forall₂ hreadAs fun _ _ h => h.value_restoreDefault
  have hbare : d.bare = c.bare := Session.bare_of_enforceOnOpening hd
  have hplain : executed ((Session.start registry language request.enforced).withConfiguration c)
      tree request.command = (.ok lines, left) :=
    (executed_congr rfl rfl hbare.symm hcommand tree).trans hexecuted
  obtain ⟨after, htext, hsame, hnames, hleaves⟩ :=
    exists_leaves rfl (Configuration.path_of_read hc) (hfields ▸ hn) hreset hcommand hplain
  refine ⟨schema, document, after.toDocument, hschema, hvalid, hdocument, hreadAs, htext,
    Configuration.nodup_keys_toDocument after, hleaves, fun key hkey => ?_⟩
  rw [Configuration.get?_toDocument_extra (by rwa [hnames, hfields]), hsame, hextra,
    Configuration.get?_rest (Configuration.nodup_keys_of_read hdocument), Configuration.fields_ofDefaults,
    if_neg hkey]

/-- **Commands change what they name.**  Whenever a command that changes
something succeeds on a file that is there, the file holds an object afterwards
in which every name stands once.  Under the fields it has what the command
leaves of what has been read, under every other name what the file had there
before, and no other names.  The outcome is the same whatever is enforced, as
long as it can be enforced. -/
theorem run_changes_named {arguments : List String} {request : Request}
    (hread : Arguments.read arguments = .run request)
    (hcommand : request.command.onlyLooks = false)
    (hexists : tree.pathExists request.config = true)
    (hcode : (run arguments tree).ending.code = 0) :
    ∃ registry schema language document c left,
      Registry.loadDirectory tree request.schemaDirectory = .ok registry ∧
      registry.get request.schema = .ok schema ∧ schema.validate = .ok () ∧
      loadLanguage tree request.language = .ok language ∧
      Document.read tree request.config = .ok document ∧
      Configuration.read tree registry language request.config request.schema = .ok c ∧
      List.Forall₂ (fun spec p => p.field = spec.field ∧
          p.default = (spec.domain.fresh schema.enums).default ∧
          spec.ReadAs schema.enums language document p)
        schema.properties c.properties ∧
      (run arguments tree).tree.readText request.config = .ok (Json.object left).pretty ∧
      request.command.Rewrites schema c document left ∧
      ∀ others enforced, Arguments.read others = .run { request with enforced } →
        (c.Enforces tree enforced → run others tree = run arguments tree) ∧
        ((run others tree).ending.code = 0 → c.Enforces tree enforced) := by
  have hrun : ∀ {arguments : List String} {request : Request},
      Arguments.read arguments = .run request → run arguments tree = runRequest tree request := by
    intro arguments request h
    rw [run, h]
  rw [hrun hread] at hcode ⊢
  have hsuccess := runRequest_eq_success hcode
  obtain ⟨registry, language, c, d, hregistry, hlanguage, hc, hd, hexecuted⟩ :=
    (runRequest_eq_success_iff request hcommand hexists).mp hsuccess
  obtain ⟨schema, document, left, hschema, hvalid, hdocument, hreadAs, htext, hrewrites⟩ :=
    exists_rewrites hcommand hregistry hc hd hexecuted
  refine ⟨registry, schema, language, document, c, left, hregistry, hschema, hvalid, hlanguage,
    hdocument, hc, hreadAs.imp fun _ _ h => ⟨h.field_eq, h.default_eq, h⟩, htext, hrewrites, ?_⟩
  intro others enforced hothers
  obtain ⟨hsame, henforces⟩ :=
    runRequest_congr hcommand hexists hsuccess hregistry hlanguage hc enforced
  rw [hrun hothers]
  exact ⟨fun h => (hsame h).trans hsuccess.symm, henforces⟩

/-- The files of a schema with two settings, one of which a file enforces. -/
def fovFiles : FileTree where
  nodes := [(["schemas"], .directory), (["schemas", "tr1.json"],
    .file ("\x7b\"categories\": [\x7b\"title\": \"t\", \"properties\": [" ++
      "\x7b\"field\": \"flag\", \"data_type\": \"bool\", \"default\": true\x7d, " ++
      "\x7b\"field\": \"fov\", \"data_type\": \"integer\", \"default\": 65, \"max\": 150\x7d" ++
      "]\x7d]\x7d").toUTF8),
    (["a.json5"], .file "\x7b\"note\": [1], \"flag\": false\x7d".toUTF8),
    (["g.json5"], .file "\x7b\"enforced_config\": \x7b\"fov\": 90\x7d\x7d".toUTF8)]
  unique := by decide

/-- A value that is too large, with or without an enforced one. -/
def fovArguments (enforced : List String) : List String :=
  enforced ++ ["--schema-dir", "schemas", "a.json5", "set", "fov", "500"]

/-- What these arguments ask for. -/
def fovRequest (enforced : Option String) : Request :=
  ⟨"a.json5", "schemas", "tr1", "resources/lang/en.toml", enforced, .set "fov" "500"⟩

/-- The setting is written next to what has been there, and the enforced value
is not. -/
theorem run_changes_named_fovFiles :
    ((run (fovArguments []) fovFiles).tree.readText "a.json5").toOption
        = some "\x7b\n  \"flag\": false,\n  \"fov\": 150,\n  \"note\": [\n    1\n  ]\n\x7d" ∧
      run (fovArguments ["--enforced", "g.json5"]) fovFiles = run (fovArguments []) fovFiles ∧
      ∃ left, (run (fovArguments []) fovFiles).tree.readText "a.json5"
          = .ok (Json.object left).pretty ∧ (Fields.keys left).Nodup := by
  obtain ⟨hread, hothers, hexists⟩ : Arguments.read (fovArguments []) = .run (fovRequest none) ∧
      Arguments.read (fovArguments ["--enforced", "g.json5"])
        = .run (fovRequest (some "g.json5")) ∧
      fovFiles.pathExists "a.json5" = true := by decide +kernel
  obtain ⟨hcode, hcode', htext⟩ : (run (fovArguments []) fovFiles).ending.code = 0 ∧
      (run (fovArguments ["--enforced", "g.json5"]) fovFiles).ending.code = 0 ∧
      ((run (fovArguments []) fovFiles).tree.readText "a.json5").toOption
        = some "\x7b\n  \"flag\": false,\n  \"fov\": 150,\n  \"note\": [\n    1\n  ]\n\x7d" := by
    decide +kernel
  obtain ⟨registry, schema, language, document, c, left, -, -, -, -, -, -, -, hleft, hrewrites,
    hsame⟩ := run_changes_named hread rfl hexists hcode
  obtain ⟨henforced, hloads⟩ := hsame _ _ hothers
  exact ⟨htext, henforced (hloads hcode'), left, hleft, hrewrites.nodup_keys⟩

end CommandLine

end Settings

/-
Settings/Proofs/Reloading.lean

Reading a configuration again.  The file is read into a new configuration, and
the enforced values of the old one are put into it, property by property.
There they are fitted once more, although they have been fitted before, so it
matters whether fitting twice is the same as fitting once.

Everything but the enforced values is that of reading the same path
(`readWith_of_reload`).  The main statement is about the rest: where the file
can be read, reading again succeeds exactly if every enforced decimal is
finite, and keeps the enforced values exactly if each of them is also fitted to
an equal one (`reload_keeps_iff`).
-/
import Settings.Proofs.Bare
import Settings.Proofs.Enforcing
import Settings.Proofs.Keeping
import Settings.Proofs.Saving

namespace Settings

/-! ### Fitting again -/

namespace Setting

variable {s : Setting} {v : Value}

/-- Values of the setting's kind are fitted if they are finite. -/
theorem exists_fitted_iff (hk : v.kind = s.kind)
    (hfit : v.kind ≠ .decimal → s.fitted v = .ok v) :
    (∃ w, s.fitted v = .ok w) ↔ v.IsFinite := by
  cases v with
  | decimal x =>
    cases s with
    | decimal slot bounds places =>
      constructor
      · rintro ⟨w, hw⟩
        obtain ⟨y, hy, hx, -⟩ := fitted_decimal_eq_ok_iff.mp hw
        cases hy
        exact hx
      · exact fun hx => ⟨_, if_pos hx⟩
    | _ => cases hk
  | _ => exact ⟨fun _ => trivial, fun _ => ⟨_, hfit (fun h => nomatch h)⟩⟩

/-- Whether a value would return if it were the present one. -/
theorem returns_withValue_iff (hk : v.kind = s.kind)
    (hfit : v.kind ≠ .decimal → s.fitted v = .ok v) :
    (s.withValue v).Returns ↔ v.IsFinite ∧ ∃ w, s.fitted v = .ok w ∧ (w == v) = true := by
  have hvalue : (s.withValue v).value = v := value_withValue hk
  have hfitted : (s.withValue v).fitted v = s.fitted v :=
    (take_congr (frame_withValue s v) .null v).2
  rw [returns_iff, hvalue, hfitted]
  rw [hvalue, hfitted, kind_withValue, ← hk]
  exact hfit

end Setting

namespace Property

/-- The enforced value, if there is one, is finite and fitted to an equal one. -/
def Carries (p : Property) : Prop := ∀ v ∈ p.override, (p.setting.withValue v).Returns

instance : DecidablePred Carries := fun p => by
  unfold Carries
  infer_instance

/-- The second property is one that the first has been read anew for. -/
structure Renews (q p : Property) : Prop where
  field_eq : q.field = p.field
  frame_eq : q.setting.frame = p.setting.frame
  override_eq : q.override = none
  kind_eq : ∀ v ∈ p.override, v.kind = p.setting.kind
  fitted_eq : ∀ v ∈ p.override, v.kind ≠ .decimal → p.setting.fitted v = .ok v

variable {p q r : Property}

/-- The new property takes the enforced value if it is finite. -/
theorem Renews.exists_setOverride_iff (h : Renews q p) :
    (∃ r, q.setOverride p.override = .ok r) ↔ ∀ v ∈ p.override, v.IsFinite := by
  cases ho : p.override with
  | none => exact ⟨fun _ v hv => (nomatch hv), fun _ => ⟨_, rfl⟩⟩
  | some v =>
    have hfitted : q.setting.fitted v = p.setting.fitted v :=
      (Setting.take_congr h.frame_eq .null v).2
    rw [Property.exists_setOverride_iff, hfitted,
      Setting.exists_fitted_iff (h.kind_eq v ho) (h.fitted_eq v ho)]
    simp

/-- What it takes equals the enforced value if that is fitted to an equal one. -/
theorem Renews.override_beq_iff (h : Renews q p) {changes : List Change}
    (hr : q.setOverride p.override = .ok (r, changes)) :
    (r.override == p.override) = true ↔ p.Carries := by
  cases ho : p.override with
  | none =>
    rw [ho] at hr
    have hr : (q.withOverride none).1 = r := congrArg Prod.fst (Except.ok.inj hr)
    rw [← hr, override_withOverride_none]
    exact ⟨fun _ v hv => by simp [ho] at hv, fun _ => rfl⟩
  | some v =>
    have hfitted : q.setting.fitted v = p.setting.fitted v :=
      (Setting.take_congr h.frame_eq .null v).2
    have hcarries : p.Carries ↔ v.IsFinite ∧ ∃ w, p.setting.fitted v = .ok w ∧ (w == v) = true := by
      rw [← Setting.returns_withValue_iff (h.kind_eq v ho) (h.fitted_eq v ho)]
      simp [Carries, ho]
    rw [ho, setOverride] at hr
    split at hr
    · cases hr
    next u hu =>
      obtain ⟨w, hw, rfl⟩ := Setting.fit_eq_ok_iff.mp hu
      -- there is no enforced value yet, so the fitted one is taken
      have hr : (q.withOverride (some (q.setting.put w).value)).1 = r :=
        congrArg Prod.fst (Except.ok.inj hr)
      have hover : r.override = some (q.setting.put w).value := by
        rw [← hr, withOverride, h.override_eq]
        rfl
      have hbeq : (r.override == some v) = (w == v) := by
        rw [hover]
        exact Setting.value_put_beq (Setting.kind_of_fitted hw) v
      rw [hfitted] at hw
      rw [hbeq, hcarries, hw]
      have hfinite := (Setting.exists_fitted_iff (h.kind_eq v ho) (h.fitted_eq v ho)).mp ⟨w, hw⟩
      simp [hfinite]

/-- What carries over is finite. -/
theorem Renews.isFinite (h : Renews q p) (hc : p.Carries) : ∀ v ∈ p.override, v.IsFinite :=
  fun v hv =>
    ((Setting.returns_withValue_iff (h.kind_eq v hv) (h.fitted_eq v hv)).mp (hc v hv)).1

end Property

namespace Configuration

open Property

variable {properties fresh : List Property}

/-! ### Enforcing one value after another -/

/-- Enforcing succeeds where each property takes its value. -/
theorem enforceAll_cons_eq_ok_iff {p : Property} {value : Option Value}
    {values : List (Option Value)} {changes : List Change} {after : List Property} :
    enforceAll (p :: properties) (value :: values) = (.ok changes, after) ↔
      ∃ q first more rest, p.setOverride value = .ok (q, first) ∧
        enforceAll properties values = (.ok more, rest) ∧
        changes = first ++ more ∧ after = q :: rest := by
  rw [enforceAll]
  cases p.setOverride value with
  | error e => simp
  | ok r =>
    obtain ⟨q, first⟩ := r
    cases hrest : enforceAll properties values with
    | mk result rest =>
      cases result with
      | error e => simp [Except.map]
      | ok more => simp [Except.map, eq_comm]

/-- The enforced values are all taken if they are finite. -/
theorem exists_enforceAll_iff (h : List.Forall₂ Renews fresh properties) :
    (∃ changes after, enforceAll fresh (properties.map (·.override)) = (.ok changes, after)) ↔
      ∀ p ∈ properties, ∀ v ∈ p.override, v.IsFinite := by
  induction h with
  | nil => exact ⟨fun _ p hp => (nomatch hp), fun _ => ⟨[], [], rfl⟩⟩
  | @cons q p fresh properties hqp _ ih =>
    rw [List.forall_mem_cons, ← ih, ← hqp.exists_setOverride_iff, List.map_cons]
    simp only [enforceAll_cons_eq_ok_iff]
    constructor
    · rintro ⟨-, -, q', first, more, rest, hfirst, hrest, -, -⟩
      exact ⟨⟨_, hfirst⟩, more, rest, hrest⟩
    · rintro ⟨⟨⟨q', first⟩, hfirst⟩, more, rest, hrest⟩
      exact ⟨_, _, q', first, more, rest, hfirst, hrest, rfl, rfl⟩

/-- And those that carry over are kept. -/
theorem forall₂_enforceAll (h : List.Forall₂ Renews fresh properties) {changes : List Change}
    {after : List Property}
    (he : enforceAll fresh (properties.map (·.override)) = (.ok changes, after)) :
    List.Forall₂ (fun p q => q.field = p.field ∧
      ((q.override == p.override) = true ↔ p.Carries)) properties after := by
  induction h generalizing changes after with
  | nil =>
    cases he
    exact .nil
  | @cons q p fresh properties hqp _ ih =>
    rw [List.map_cons, enforceAll_cons_eq_ok_iff] at he
    obtain ⟨r, first, more, rest, hfirst, hrest, rfl, rfl⟩ := he
    refine .cons ⟨?_, hqp.override_beq_iff hfirst⟩ (ih hrest)
    exact (edit_of_setOverride hfirst).field.trans hqp.field_eq

/-! ### Reading again -/

variable {schema : Schema} {c d : Configuration} {tree : FileTree} {path : String}

/-- What a property of the schema is read anew as. -/
theorem renews_of_edits {spec : PropertySpec} {p q : Property} {language other : Language}
    (hf : spec.fault? schema.enums = none)
    (hp : Property.Edit (freshProperty schema.enums language spec) p)
    (hq : Property.Edit (freshProperty schema.enums other spec) q) (ho : q.override = none) :
    Renews q p where
  field_eq := hq.field.trans hp.field.symm
  frame_eq := hq.setting_frame.trans hp.setting_frame.symm
  override_eq := ho
  kind_eq := by
    intro v hv
    have hs := Domain.sound_of_fault? hf
    rw [(holds_of_edit_fresh hs hp).2.2 v hv |>.kind]
    have hk := congrArg Setting.kind hp.setting_frame
    rw [Setting.kind_frame, Setting.kind_frame] at hk
    exact hk.symm
  fitted_eq := by
    intro v hv hk
    have hd := (describes_of_edit_fresh (Domain.sound_of_fault? hf) hp).override v hv
    exact (Setting.take_congr hp.setting_frame .null v).2.trans (Domain.fitted_of_admits hf hd hk)

/-- The properties that are read go with the old ones. -/
theorem Reachable.forall₂_renews (hv : schema.validate = .ok ()) (hc : Reachable schema c)
    {name : String} {language : Language}
    (hd : readWith tree name schema language path = .ok d) :
    List.Forall₂ Renews d.properties c.properties := by
  have hvalid := (Schema.validate_eq_ok_iff.mp hv).2
  refine forall₂_join ?_ (Reachable.read hd).edits_mem hc.edits_fresh
  rintro spec q p ⟨hm, hspec, hq⟩ ⟨-, hp⟩
  refine renews_of_edits (hvalid spec hspec) hp hq ?_
  -- what has been read has no enforced values
  rw [← bare_of_readWith hd] at hm
  obtain ⟨q, -, rfl⟩ := List.mem_map.mp hm
  rfl

/-- Reading again is reading, and then enforcing what was enforced before. -/
theorem reload_eq_ok_iff {e : Configuration} (hpath : c.path = some path)
    (hd : readWith tree c.schemaName c.schema c.language path = .ok d) :
    c.reload tree = .ok e ↔
      ∃ changes after, enforceAll d.properties (c.properties.map (·.override))
        = (.ok changes, after) ∧ e = { d with properties := after } := by
  rw [reload, hpath]
  simp only [hd]
  generalize enforceAll d.properties (c.properties.map (·.override)) = enforced
  obtain ⟨e | changes, after⟩ := enforced
  · simp
  · simp [eq_comm]

/-- The same enforced values, property by property. -/
def SameOverrides (c d : Configuration) : Prop :=
  List.Forall₂ (fun p q => q.field = p.field ∧ (q.override == p.override) = true)
    c.properties d.properties

/-- **Reading again** gives the error of reading, if there is one.  Else it
succeeds exactly if every enforced decimal is finite; it gives what reading
gives, up to enforced values; and it keeps the enforced values exactly if each
of them is finite and fitted to an equal one. -/
theorem reload_keeps_iff (hv : schema.validate = .ok ()) (hc : Reachable schema c)
    (hpath : c.path = some path) {registry : Registry}
    (hs : registry.get c.schemaName = .ok schema) (tree : FileTree) :
    (∀ e, read tree registry c.language path c.schemaName = .error e → c.reload tree = .error e) ∧
    ∀ fresh, read tree registry c.language path c.schemaName = .ok fresh →
      ((∃ d, c.reload tree = .ok d) ↔ ∀ p ∈ c.properties, ∀ v ∈ p.override, v.IsFinite) ∧
      (∀ d, c.reload tree = .ok d → d.bare = fresh) ∧
      ((∃ d, c.reload tree = .ok d ∧ SameOverrides c d) ↔ ∀ p ∈ c.properties, p.Carries) := by
  have hschema := hc.conforms.schema_eq
  have hread : read tree registry c.language path c.schemaName
      = readWith tree c.schemaName c.schema c.language path := by
    rw [read, hs, hschema]
  rw [hread]
  refine ⟨?_, ?_⟩
  · intro e he
    rw [reload, hpath]
    simp only [he]
  · intro fresh hfresh
    have hrenews := hc.forall₂_renews hv (hschema ▸ hfresh)
    have hreload : (∃ d, c.reload tree = .ok d) ↔
        ∀ p ∈ c.properties, ∀ v ∈ p.override, v.IsFinite := by
      rw [← exists_enforceAll_iff hrenews]
      simp only [reload_eq_ok_iff hpath hfresh]
      constructor
      · rintro ⟨-, changes, after, he, -⟩
        exact ⟨changes, after, he⟩
      · rintro ⟨changes, after, he⟩
        exact ⟨_, changes, after, he, rfl⟩
    refine ⟨hreload, ?_, ?_⟩
    · intro d hd
      obtain ⟨path', hpath', hbare⟩ := readWith_of_reload hd
      cases hpath.symm.trans hpath'
      exact Except.ok.inj (hbare.symm.trans hfresh)
    · constructor
      · rintro ⟨d, hd, hsame⟩
        obtain ⟨changes, after, he, rfl⟩ := (reload_eq_ok_iff hpath hfresh).mp hd
        exact (forall₂_and_iff (forall₂_enforceAll hrenews he)).mp hsame
      · intro hcarries
        -- what carries over is finite, so reading again succeeds
        have hfinite := ((List.forall₂_and_left ..).mp
          (hrenews.flip.imp fun _ _ h => ⟨h.isFinite, h⟩)).1
        obtain ⟨d, hd⟩ := hreload.mpr fun p hp => hfinite p hp (hcarries p hp)
        obtain ⟨changes, after, he, rfl⟩ := (reload_eq_ok_iff hpath hfresh).mp hd
        exact ⟨_, hd, (forall₂_and_iff (forall₂_enforceAll hrenews he)).mpr hcarries⟩

/-- A configuration that has been read and then had a value enforced, and
whether its enforced values carry over. -/
theorem exists_performed (schema : Schema) (tree : FileTree) (path name : String)
    (operation : Operation) (carries : Bool)
    (h : (read tree [(name, schema)] [] path name).toOption.map (fun c =>
        let d := c.perform operation
        (d.schemaName, d.path, d.language, d.hasReadOnly,
          decide (∀ p ∈ d.properties, p.Carries)))
      = some (name, some path, [], true, carries)) :
    ∃ c d, Reachable schema d ∧ d.path = some path ∧ d.hasReadOnly = true ∧
      Registry.get [(name, schema)] d.schemaName = .ok schema ∧
      read tree [(name, schema)] d.language path d.schemaName = .ok c ∧
      ((∀ p ∈ d.properties, p.Carries) ↔ carries = true) := by
  obtain ⟨c, hc, hview⟩ := exists_ok_of_toOption h
  simp only [Prod.mk.injEq] at hview
  obtain ⟨hname, hpath, hlanguage, henforced, hcarries⟩ := hview
  have hs : Registry.get [(name, schema)] name = .ok schema := by
    simp [Registry.get, Fields.get?_cons]
  have hreachable : Reachable schema c := by
    rw [read, hs] at hc
    exact .read hc
  refine ⟨c, _, .perform operation hreachable, hpath, henforced, ?_, ?_, ?_⟩
  · rw [hname, hs]
  · rw [hname, hlanguage, hc]
  · rw [← hcarries, decide_eq_true_iff]

/-- A choice is enforced on the sample, and is still there after reading again. -/
theorem reload_keeps_notedTree :
    sampleSchema.validate = .ok () ∧
      ∃ c, Reachable sampleSchema c ∧ c.path = some "/a.json5" ∧ c.hasReadOnly = true ∧
        Registry.get [("sample", sampleSchema)] c.schemaName = .ok sampleSchema ∧
        ∃ d, c.reload notedTree = .ok d ∧ SameOverrides c d := by
  obtain ⟨fresh, c, hc, hpath, henforced, hs, hfresh, hcarries⟩ := exists_performed
    sampleSchema notedTree "/a.json5" "sample" (.setOverride "menu" (some (.choice "pc"))) true
    (by decide +kernel)
  have hkeeps := (reload_keeps_iff validate_sampleSchema hc hpath hs notedTree).2 fresh hfresh
  exact ⟨validate_sampleSchema, c, hc, hpath, henforced, hs, hkeeps.2.2.mpr (hcarries.mpr rfl)⟩

/-- An empty document. -/
def emptyTree : FileTree := ⟨[(["a.json5"], .file "\x7b\x7d".toUTF8)], by decide⟩

/-- A large number is rounded to infinity when it is enforced, and infinity is
refused when it is enforced again. -/
theorem reload_not_always_keeps : ¬ ∀ (schema : Schema) (c fresh : Configuration)
    (tree : FileTree) (path : String) (registry : Registry),
    schema.validate = .ok () → Reachable schema c → c.path = some path →
      registry.get c.schemaName = .ok schema →
      read tree registry c.language path c.schemaName = .ok fresh →
        ∃ d, c.reload tree = .ok d ∧ d.bare = fresh ∧ SameOverrides c d := by
  intro h
  have hvalid : openSchema.validate = .ok () :=
    Schema.validate_eq_ok_iff.mpr (by decide +kernel)
  obtain ⟨fresh, c, hc, hpath, -, hs, hfresh, hcarries⟩ := exists_performed
    openSchema emptyTree "/a.json5" "open" (.setOverride "gain" (some (.decimal 1e308))) false
    (by decide +kernel)
  obtain ⟨d, hd, -, hsame⟩ := h _ c fresh _ _ _ hvalid hc hpath hs hfresh
  have hkeeps := (reload_keeps_iff hvalid hc hpath hs emptyTree).2 fresh hfresh
  exact absurd (hcarries.mp (hkeeps.2.2.mp ⟨d, hd, hsame⟩)) (by decide)

end Configuration

end Settings

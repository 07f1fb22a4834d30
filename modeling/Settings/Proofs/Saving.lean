/-
Settings/Proofs/Saving.lean

Whether a file that has been saved can be read again.  The writer and the
reader disagree about two things: decimals that are not finite, which are
written as `null`, and the separators `U+2028` and `U+2029`, which are written
as they are and end a line for the reader.  A third thing is that a decimal is
fitted anew when it is read, and fitting twice may not be the same as fitting
once.

The main statement is that there is nothing else.  A configuration is read
back with equal values and the same further entries exactly if none of the
three is in the way (`read_write_iff`).
-/
import Settings.Proofs.Files
import Settings.Proofs.Loading
import Settings.Proofs.Fitting

namespace Settings

namespace Setting

/-- The value is the same when it is put in again. -/
def Returns : Setting → Prop
  | .decimal slot bounds places =>
    slot.value.isFinite = true ∧ (fitDecimal bounds places slot.value == slot.value) = true
  | _ => True

instance : DecidablePred Returns := fun s => by
  unfold Returns
  split <;> infer_instance

variable {s t : Setting}

/-- What a file holds for a value is the value, unless it is no finite number. -/
theorem decode_stored (s : Setting) :
    (s.value.IsFinite → s.decode s.value.toJson.stored = .ok s.value) ∧
      (¬ s.value.IsFinite → ∀ v, s.decode s.value.toJson.stored ≠ .ok v) := by
  cases s with
  | decimal slot bounds places =>
    refine ⟨?_, ?_⟩
    · intro h
      have h : slot.value.isFinite = true := h
      show decode _ (Json.stored (if slot.value.isFinite then .decimal slot.value else .null)) = _
      rw [if_pos h, Json.stored, if_pos h]
      rfl
    · intro h v
      have h : ¬ slot.value.isFinite = true := h
      show decode _ (Json.stored (if slot.value.isFinite then .decimal slot.value else .null)) ≠ _
      rw [if_neg h]
      exact fun hv => nomatch hv
  | _ => exact ⟨fun _ => rfl, fun h => absurd trivial h⟩

/-- Settings of one frame take the same entries and make the same of them. -/
theorem take_congr (h : s.frame = t.frame) (entry : Json) (v : Value) :
    s.decode entry = t.decode entry ∧ s.fitted v = t.fitted v := by
  have hk : s.kind = t.kind := by rw [← kind_frame s, h, kind_frame]
  refine ⟨?_, by rw [← fitted_frame s, h, fitted_frame]⟩
  unfold decode
  rw [hk]

/-- What has been put in compares like what was to be put in. -/
theorem value_put_beq {w : Value} (hk : w.kind = s.kind) (u : Value) :
    ((s.put w).value == u) = (w == u) := by
  rcases value_put hk with ⟨hput, heq⟩ | hput
  · rw [hput]
    exact Value.beq_congr heq
  · rw [hput]

/-- A value returns if it is finite and is fitted to an equal one. -/
theorem returns_iff (hfit : s.kind ≠ .decimal → s.fitted s.value = .ok s.value) :
    s.Returns ↔ s.value.IsFinite ∧ ∃ w, s.fitted s.value = .ok w ∧ (w == s.value) = true := by
  cases s with
  | decimal slot bounds places =>
    show _ ∧ _ ↔ slot.value.isFinite = true ∧ _
    constructor
    · rintro ⟨hx, heq⟩
      exact ⟨hx, _, if_pos hx, heq⟩
    · rintro ⟨hx, w, hw, heq⟩
      have hfitted : (decimal slot bounds places).fitted (decimal slot bounds places).value
          = .ok (.decimal (fitDecimal bounds places slot.value)) := if_pos hx
      rw [hfitted] at hw
      cases hw
      exact ⟨hx, heq⟩
  | boolean slot =>
    have hself := hfit (fun h => nomatch h)
    exact ⟨fun _ => ⟨trivial, _, hself, beq_self_eq_true slot.value⟩, fun _ => trivial⟩
  | integer slot bounds =>
    have hself := hfit (fun h => nomatch h)
    exact ⟨fun _ => ⟨trivial, _, hself, beq_self_eq_true slot.value⟩, fun _ => trivial⟩
  | choice slot key choices =>
    have hself := hfit (fun h => nomatch h)
    exact ⟨fun _ => ⟨trivial, _, hself, beq_self_eq_true slot.value⟩, fun _ => trivial⟩

end Setting

/-! ### Properties -/

namespace Property

variable {p q : Property}

/-- The entry of a value puts an equal value into another property of the
frame exactly if the value returns. -/
theorem load_stored (h : q.setting.frame = p.setting.frame)
    (hfit : p.setting.kind ≠ .decimal → p.setting.fitted p.value = .ok p.value) :
    (p.setting.Returns → ∃ r, q.load p.exported.stored = .ok r) ∧
      ∀ r, q.load p.exported.stored = .ok r →
        ((r.value == p.value) = true ↔ p.setting.Returns) := by
  obtain ⟨hfinite, hinfinite⟩ := Setting.decode_stored p.setting
  obtain ⟨hdecode, hfitted⟩ := Setting.take_congr h p.exported.stored p.value
  rw [Setting.returns_iff hfit]
  refine ⟨?_, ?_⟩
  · rintro ⟨hx, w, hw, -⟩
    exact ⟨_, load_eq_ok_iff.mpr ⟨_, w, hdecode.trans (hfinite hx), hfitted.trans hw, rfl⟩⟩
  · intro r hr
    obtain ⟨v, w, hv, hw, rfl⟩ := load_eq_ok_iff.mp hr
    have hv : p.setting.decode p.setting.value.toJson.stored = .ok v := hdecode.symm.trans hv
    -- the entry could be decoded, so the value had a text
    have hx : p.setting.value.IsFinite := by
      by_contra hx
      exact hinfinite hx v hv
    rw [hfinite hx] at hv
    cases hv
    have hk : w.kind = q.setting.kind := Setting.kind_of_fitted hw
    show ((q.setting.put w).value == p.setting.value) = true ↔ _
    rw [Setting.value_put_beq hk]
    have hw : p.setting.fitted p.setting.value = .ok w := hfitted.symm.trans hw
    constructor
    · exact fun heq => ⟨hx, w, hw, heq⟩
    · rintro ⟨-, w', hw', heq⟩
      cases hw.symm.trans hw'
      exact heq

end Property

/-! ### Domains -/

namespace Domain

variable {enums : Fields (List String)}

/-- Other values than decimals are fitted to themselves once they are in the
domain. -/
theorem fitted_of_admits {spec : PropertySpec} (hf : spec.fault? enums = none) {v : Value}
    (h : spec.domain.Admits enums v) (hk : v.kind ≠ .decimal) :
    (spec.domain.fresh enums).fitted v = .ok v := by
  rcases spec with ⟨field, default | ⟨default, bounds⟩ | ⟨default, bounds, places⟩ | ⟨default, key⟩⟩
  · rw [fresh_boolean]
    cases v with
    | boolean b => rfl
    | _ => exact h.elim
  · obtain ⟨-, hd⟩ := fault?_integer_eq_none_iff.mp hf
    rw [fresh_integer hd]
    cases v with
    | integer n =>
      have hin : bounds.excludes n = false := Bounds.excludes_eq_false_iff.mpr
        ⟨fun min hm => Int64.not_lt.mpr (h.1 min hm), fun max hm => Int64.not_lt.mpr (h.2 max hm)⟩
      rw [Setting.fitted, Bounds.clamp_eq_self hin]
    | _ => exact h.elim
  · cases v with
    | decimal x => exact absurd rfl hk
    | _ => exact h.elim
  · obtain ⟨first, rest, hkey⟩ := fault?_choice_eq_none_iff.mp hf
    rw [fresh_choice hkey]
    cases v with
    | choice name =>
      obtain ⟨choices, hchoices, hm⟩ := h
      cases hkey.symm.trans hchoices
      rw [Setting.fitted, if_pos hm]
    | _ => exact h.elim

end Domain

namespace Configuration

/-! ### Properties of a valid schema -/

variable {schema : Schema} {c : Configuration}

/-- What the entry of a property's value does to a fresh one. -/
theorem load_freshProperty {spec : PropertySpec} {p : Property} {language other : Language}
    (hf : spec.fault? schema.enums = none)
    (h : Property.Edit (freshProperty schema.enums language spec) p) :
    (p.setting.Returns →
        ∃ q, (freshProperty schema.enums other spec).load p.exported.stored = .ok q) ∧
      ∀ q, (freshProperty schema.enums other spec).load p.exported.stored = .ok q →
        ((q.value == p.value) = true ↔ p.setting.Returns) := by
  have hframe : (freshProperty schema.enums other spec).setting.frame = p.setting.frame :=
    h.setting_frame.symm
  apply Property.load_stored hframe
  intro hk
  have hd := (describes_of_edit_fresh (Domain.sound_of_fault? hf) h).value
  have hkind : p.value.kind ≠ .decimal := by rwa [Property.value, Setting.kind_value]
  have hfit := Domain.fitted_of_admits hf hd hkind
  exact (Setting.take_congr h.setting_frame .null p.value).2.trans hfit

/-! ### The written file -/

/-- The file holds the text of the configuration after a write. -/
theorem readText_of_write {d : Configuration} {tree tree' : FileTree} {path : String}
    {written : Bool} (h : c.write tree path = .ok (written, d, tree')) :
    tree'.readText path = .ok c.toText := by
  -- either a new text has been written, or the old one was the same
  have hsave : ∀ {text : String} {e : Configuration},
      write.save tree path text e = .ok (written, d, tree') → tree'.readText path = .ok text := by
    intro text e hs
    unfold write.save at hs
    split at hs
    next saved hw =>
      cases hs
      exact FileTree.readText_writeText hw
    · cases hs
  unfold write at h
  simp only at h
  split at h
  next old hold =>
    split at h
    next he =>
      cases h
      rw [hold, he]
    · exact hsave h
  · exact hsave h

/-- Nothing in the written document has a name twice. -/
theorem isDistinct_toDocument (hf : Foreign schema c.extra) :
    (Json.object c.toDocument).IsDistinct := by
  have hn := nodup_keys_toDocument c
  rw [Json.IsDistinct]
  refine ⟨hn, Json.areEntriesDistinct_iff.mpr fun entry hm => ?_⟩
  have hget := (Fields.get?_eq_some_iff hn).mpr hm
  rw [get?_toDocument, Option.or_eq_some_iff] at hget
  -- a value has no objects in it, and what was read is distinct
  rcases hget with hknown | ⟨-, hextra⟩
  · obtain ⟨other, hother, he⟩ := Fields.mem_of_mem_ofList (Fields.mem_of_get?_eq_some hknown)
    obtain ⟨p, -, rfl⟩ := List.mem_map.mp hother
    rw [he]
    show (p.value.toJson).IsDistinct
    cases p.value with
    | decimal x =>
      rw [Value.toJson]
      split <;> trivial
    | _ => trivial
  · exact (hf.settled _ (Fields.mem_of_get?_eq_some hextra)).1

/-- Reading the file again comes down to loading what was stored. -/
theorem readWith_of_write {d : Configuration} {tree tree' : FileTree} {path : String}
    {written : Bool} (hf : Foreign schema c.extra)
    (h : c.write tree path = .ok (written, d, tree')) (name : String) (language : Language) :
    readWith tree' name schema language path =
      if (Json.object c.toDocument).isPlain then
        ofDocument name schema language path (Json.storedEntries c.toDocument)
      else .error (.parse path (.illFormed "not a JSON5 document")) := by
  rw [readWith, Document.read, readText_of_write h]
  simp only [toText, Document.ofText_pretty path (isDistinct_toDocument hf)]
  cases (Json.object c.toDocument).isPlain <;> rfl

/-! ### Reading it again -/

/-- The other configuration has equal values and the same further entries. -/
structure SameContent (c d : Configuration) : Prop where
  values : List.Forall₂ (fun p q => q.field = p.field ∧ (q.value == p.value) = true)
    c.properties d.properties
  extra : ∀ key, Fields.get? key d.extra = Fields.get? key c.extra

/-- No separator is written, and every value returns. -/
structure Rereadable (c : Configuration) : Prop where
  plain : (Json.object c.toDocument).isPlain = true
  returns : ∀ p ∈ c.properties, p.setting.Returns

/-- Two lists that go with the same list go with each other. -/
theorem forall₂_join {α β γ : Type} {R : α → β → Prop} {S : α → γ → Prop} {T : β → γ → Prop}
    (h : ∀ a b c, R a b → S a c → T b c) {as : List α} {bs : List β} {cs : List γ}
    (hb : List.Forall₂ R as bs) (hc : List.Forall₂ S as cs) : List.Forall₂ T bs cs := by
  induction hb generalizing cs with
  | nil =>
    cases hc
    exact .nil
  | cons hr _ ih =>
    cases hc with
    | cons hs ht => exact .cons (h _ _ _ hr hs) (ih ht)

/-- A fresh property takes what was stored for the property in its place. -/
theorem take_stored {spec : PropertySpec} {p : Property} {language other : Language}
    (hn : (c.properties.map (·.field)).Nodup) (hp : p ∈ c.properties)
    (hf : spec.fault? schema.enums = none)
    (h : Property.Edit (freshProperty schema.enums language spec) p) :
    (p.setting.Returns → ∃ q, (freshProperty schema.enums other spec).take
        (Json.storedEntries c.toDocument) = .ok q) ∧
      ∀ q, (freshProperty schema.enums other spec).take
          (Json.storedEntries c.toDocument) = .ok q →
        q.field = p.field ∧ ((q.value == p.value) = true ↔ p.setting.Returns) := by
  have hfield : (freshProperty schema.enums other spec).field = p.field := h.field.symm
  have htake : (freshProperty schema.enums other spec).take (Json.storedEntries c.toDocument)
      = (freshProperty schema.enums other spec).load p.exported.stored := by
    rw [Property.take, hfield, Json.get?_storedEntries, get?_toDocument_field hn hp]
    rfl
  obtain ⟨hexists, hload⟩ := @load_freshProperty schema spec p language other hf h
  rw [htake]
  exact ⟨hexists, fun q hq => ⟨(Property.edit_of_load hq).field.trans hfield, hload q hq⟩⟩

/-- What is not a field comes back as it was. -/
theorem get?_stored_extra (hf : Foreign schema c.extra) {key : String}
    (h : key ∉ c.properties.map (·.field)) :
    Fields.get? key (Json.storedEntries c.toDocument) = Fields.get? key c.extra := by
  rw [Json.get?_storedEntries, get?_toDocument_extra h]
  cases hg : Fields.get? key c.extra with
  | none => rfl
  | some value =>
    rw [Option.map_some, (hf.settled _ (Fields.mem_of_get?_eq_some hg)).2]

/-- With the values of another configuration as the baseline, a configuration
is clean exactly if the two have equal values. -/
theorem isDirty_eq_false_iff {d : Configuration} (hb : d.baseline = values c.properties)
    (hn : (c.properties.map (·.field)).Nodup)
    (hf : List.Forall₂ (fun p q => q.field = p.field) c.properties d.properties) :
    d.isDirty = false ↔
      List.Forall₂ (fun p q => (q.value == p.value) = true) c.properties d.properties := by
  rw [isDirty, List.any_eq_false]
  refine (forall₂_iff_right ((List.forall₂_and_left ..).mpr ⟨fun p hp => hp, hf⟩) ?_).symm
  rintro p q ⟨hp, hfield⟩
  have hget : Fields.get? q.field d.baseline = some p.value := by
    rw [hb, hfield]
    exact get?_ofList_map Property.value hn hp
  rw [hget, Value.beq_comm]
  show _ ↔ ¬ (!(p.value == q.value)) = true
  rw [Bool.not_eq_true', Bool.not_eq_false]

/-- A configuration is not dirty once its values are taken as the baseline,
unless one of them is not a number. -/
theorem isDirty_rebase (hn : (c.properties.map (·.field)).Nodup)
    (h : ∀ p ∈ c.properties, (p.value == p.value) = true) : c.rebase.isDirty = false :=
  (isDirty_eq_false_iff (d := c.rebase) rfl hn (List.forall₂_same.mpr fun _ _ => rfl)).mpr
    (List.forall₂_same.mpr h)

/-- Each specification goes with its property and with what that has come from. -/
theorem Reachable.edits_mem (hc : Reachable schema c) :
    List.Forall₂ (fun spec p => p ∈ c.properties ∧ spec ∈ schema.properties ∧
        Property.Edit (freshProperty schema.enums c.language spec) p)
      schema.properties c.properties :=
  ((List.forall₂_and_left ..).mpr ⟨fun _ hp => hp, hc.edits_fresh.flip⟩).flip

theorem nodup_keys_stored (c : Configuration) :
    (Fields.keys (Json.storedEntries c.toDocument)).Nodup := by
  rw [Json.keys_storedEntries]
  exact nodup_keys_toDocument c

/-- The stored document is taken if all values return. -/
theorem exists_ofDocument_stored (hv : schema.validate = .ok ()) (hc : Reachable schema c)
    (name : String) (language : Language) (path : String)
    (h : ∀ p ∈ c.properties, p.setting.Returns) :
    ∃ e, ofDocument name schema language path (Json.storedEntries c.toDocument) = .ok e := by
  obtain ⟨hnodup, hvalid⟩ := Schema.validate_eq_ok_iff.mp hv
  have hn : (c.properties.map (·.field)).Nodup := by rwa [hc.fields_eq]
  have hfresh := fields_ofDefaults name schema language
  have hload : ∀ p ∈ (ofDefaults name schema language).properties,
      ∃ q, p.take (Json.storedEntries c.toDocument) = .ok q := by
    intro p₀ hp₀
    obtain ⟨spec, hspec, rfl⟩ := List.mem_map.mp hp₀
    obtain ⟨p, -, hp, -, hedit⟩ :=
      find?_of_forall₂ (fun spec p h => h.2.2.field) hc.edits_mem hnodup hspec
    exact (take_stored hn hp (hvalid spec hspec) hedit).1 (h p hp)
  exact ⟨_, if_pos ((loadAll_spec (hfresh ▸ hnodup) (nodup_keys_stored c)).1.mpr hload)⟩

/-- What a new configuration makes of the stored document. -/
theorem ofDocument_stored (hv : schema.validate = .ok ()) (hc : Reachable schema c)
    {name : String} {language : Language} {path : String} {e : Configuration}
    (he : ofDocument name schema language path (Json.storedEntries c.toDocument) = .ok e) :
    List.Forall₂ (fun p q => q.field = p.field ∧
        ((q.value == p.value) = true ↔ p.setting.Returns)) c.properties e.properties ∧
      (∀ key, Fields.get? key e.extra = Fields.get? key c.extra) ∧ e.rebase = e := by
  obtain ⟨hnodup, hvalid⟩ := Schema.validate_eq_ok_iff.mp hv
  have hn : (c.properties.map (·.field)).Nodup := by rwa [hc.fields_eq]
  have hd := nodup_keys_stored c
  have hfresh := fields_ofDefaults name schema language
  rw [ofDocument] at he
  split at he
  next hmalformed =>
    cases he
    refine ⟨?_, ?_, rfl⟩
    · -- specification by specification, what is read goes with what was written
      have htake := List.forall₂_map_left_iff.mp
        ((loadAll_spec (hfresh ▸ hnodup) hd).2 hmalformed)
      refine forall₂_join ?_ hc.edits_mem htake
      rintro spec p q ⟨hp, hspec, hedit⟩ hq
      exact (take_stored hn hp (hvalid spec hspec) hedit).2 q hq
    · intro key
      show Fields.get? key (loadAll _ _).rest = _
      rw [get?_rest hd, hfresh]
      split
      next hm =>
        obtain ⟨spec, hspec, rfl⟩ := List.mem_map.mp hm
        exact (hc.foreign.unknown spec hspec).symm
      next hm =>
        rw [← hc.fields_eq] at hm
        exact get?_stored_extra hc.foreign hm
  next => cases he

section

variable {d : Configuration} {tree tree' : FileTree} {path name : String} {written : Bool}
  {registry : Registry}

/-- Reading the file again with the same schema. -/
theorem read_of_write (hc : Reachable schema c) (hr : registry.get name = .ok schema)
    (language : Language) (hw : c.write tree path = .ok (written, d, tree')) :
    read tree' registry language path name =
      if (Json.object c.toDocument).isPlain then
        ofDocument name schema language path (Json.storedEntries c.toDocument)
      else .error (.parse path (.illFormed "not a JSON5 document")) := by
  rw [read, hr]
  exact readWith_of_write hc.foreign hw name language

/-- If equal values are read, nothing has been in the way. -/
theorem rereadable_of_read (hv : schema.validate = .ok ()) (hc : Reachable schema c)
    (hr : registry.get name = .ok schema) {language : Language}
    (hw : c.write tree path = .ok (written, d, tree')) {e : Configuration}
    (he : read tree' registry language path name = .ok e) (hsame : SameContent c e) :
    c.Rereadable := by
  rw [read_of_write hc hr language hw] at he
  split at he
  next hplain =>
    obtain ⟨hvalues, -, -⟩ := ofDocument_stored hv hc he
    exact ⟨hplain, (forall₂_and_iff hvalues).mp hsame.values⟩
  next => cases he

/-- If nothing is in the way, equal values are read. -/
theorem Rereadable.exists_read (h : c.Rereadable) (hv : schema.validate = .ok ())
    (hc : Reachable schema c) (hr : registry.get name = .ok schema) (language : Language)
    (hw : c.write tree path = .ok (written, d, tree')) :
    ∃ e, read tree' registry language path name = .ok e ∧ SameContent c e ∧
      e.isDirty = false := by
  obtain ⟨e, he⟩ := exists_ofDocument_stored hv hc name language path h.returns
  obtain ⟨hvalues, hextra, hrebase⟩ := ofDocument_stored hv hc he
  have hsame := (forall₂_and_iff hvalues).mpr h.returns
  refine ⟨e, ?_, ⟨hsame, hextra⟩, ?_⟩
  · rw [read_of_write hc hr language hw, if_pos h.plain, he]
  · rw [← hrebase]
    apply isDirty_rebase
    · have hfields : c.properties.map (·.field) = e.properties.map (·.field) :=
        map_eq_map_of_forall₂ (hsame.imp fun _ _ h => h.1.symm)
      rw [← hfields, hc.fields_eq]
      exact (Schema.validate_eq_ok_iff.mp hv).1
    · exact forall_mem_of_forall₂ hsame fun _ _ h => Value.beq_self_of_beq h.2

/-- **What is saved is read again** with equal values, the same further
entries and no changes to be saved, exactly if no separator is written and
every decimal is finite and fitted to an equal one. -/
theorem read_write_iff (hv : schema.validate = .ok ()) (hc : Reachable schema c)
    (hr : registry.get name = .ok schema) (language : Language)
    (hw : c.write tree path = .ok (written, d, tree')) :
    (∃ e, read tree' registry language path name = .ok e ∧ SameContent c e ∧ e.isDirty = false) ↔
      c.Rereadable := by
  constructor
  · rintro ⟨e, he, hsame, -⟩
    exact rereadable_of_read hv hc hr hw he hsame
  · exact fun h => h.exists_read hv hc hr language hw

end

/-- Where there are no files at all, a file can be written below the root. -/
theorem exists_write (c : Configuration) : ∃ written d tree,
    c.write FileTree.empty "/settings.json" = .ok (written, d, tree) :=
  ⟨true, _, _, rfl⟩

/-- The edited sample is read again. -/
theorem read_write_sampleEdited :
    sampleSchema.validate = .ok () ∧ Reachable sampleSchema sampleEdited ∧
      ∃ written d tree,
        sampleEdited.write FileTree.empty "/settings.json" = .ok (written, d, tree) ∧
        ∃ e, read tree [("sample", sampleSchema)] [] "/settings.json" "sample" = .ok e ∧
          SameContent sampleEdited e ∧ e.isDirty = false := by
  obtain ⟨written, d, tree, hw⟩ := exists_write sampleEdited
  have hr : Registry.get [("sample", sampleSchema)] "sample" = .ok sampleSchema := rfl
  refine ⟨validate_sampleSchema, reachable_sampleEdited, written, d, tree, hw, ?_⟩
  exact (read_write_iff validate_sampleSchema reachable_sampleEdited hr [] hw).mpr
    ⟨by decide +kernel, by decide +kernel⟩

/-- A schema with a decimal that has places and no bounds. -/
def openSchema : Schema where
  categories := [⟨"sound", none, [⟨"gain", .decimal 0.0 ⟨none, none⟩ 2⟩]⟩]
  enums := []

/-- There a large number is rounded to infinity, which is written as `null`. -/
theorem not_always_read_again : ¬ ∀ (schema : Schema) (c d : Configuration) (tree tree' : FileTree)
    (path name : String) (written : Bool) (registry : Registry) (language : Language),
    schema.validate = .ok () → Reachable schema c → registry.get name = .ok schema →
      c.write tree path = .ok (written, d, tree') →
        ∃ e, read tree' registry language path name = .ok e ∧ SameContent c e ∧
          e.isDirty = false := by
  intro h
  have hvalid : openSchema.validate = .ok () :=
    Schema.validate_eq_ok_iff.mpr (by decide +kernel)
  have hreachable : Reachable openSchema
      ((ofDefaults "" openSchema []).perform (.setValue "gain" (.decimal 1e308))) :=
    .perform _ (.defaults "" [])
  have hr : Registry.get [("", openSchema)] "" = .ok openSchema := rfl
  -- the value is stored, and is infinite
  obtain ⟨written, d, tree, hw⟩ := exists_write
    ((ofDefaults "" openSchema []).perform (.setValue "gain" (.decimal 1e308)))
  obtain ⟨e, he, hsame, -⟩ := h _ _ _ _ _ _ _ _ _ [] hvalid hreachable hr hw
  have hreturns := (rereadable_of_read hvalid hreachable hr hw he hsame).returns
  revert hreturns
  decide +kernel

end Configuration

end Settings

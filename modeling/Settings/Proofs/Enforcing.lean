/-
Settings/Proofs/Enforcing.lean

Whether the values that a file enforces take effect together or not at all.
They are decoded for all properties first and put in afterwards, one by one.
A value that has been decoded is already fitted, and is fitted again when it
is put in.  This succeeds again with one exception: a decimal that has become
infinite by rounding is refused the second time.

If the first property refuses its value, nothing has changed yet.  So a valid
schema is safe from half the values taking effect exactly if no decimal but
that of the first property can become infinite, and safe from any such failure
exactly if none can (`enforce_whole_iff`).
-/
import Settings.Proofs.Document
import Settings.Proofs.Files
import Settings.Proofs.Range

namespace Settings

open Settings.Binary

/-! ### Fitting twice -/

namespace Setting

variable {s : Setting} {v w : Value}

/-- What has been put in is finite exactly if what was to be put in is. -/
theorem isFinite_put (hk : w.kind = s.kind) : (s.put w).value.IsFinite ↔ w.IsFinite := by
  rcases value_put hk with ⟨hput, heq⟩ | hput
  · rw [hput]
    exact Value.isFinite_congr heq
  · rw [hput]

/-- Choices are put in by name, so an equal one is the same. -/
theorem value_put_choice (slot : Slot String) (key : String) (choices : List String)
    (name : String) : ((choice slot key choices).put (.choice name)).value = .choice name := by
  rcases value_put (s := choice slot key choices) (v := .choice name) rfl with ⟨h, heq⟩ | h
  · have hname : slot.value = name := beq_iff_eq.mp heq
    rw [h, ← hname]
    rfl
  · exact h

/-- Every value that has been put in is fitted again, unless it has become
infinite. -/
theorem exists_fitted_put (hw : s.fitted v = .ok w) (h : w.IsFinite) :
    ∃ u, s.fitted (s.put w).value = .ok u := by
  have hk := kind_of_fitted hw
  have hfinite := (isFinite_put hk).mpr h
  cases s with
  | boolean slot =>
    cases w with
    | boolean b =>
      rw [put_boolean]
      exact ⟨_, rfl⟩
    | _ => cases hk
  | integer slot bounds =>
    cases w with
    | integer n =>
      rw [put_integer]
      exact ⟨_, rfl⟩
    | _ => cases hk
  | decimal slot bounds places =>
    cases w with
    | decimal x =>
      rw [put_decimal] at hfinite ⊢
      exact ⟨_, if_pos hfinite⟩
    | _ => cases hk
  | choice slot key choices =>
    obtain ⟨name, hm, rfl, rfl⟩ := fitted_choice_eq_ok_iff.mp hw
    rw [value_put_choice]
    exact ⟨_, if_pos hm⟩

end Setting

namespace Property

variable {p q : Property} {u : Value}

/-- What decoding does. -/
theorem decode_eq_ok_iff {entry : Json} :
    p.decode entry = .ok u ↔
      ∃ v w, p.setting.decode entry = .ok v ∧ p.setting.fitted v = .ok w ∧
        u = (p.setting.put w).value := by
  have hdecode : p.decode entry = .ok u ↔
      (p.setting.decode entry).bind p.setting.fit = .ok u := by
    rw [decode]
    cases (p.setting.decode entry).bind p.setting.fit <;> simp
  rw [hdecode]
  cases p.setting.decode entry with
  | error e => simp [Except.bind]
  | ok v =>
    show p.setting.fit v = .ok u ↔ _
    rw [Setting.fit_eq_ok_iff]
    simp

/-- A value is enforced exactly if it can be fitted. -/
theorem exists_setOverride_iff :
    (∃ r, p.setOverride (some u) = .ok r) ↔ ∃ w, p.setting.fitted u = .ok w := by
  have hfit : (∃ w, p.setting.fit u = .ok w) ↔ ∃ w, p.setting.fitted u = .ok w := by
    simp only [Setting.fit_eq_ok_iff]
    constructor
    · rintro ⟨-, w, hw, -⟩
      exact ⟨w, hw⟩
    · rintro ⟨w, hw⟩
      exact ⟨_, w, hw, rfl⟩
  rw [← hfit, setOverride]
  cases p.setting.fit u <;> simp

/-- A value that has been enforced is there. -/
theorem override_of_setOverride {changes : List Change}
    (h : p.setOverride (some u) = .ok (q, changes)) : q.override ≠ none := by
  rw [setOverride] at h
  split at h
  · cases h
  next fitted _ =>
    have hq : (p.withOverride (some fitted)).1 = q := congrArg Prod.fst (Except.ok.inj h)
    rw [← hq, withOverride]
    split
    next heq =>
      intro hnone
      rw [hnone] at heq
      cases heq
    next => exact Option.some_ne_none _

theorem override_withOverride_none (p : Property) : (p.withOverride none).1.override = none := by
  rw [withOverride]
  split
  next heq =>
    cases ho : p.override with
    | none => rfl
    | some v =>
      rw [ho] at heq
      cases heq
  next => rfl

/-- A decimal that becomes infinite is decoded once and refused the second
time. -/
theorem refused_of_infinite {slot : Slot Float} {bounds : Bounds Float} {places : UInt32}
    (hp : p.setting = .decimal slot bounds places) {x : Float} (hx : x.isFinite = true)
    (hinfinite : ¬ (Setting.fitDecimal bounds places x).isFinite = true) :
    ∃ u e, p.decode (.decimal x) = .ok u ∧ p.setOverride (some u) = .error e := by
  have hfitted : p.setting.fitted (.decimal x)
      = .ok (.decimal (Setting.fitDecimal bounds places x)) := by
    rw [hp, Setting.fitted, if_pos hx]
  have hdecode : p.setting.decode (.decimal x) = .ok (.decimal x) := by
    rw [hp]
    rfl
  -- the present value of the setting after the first time
  obtain ⟨y, hy⟩ : ∃ y, (p.setting.put (.decimal (Setting.fitDecimal bounds places x))).value
      = .decimal y := by
    rw [hp, Setting.put_decimal]
    exact ⟨_, rfl⟩
  have hu : p.decode (.decimal x) = .ok (.decimal y) :=
    decode_eq_ok_iff.mpr ⟨_, _, hdecode, hfitted, hy.symm⟩
  have hyinfinite : ¬ y.isFinite = true := by
    have hiff := Setting.isFinite_put (Setting.kind_of_fitted hfitted)
    rw [hy] at hiff
    exact mt hiff.mp hinfinite
  refine ⟨.decimal y, ?_⟩
  cases hset : p.setOverride (some (.decimal y)) with
  | error e => exact ⟨e, hu, rfl⟩
  | ok r =>
    obtain ⟨w, hw⟩ := exists_setOverride_iff.mp ⟨r, hset⟩
    rw [hp] at hw
    obtain ⟨y', hy', hfinite, -⟩ := Setting.fitted_decimal_eq_ok_iff.mp hw
    cases hy'
    exact absurd hfinite hyinfinite

end Property

namespace Domain

variable {enums : Fields (List String)}

/-- Where decimals stay finite, every fitted value is. -/
theorem isFinite_of_fitted {spec : PropertySpec} (hf : spec.fault? enums = none)
    (hs : spec.domain.SpansFinite) {v w : Value}
    (hw : (spec.domain.fresh enums).fitted v = .ok w) : w.IsFinite := by
  have hk := Setting.kind_of_fitted hw
  rcases spec with ⟨field, default | ⟨default, bounds⟩ | ⟨default, bounds, places⟩ | ⟨default, key⟩⟩
  · cases w with
    | decimal x => cases hk
    | _ => trivial
  · cases w with
    | decimal x => cases hk
    | _ => trivial
  · obtain ⟨-, hd, hr⟩ := fault?_decimal_eq_none_iff.mp hf
    rw [fresh_decimal hd hr] at hw
    obtain ⟨x, rfl, hx, rfl⟩ := Setting.fitted_decimal_eq_ok_iff.mp hw
    exact (spansFinite_iff hr).mp hs x hx
  · cases w with
    | decimal x => cases hk
    | _ => trivial

end Domain

namespace Configuration

/-! ### Two passes -/

/-- The property can take the value, or none. -/
def Accepts (p : Property) (value : Option Value) : Prop := ∃ r, p.setOverride value = .ok r

/-- The property has decoded the value, if there is one. -/
def Decodes (p : Property) (value : Option Value) : Prop :=
  ∀ u, value = some u → ∃ entry, p.decode entry = .ok u

/-- One value after another is enforced if each of them can be. -/
theorem enforceAll_ok {properties : List Property} {values : List (Option Value)}
    (h : List.Forall₂ Accepts properties values) :
    ∃ changes, (enforceAll properties values).1 = .ok changes := by
  induction h with
  | nil => exact ⟨[], rfl⟩
  | @cons p value properties values hp _ ih =>
    obtain ⟨⟨q, changes⟩, hq⟩ := hp
    obtain ⟨more, hmore⟩ := ih
    refine ⟨changes ++ more, ?_⟩
    rw [enforceAll, hq]
    simp only [hmore]
    rfl

/-- The first pass gives each property a value that it has decoded, or none. -/
theorem forall₂_decodeAll {entries : Document} :
    ∀ {properties : List Property} {values : List (Option Value)},
      decodeAll entries properties = (values, []) →
        List.Forall₂ Decodes properties values
  | [], values, h => by
    cases h
    exact .nil
  | p :: rest, values, h => by
    rw [decodeAll] at h
    cases hrest : decodeAll entries rest with
    | mk others malformed =>
      rw [hrest] at h
      simp only at h
      split at h
      · cases h
        refine .cons (fun u hu => nomatch hu) (forall₂_decodeAll hrest)
      next entry _ =>
        split at h
        next u hu =>
          cases h
          refine .cons ?_ (forall₂_decodeAll hrest)
          rintro _ ⟨⟩
          exact ⟨entry, hu⟩
        · cases h

variable {schema : Schema} {c d : Configuration}

/-- A property whose decimals stay finite takes what it has decoded. -/
theorem exists_setOverride_of_decode {spec : PropertySpec} {p : Property} {language : Language}
    {entry : Json} {u : Value} (hf : spec.fault? schema.enums = none)
    (hs : spec.domain.SpansFinite)
    (h : Property.Edit (freshProperty schema.enums language spec) p)
    (hu : p.decode entry = .ok u) : ∃ r, p.setOverride (some u) = .ok r := by
  obtain ⟨v, w, -, hw, rfl⟩ := Property.decode_eq_ok_iff.mp hu
  rw [Property.exists_setOverride_iff]
  apply Setting.exists_fitted_put hw
  rw [← Setting.fitted_frame, h.setting_frame, Setting.fitted_frame] at hw
  exact Domain.isFinite_of_fitted hf hs hw

/-- So the second pass succeeds wherever all decimals stay finite. -/
theorem accepts_of_decodes {language : Language} {specs : List PropertySpec}
    {properties : List Property} {values : List (Option Value)}
    (h : List.Forall₂ (fun spec p =>
      Property.Edit (freshProperty schema.enums language spec) p) specs properties)
    (hs : ∀ spec ∈ specs, spec.fault? schema.enums = none ∧ spec.domain.SpansFinite)
    (hd : List.Forall₂ Decodes properties values) : List.Forall₂ Accepts properties values := by
  -- specifications, properties and values go along with each other
  induction h generalizing values with
  | nil =>
    cases hd
    exact .nil
  | @cons spec p specs properties hp _ ih =>
    cases hd with
    | @cons _ value _ values hvalue hrest =>
      rw [List.forall_mem_cons] at hs
      refine .cons ?_ (ih hs.2 hrest)
      cases value with
      | none => exact ⟨_, rfl⟩
      | some u =>
        obtain ⟨entry, hentry⟩ := hvalue u rfl
        exact exists_setOverride_of_decode hs.1.1 hs.1.2 hp hentry

/-- A failure at the first property changes nothing. -/
theorem enforceAll_eq_error {properties : List Property} {values : List (Option Value)}
    (h : List.Forall₂ Accepts properties.tail values.tail) {e : Malformed} {after : List Property}
    (he : enforceAll properties values = (.error e, after)) : after = properties := by
  cases properties with
  | nil => cases he
  | cons p properties =>
    cases values with
    | nil => cases he
    | cons value values =>
      obtain ⟨changes, hrest⟩ : ∃ changes, (enforceAll properties values).1 = .ok changes :=
        enforceAll_ok h
      rw [enforceAll] at he
      split at he
      · cases he
        rfl
      · have hfirst := congrArg Prod.fst he
        simp only [hrest, Except.map] at hfirst
        cases hfirst

/-- If no decimal but the first can become infinite, a failure leaves the
configuration as it was. -/
theorem applyEnforced_eq_error (hv : schema.validate = .ok ()) (hc : Reachable schema c)
    (hs : ∀ spec ∈ schema.properties.tail, spec.domain.SpansFinite) {tree : FileTree}
    {path : String} {e : Error} (h : c.applyEnforced tree path = (.error e, d)) : d = c := by
  have hvalid := (Schema.validate_eq_ok_iff.mp hv).2
  rw [applyEnforced] at h
  split at h
  · cases h
    rfl
  next entries _ =>
    rw [enforce] at h
    cases hd : decodeAll entries c.properties with
    | mk values malformed =>
      rw [hd] at h
      simp only at h
      split at h
      next hnil =>
        subst hnil
        -- all properties but the first take what they have decoded
        have hedits := List.forall₂_drop 1 (hc.edits_fresh.imp fun _ _ hp => hp.2)
        have hdecoded := List.forall₂_drop 1 (forall₂_decodeAll hd)
        rw [List.drop_one, List.drop_one] at hedits hdecoded
        have haccepted := accepts_of_decodes hedits
          (fun spec hm => ⟨hvalid spec (List.mem_of_mem_tail hm), hs spec hm⟩) hdecoded
        cases hen : enforceAll c.properties values with
        | mk result after =>
          rw [hen] at h
          cases result with
          | ok changes => cases h
          | error m =>
            rw [enforceAll_eq_error haccepted hen] at h
            cases h
            rfl
      · cases h
        rfl

/-! ### A value that is refused -/

/-- Where a decimal can become infinite, a finite one is decoded and then
refused. -/
theorem exists_refused {spec : PropertySpec} (hf : spec.fault? schema.enums = none)
    (hs : ¬ spec.domain.SpansFinite) (language : Language) :
    ∃ x u e, x.isFinite = true ∧
      (freshProperty schema.enums language spec).decode (.decimal x) = .ok u ∧
      (freshProperty schema.enums language spec).setOverride (some u) = .error e := by
  rcases spec with ⟨field, default | ⟨default, bounds⟩ | ⟨default, bounds, places⟩ | ⟨default, key⟩⟩
  · exact absurd trivial hs
  · exact absurd trivial hs
  · obtain ⟨-, hd, hr⟩ := fault?_decimal_eq_none_iff.mp hf
    rw [Domain.spansFinite_iff hr] at hs
    push Not at hs
    obtain ⟨x, hx, hinfinite⟩ := hs
    obtain ⟨u, e, hu, he⟩ := Property.refused_of_infinite
      (setting_freshProperty schema.enums language field hd hr) hx hinfinite
    exact ⟨x, u, e, hx, hu, he⟩
  · exact absurd trivial hs

/-- Properties of other fields are not mentioned. -/
theorem decodeAll_other {field : String} {entry : Json} :
    ∀ {properties : List Property}, (∀ p ∈ properties, p.field ≠ field) →
      decodeAll [(field, entry)] properties = (properties.map fun _ => none, [])
  | [], _ => rfl
  | p :: rest, h => by
    have hp : ¬ field = p.field := Ne.symm (h p List.mem_cons_self)
    rw [decodeAll, decodeAll_other fun q hq => h q (List.mem_cons_of_mem p hq), Fields.get?_cons,
      if_neg hp]
    rfl

/-- One entry that its property refuses. -/
theorem enforceAll_refused {field : String} {entry : Json} {p : Property} {u : Value}
    {e : Malformed} (hu : p.decode entry = .ok u) (he : p.setOverride (some u) = .error e) :
    ∀ {properties : List Property}, (properties.map (·.field)).Nodup →
      properties.find? (·.field = field) = some p →
        ∃ values, decodeAll [(field, entry)] properties = (values, []) ∧
          (enforceAll properties values).1 = .error e
  | [], _, h => by cases h
  | first :: rest, hn, h => by
    rw [List.map_cons, List.nodup_cons] at hn
    by_cases hf : first.field = field
    · -- the entry is for this property, and none of the others has its field
      have hp : first = p := by simpa [List.find?_cons, hf] using h
      subst hp
      have hother : ∀ q ∈ rest, q.field ≠ field := by
        rintro q hq rfl
        exact hn.1 (hf ▸ List.mem_map_of_mem hq)
      refine ⟨some u :: rest.map fun _ => none, ?_, ?_⟩
      · rw [decodeAll, decodeAll_other hother, Fields.get?_cons, if_pos hf.symm]
        simp only [hu]
      · rw [enforceAll, he]
    · rw [List.find?_cons_of_neg (by simpa using hf)] at h
      obtain ⟨values, hd, hrest⟩ := enforceAll_refused hu he hn.2 h
      refine ⟨none :: values, ?_, ?_⟩
      · rw [decodeAll, hd, Fields.get?_cons, if_neg (Ne.symm hf)]
        rfl
      · rw [enforceAll, Property.setOverride]
        simp only [hrest]
        rfl

end Configuration

/-! ### A file that enforces one decimal -/

namespace Json5

/-- An object with one entry. -/
theorem value?_entry {name : String} {value : Raw} {body after rest : List Char} {fuel : ℕ}
    (hv : grammar.value? fuel (skipGap .blank body) = some (value, after))
    (ha : skipGap .blank after = '}' :: rest) :
    grammar.value? (fuel + 2) ('{' :: (quoted name ++ ':' :: ' ' :: body)) =
      some (.object [(name, value)], rest) := by
  have hskip : skipGap .blank (quoted name ++ ':' :: ' ' :: body)
      = quoted name ++ ':' :: ' ' :: body := skipGap_cons (by decide) (by decide) _
  have hopen : ∀ after, skipGap .blank (quoted name ++ ':' :: ' ' :: body) ≠ '}' :: after := by
    rw [hskip]
    exact fun after h => nomatch h
  rw [value?_object hopen, hskip, entries?_last (name?_quoted name _) hv ha]
  rfl

/-- The text of a file that enforces one decimal. -/
def enforcingText (field : String) (x : Float) : List Char :=
  '{' :: (quoted enforcedKey ++ ':' :: ' ' :: '{' ::
    (quoted field ++ ':' :: ' ' :: (Json.decimalText x ++ ['\n', '}', '}'])))

/-- It holds what it should, whatever the name of the field. -/
theorem read?_enforcingText (field : String) {x : Float} (hx : x.isFinite = true) :
    read? (String.ofList (enforcingText field x)) =
      some (.object [(enforcedKey, .object [(field, .decimal x)])]) := by
  have hends : Ends ['\n', '}', '}'] := .inr ⟨'\n', _, rfl, .inr rfl⟩
  have hskip : skipGap .blank (Json.decimalText x ++ ['\n', '}', '}'])
      = Json.decimalText x ++ ['\n', '}', '}'] :=
    (skipGap_prettyChars 0 (.decimal x) ['\n', '}', '}']).1
  have hclose : skipGap .blank ['\n', '}', '}'] = ['}', '}'] :=
    (skipGap_newline 0 ['}', '}']).trans (skipGap_cons (by decide) (by decide) _)
  have hinner : ∀ fuel, grammar.value? (fuel + 3)
      ('{' :: (quoted field ++ ':' :: ' ' :: (Json.decimalText x ++ ['\n', '}', '}'])))
        = some (.object [(field, .decimal x)], ['}']) := by
    intro fuel
    refine value?_entry ?_ hclose
    rw [hskip, value?_decimalText x fuel hends, if_pos hx]
  have houter : ∀ fuel, grammar.value? (fuel + 5) (enforcingText field x)
      = some (.object [(enforcedKey, .object [(field, .decimal x)])], []) := by
    intro fuel
    refine value?_entry ?_ (skipGap_cons (by decide) (by decide) _)
    rw [skipGap_cons (by decide) (by decide), hinner]
  -- each bracket and each name takes one unit of fuel
  obtain ⟨fuel, hfuel⟩ : ∃ fuel, 2 * (enforcingText field x).length + 2 = fuel + 5 := by
    have hlength : 2 ≤ (enforcingText field x).length := by
      simp only [enforcingText, List.length_cons, List.length_append]
      omega
    exact ⟨2 * (enforcingText field x).length - 3, by omega⟩
  have hstart : skipGap .blank (enforcingText field x) = enforcingText field x :=
    skipGap_cons (by decide) (by decide) _
  rw [read?, Raw.Grammar.read?, skip_eq, String.toList_ofList, hstart, hfuel, houter]
  rfl

end Json5

namespace Document

/-- There can be a file that enforces a given decimal. -/
theorem exists_readEnforced (field : String) {x : Float} (hx : x.isFinite = true) :
    ∃ tree, readEnforced tree "/enforced.json" = .ok [(field, .decimal x)] := by
  obtain ⟨tree, htree⟩ : ∃ tree, FileTree.empty.writeText "/enforced.json"
      (String.ofList (Json5.enforcingText field x)) = .ok tree := ⟨_, rfl⟩
  refine ⟨tree, ?_⟩
  have htrim : Text.trim (String.ofList (Json5.enforcingText field x)).toList ≠ [] := by
    rw [String.toList_ofList]
    exact trim_ne_nil (by decide) _
  have hjson : (Raw.object [(enforcedKey, .object [(field, .decimal x)])]).toJson?
      = some (.object [(enforcedKey, .object [(field, .decimal x)])]) := by
    simp only [Raw.toJson?, Raw.entriesToJson?, hx, if_true]
    rfl
  have hread : read tree "/enforced.json"
      = .ok [(enforcedKey, .object [(field, .decimal x)])] := by
    rw [read, FileTree.readText_writeText htree]
    simp only [ofText, if_neg htrim, Json5.read?_enforcingText field hx, Option.bind_some, hjson]
  rw [readEnforced, hread]
  rfl

end Document

namespace Configuration

variable {schema : Schema}

/-- Every setting of a valid schema takes some value. -/
theorem exists_fitted {spec : PropertySpec} (hf : spec.fault? schema.enums = none) :
    ∃ v w, (spec.domain.fresh schema.enums).fitted v = .ok w := by
  rcases spec with ⟨field, default | ⟨default, bounds⟩ | ⟨default, bounds, places⟩ | ⟨default, key⟩⟩
  · rw [Domain.fresh_boolean]
    exact ⟨.boolean true, _, rfl⟩
  · obtain ⟨-, hd⟩ := fault?_integer_eq_none_iff.mp hf
    rw [Domain.fresh_integer hd]
    exact ⟨.integer 0, _, rfl⟩
  · obtain ⟨-, hd, hr⟩ := fault?_decimal_eq_none_iff.mp hf
    rw [Domain.fresh_decimal hd hr]
    have hzero : (0.0 : Float).isFinite = true := by decide +kernel
    refine ⟨.decimal 0.0, .decimal (Setting.fitDecimal bounds places 0.0), ?_⟩
    rw [Setting.fitted, if_pos hzero]
  · obtain ⟨first, rest, hkey⟩ := fault?_choice_eq_none_iff.mp hf
    rw [Domain.fresh_choice hkey]
    exact ⟨.choice first, _, if_pos List.mem_cons_self⟩

/-- The first property with an enforced value, and the others fresh. -/
theorem exists_overridden {spec : PropertySpec} {specs : List PropertySpec}
    (hs : schema.properties = spec :: specs) (hf : spec.fault? schema.enums = none) :
    ∃ c p, Reachable schema c ∧ p.override ≠ none ∧ p.field = spec.field ∧
      c.properties = p :: specs.map (freshProperty schema.enums []) := by
  obtain ⟨v, w, hw⟩ := exists_fitted hf
  have hproperties : (ofDefaults "" schema []).properties = freshProperty schema.enums [] spec ::
      specs.map (freshProperty schema.enums []) := by
    show schema.properties.map (freshProperty schema.enums []) = _
    rw [hs, List.map_cons]
  obtain ⟨⟨q, changes⟩, hq⟩ := Property.exists_setOverride_iff.mpr
    (show ∃ w, (freshProperty schema.enums [] spec).setting.fitted v = .ok w from ⟨w, hw⟩)
  have hfield : (freshProperty schema.enums [] spec).field = spec.field := rfl
  have hfind : (ofDefaults "" schema []).property? spec.field
      = some (freshProperty schema.enums [] spec) := by
    rw [property?, hproperties]
    exact List.find?_cons_of_pos (by simp [hfield])
  have hset : (ofDefaults "" schema []).setOverride spec.field (some v) = .ok
      ({ ofDefaults "" schema [] with
        properties := replace spec.field q (ofDefaults "" schema []).properties }, changes) := by
    rw [setOverride, modify, hfind]
    simp only [hq]
  refine ⟨_, q, .perform (.setOverride spec.field (some v)) (.defaults "" []),
    Property.override_of_setOverride hq, (Property.edit_of_setOverride hq).field, ?_⟩
  rw [perform, hset]
  show replace spec.field q (ofDefaults "" schema []).properties = _
  rw [hproperties, replace, if_pos hfield]

/-- The first property loses its enforced value before another one refuses its
own. -/
theorem exists_enforce_ne {c : Configuration} {p : Property} {rest : List Property}
    {field : String} {entry : Json} {values : List (Option Value)} {e : Malformed}
    (hc : c.properties = p :: rest) (hp : p.override ≠ none) (hne : field ≠ p.field)
    (hvalues : decodeAll [(field, entry)] rest = (values, []))
    (hresult : (enforceAll rest values).1 = .error e) (path : String) :
    ∃ d, c.enforce path [(field, entry)] = (.error (.malformed e), d) ∧ d ≠ c := by
  have hdecode : decodeAll [(field, entry)] c.properties = (none :: values, []) := by
    rw [hc, decodeAll, hvalues, Fields.get?_cons, if_neg hne]
    rfl
  have henforce : enforceAll c.properties (none :: values)
      = (.error e, (p.withOverride none).1 :: (enforceAll rest values).2) := by
    rw [hc, enforceAll, Property.setOverride]
    simp only [hresult]
    rfl
  refine ⟨{ c with properties := (p.withOverride none).1 :: (enforceAll rest values).2 }, ?_, ?_⟩
  · rw [enforce, hdecode]
    simp only [henforce]
    rfl
  · -- the two differ in what the first property enforces
    intro heq
    have hproperties := congrArg Configuration.properties heq
    rw [hc] at hproperties
    have hsame : (p.withOverride none).1 = p := (List.cons.inj hproperties).1
    apply hp
    rw [← hsame]
    exact p.override_withOverride_none

/-- If a decimal behind the first property can become infinite, a file can be
enforced by half. -/
theorem exists_torn (hv : schema.validate = .ok ())
    {spec : PropertySpec} (hm : spec ∈ schema.properties.tail) (hs : ¬ spec.domain.SpansFinite) :
    ∃ c tree path e d, Reachable schema c ∧ c.applyEnforced tree path = (.error e, d) ∧ d ≠ c := by
  obtain ⟨hnodup, hvalid⟩ := Schema.validate_eq_ok_iff.mp hv
  cases hproperties : schema.properties with
  | nil =>
    rw [hproperties] at hm
    cases hm
  | cons head specs =>
    rw [hproperties] at hm hnodup hvalid
    rw [List.map_cons, List.nodup_cons] at hnodup
    obtain ⟨x, u, e, hx, hu, he⟩ := exists_refused (hvalid spec (List.mem_cons_of_mem _ hm)) hs []
    obtain ⟨tree, htree⟩ := Document.exists_readEnforced spec.field hx
    obtain ⟨c, p, hc, hoverride, hfield, hcp⟩ :=
      exists_overridden hproperties (hvalid head List.mem_cons_self)
    have hfields : ((specs.map (freshProperty schema.enums [])).map (·.field)).Nodup := by
      rw [List.map_map]
      exact hnodup.2
    obtain ⟨values, hvalues, hresult⟩ := enforceAll_refused hu he hfields
      (find?_map_freshProperty hnodup.2 hm schema.enums [])
    have hne : spec.field ≠ p.field := by
      intro heq
      exact hnodup.1 (hfield ▸ heq ▸ List.mem_map_of_mem hm)
    obtain ⟨d, hd, hchanged⟩ :=
      exists_enforce_ne hcp hoverride hne hvalues hresult "/enforced.json"
    refine ⟨c, tree, "/enforced.json", .malformed e, d, hc, ?_, hchanged⟩
    rw [applyEnforced, htree]
    exact hd

/-! ### All or nothing -/

/-- **Enforced values take effect together**: a failure leaves every
configuration of a valid schema as it was exactly if no decimal but that of
the first property can become infinite, and what has been decoded is never
refused exactly if none can. -/
theorem enforce_whole_iff (hv : schema.validate = .ok ()) :
    ((∀ c, Reachable schema c → ∀ tree path e d,
        c.applyEnforced tree path = (.error e, d) → d = c) ↔
      ∀ spec ∈ schema.properties.tail, spec.domain.SpansFinite) ∧
    ((∀ c, Reachable schema c → ∀ entries values, decodeAll entries c.properties = (values, []) →
        ∃ changes, (enforceAll c.properties values).1 = .ok changes) ↔
      ∀ spec ∈ schema.properties, spec.domain.SpansFinite) := by
  obtain ⟨hnodup, hvalid⟩ := Schema.validate_eq_ok_iff.mp hv
  refine ⟨⟨?_, ?_⟩, ?_, ?_⟩
  · intro hall spec hm
    by_contra hs
    obtain ⟨c, tree, path, e, d, hc, happly, hne⟩ := exists_torn hv hm hs
    exact hne (hall c hc tree path e d happly)
  · exact fun hs c hc tree path e d h => applyEnforced_eq_error hv hc hs h
  · -- the fresh configuration is enough to be refused
    intro hall spec hm
    by_contra hs
    obtain ⟨x, u, e, -, hu, he⟩ := exists_refused (hvalid spec hm) hs []
    have hfields : ((ofDefaults "" schema []).properties.map (·.field)).Nodup := by
      rwa [fields_ofDefaults]
    obtain ⟨values, hvalues, hrefused⟩ := enforceAll_refused hu he hfields
      (property?_ofDefaults hnodup hm "" [])
    obtain ⟨changes, hok⟩ := hall _ (.defaults "" []) _ values hvalues
    cases hok.symm.trans hrefused
  · intro hs c hc entries values hd
    apply enforceAll_ok
    exact accepts_of_decodes (hc.edits_fresh.imp fun _ _ hp => hp.2)
      (fun spec hm => ⟨hvalid spec hm, hs spec hm⟩) (forall₂_decodeAll hd)

/-- The sample takes what a file enforces, or nothing of it. -/
theorem enforce_whole_sampleSchema :
    sampleSchema.validate = .ok () ∧
      (∀ c, Reachable sampleSchema c → ∀ tree path e d,
        c.applyEnforced tree path = (.error e, d) → d = c) ∧
      ∀ c, Reachable sampleSchema c → ∀ entries values,
        decodeAll entries c.properties = (values, []) →
          ∃ changes, (enforceAll c.properties values).1 = .ok changes :=
  ⟨validate_sampleSchema, (enforce_whole_iff validate_sampleSchema).1.mpr (by decide +kernel),
    (enforce_whole_iff validate_sampleSchema).2.mpr (by decide +kernel)⟩

/-- A schema with a decimal without bounds behind another setting. -/
def lateSchema : Schema where
  categories := [⟨"sound", none,
    [⟨"flag", .boolean false⟩, ⟨"gain", .decimal 0.0 ⟨none, none⟩ 2⟩]⟩]
  enums := []

/-- A file that enforces values for both of them. -/
def lateTree : FileTree :=
  ⟨[(["enforced.json"],
      .file "\x7b\"enforced_config\": \x7b\"flag\": true, \"gain\": 1e308\x7d\x7d".toUTF8)],
    by decide⟩

/-- There the first value has taken effect when the second one is refused. -/
theorem enforced_by_half : ¬ ∀ (schema : Schema) (c d : Configuration) (tree : FileTree)
    (path : String) (e : Error), schema.validate = .ok () → Reachable schema c →
      c.applyEnforced tree path = (.error e, d) → d = c := by
  intro h
  have hvalid : lateSchema.validate = .ok () :=
    Schema.validate_eq_ok_iff.mpr (by decide +kernel)
  have hchanged :
      ((ofDefaults "" lateSchema []).applyEnforced lateTree "/enforced.json").2.properties
        ≠ (ofDefaults "" lateSchema []).properties := by decide +kernel
  have herror : ((ofDefaults "" lateSchema []).applyEnforced lateTree "/enforced.json").1.isOk
      = false := by decide +kernel
  cases happly : (ofDefaults "" lateSchema []).applyEnforced lateTree "/enforced.json" with
  | mk result d =>
    rw [happly] at hchanged herror
    cases result with
    | ok changes => cases herror
    | error e =>
      apply hchanged
      rw [h lateSchema _ d lateTree "/enforced.json" e hvalid (.defaults "" []) happly]

end Configuration

end Settings

/-
Settings/Proofs/Typing.lean

What is shown for a value can be typed.  A property takes every boolean, every
whole number, every finite decimal and every choice of its list, and the text
of such a value is read as the value again,

    Value.parse? v.kind v.text  =  some v,

with one exception.  White space around what is typed does not count, so a
choice that begins or ends with white space is read as another name.  Nothing
else about a name matters, and schemas are free to have such names
(`typed_as_shown`).

The text goes through the command line in this way: with it, setting a
property does what putting in the value does.
-/
import Settings.Proofs.Decimal.Shown
import Settings.Proofs.Enforcing
import Settings.Proofs.FixedPoint
import Settings.Proofs.InPlace.CommandLine
import Settings.Proofs.Lookup

namespace Settings

/-! ### Texts of values -/

namespace Value

open Decimal (isDigit spanSign natOfDigits)

/-- A choice with white space at an end cannot be typed; every other value
can. -/
def Tight : Value → Prop
  | .choice name => Text.Tight name.toList
  | _ => True

theorem parseInteger?_integerText (n : Int64) : parseInteger? (Json.integerText n) = some n := by
  obtain ⟨c, more, hdigits⟩ : ∃ c more, Nat.toDigits 10 n.toInt.natAbs = c :: more :=
    List.exists_cons_of_ne_nil Nat.toDigits_ne_nil
  have hall : ∀ d ∈ c :: more, isDigit d = true := hdigits ▸ Json5.isDigit_of_mem_toDigits
  have hsize : natOfDigits (c :: more) = n.toInt.natAbs := by
    rw [← hdigits, Json5.natOfDigits_toDigits]
  have hsign : (if decide (n.toInt < 0) = true then -(n.toInt.natAbs : ℤ) else n.toInt.natAbs)
      = n.toInt := by
    split_ifs with h <;> rw [decide_eq_true_iff] at h <;> omega
  rw [parseInteger?, Json5.integerText_eq, hdigits,
    Decimal.spanSign_signed _ (hall c List.mem_cons_self)]
  simp only [List.all_eq_true.mpr hall, hsize, hsign, Json5.integerOf?_toInt]
  rfl

/-- There is no white space in a whole number. -/
theorem isBlank_of_mem_integerText (n : Int64) :
    ∀ c ∈ Json.integerText n, Text.isBlank c = false := by
  have hdigits : ∀ c ∈ Nat.toDigits 10 n.toInt.natAbs, Text.isBlank c = false :=
    fun c hc => Decimal.isBlank_of_isDigit (Json5.isDigit_of_mem_toDigits c hc)
  rw [Json5.integerText_eq]
  split
  · exact List.forall_mem_cons.mpr ⟨rfl, hdigits⟩
  · exact hdigits

/-- What is shown is read as the value, unless white space at an end is lost or
the number is not finite. -/
theorem parse?_text_iff {v : Value} (hv : v.IsFinite) :
    parse? v.kind v.text = some v ↔ v.Tight := by
  cases v with
  | boolean b => exact iff_of_true (by cases b <;> decide) trivial
  | integer n =>
    have htrim : Text.trim (Json.integerText n) = Json.integerText n :=
      Text.trim_of_plain (isBlank_of_mem_integerText n)
    refine iff_of_true ?_ trivial
    show (parseInteger? (Text.trim (Json.integerText n))).map Value.integer = _
    rw [htrim, parseInteger?_integerText, Option.map_some]
  | decimal x =>
    refine iff_of_true ?_ trivial
    show (Decimal.read? (Text.trim (Decimal.shownText x).toList)).map Value.decimal = _
    rw [Text.trim_of_plain (Decimal.isBlank_of_mem_shownText hv), Decimal.read?_shownText hv,
      Option.map_some]
  | choice name =>
    show some (Value.choice (String.ofList (Text.trim name.toList))) = _ ↔ Text.Tight name.toList
    rw [Option.some_inj, Value.choice.injEq, ← Text.trim_eq_self_iff, ← String.toList_inj,
      String.toList_ofList]

end Value

/-! ### What a property takes -/

/-- The values that a property of the domain takes, whatever becomes of them. -/
def Domain.Takes (enums : Fields (List String)) : Domain → Value → Prop
  | .boolean _, .boolean _ => True
  | .integer .., .integer _ => True
  | .decimal .., .decimal x => x.isFinite = true
  | .choice _ key, .choice name => name ∈ (Fields.get? key enums).getD []
  | _, _ => False

/-- A fresh setting of a valid schema takes these and no others. -/
theorem Domain.exists_fitted_iff {enums : Fields (List String)} {spec : PropertySpec}
    (hf : spec.fault? enums = none) (v : Value) :
    (∃ w, (spec.domain.fresh enums).fitted v = .ok w) ↔ spec.domain.Takes enums v := by
  rcases spec with ⟨field, default | ⟨default, bounds⟩ | ⟨default, bounds, places⟩ | ⟨default, key⟩⟩
  · rw [fresh_boolean]
    cases v <;> simp [Setting.fitted, Takes]
  · obtain ⟨-, hd⟩ := fault?_integer_eq_none_iff.mp hf
    rw [fresh_integer hd]
    cases v <;> simp [Setting.fitted, Takes]
  · obtain ⟨-, hd, hr⟩ := fault?_decimal_eq_none_iff.mp hf
    rw [fresh_decimal hd hr]
    simp only [Setting.fitted_decimal_eq_ok_iff]
    cases v <;> simp [Takes]
  · obtain ⟨first, rest, hkey⟩ := fault?_choice_eq_none_iff.mp hf
    rw [fresh_choice hkey]
    simp only [Setting.fitted_choice_eq_ok_iff]
    cases v <;> simp [Takes, hkey]

/-- What is taken is finite. -/
theorem Setting.isFinite_of_fitted_eq_ok {s : Setting} {v w : Value} (h : s.fitted v = .ok w) :
    v.IsFinite := by
  cases v with
  | decimal x =>
    cases s with
    | decimal slot bounds places =>
      obtain ⟨y, hy, hfinite, -⟩ := fitted_decimal_eq_ok_iff.mp h
      cases hy
      exact hfinite
    | _ => cases h
  | _ => trivial

namespace Property

variable {p q : Property} {v : Value} {change : Option Change}

/-- A value is put in exactly if it can be fitted. -/
theorem exists_setValue_iff :
    (∃ r, p.setValue v = .ok r) ↔ ∃ w, p.setting.fitted v = .ok w := by
  rw [setValue, Setting.store_eq]
  cases p.setting.fitted v <;> simp [Except.map]

theorem isFinite_of_setValue (h : p.setValue v = .ok (q, change)) : v.IsFinite := by
  obtain ⟨w, hw, -⟩ := setting_of_setValue h
  exact Setting.isFinite_of_fitted_eq_ok hw

/-- Only values of the property's kind are put in. -/
theorem kind_of_setValue (h : p.setValue v = .ok (q, change)) : p.value.kind = v.kind := by
  obtain ⟨w, hw, -⟩ := setting_of_setValue h
  rw [value, Setting.kind_value]
  cases hs : p.setting <;> cases v <;> first | rfl | (rw [hs] at hw; cases hw)

/-- A choice is the value once it is put in. -/
theorem value_of_setValue_choice {name : String}
    (h : p.setValue (.choice name) = .ok (q, change)) : q.value = .choice name := by
  obtain ⟨w, hw, hq⟩ := setting_of_setValue h
  rw [value, hq]
  cases hs : p.setting with
  | choice slot key choices =>
    rw [hs] at hw
    obtain ⟨other, -, hother, rfl⟩ := Setting.fitted_choice_eq_ok_iff.mp hw
    cases hother
    exact Setting.value_put_choice slot key choices name
  | _ =>
    rw [hs] at hw
    cases hw

end Property

/-! ### Setting a property by what is shown -/

/-- Behind two dashes every field and every text can be given, also a negative
number. -/
theorem Arguments.parse_set (options : Options) (field text : String) :
    parse options ["set", "--", field, text] =
      .run (Options.request options (.set field text)) := rfl

namespace Configuration

open CommandLine (executed saved)

variable {schema : Schema} {c : Configuration} {p : Property}

/-- A property of a valid schema takes what its domain says, whatever has been
done to it. -/
theorem Reachable.exists_takes (hv : schema.validate = .ok ()) (hc : Reachable schema c) :
    ∀ p ∈ c.properties, ∃ spec ∈ schema.properties, spec.field = p.field ∧
      ∀ v, (∃ r, p.setValue v = .ok r) ↔ spec.domain.Takes schema.enums v := by
  refine forall_mem_of_forall₂ hc.edits_fresh fun spec p ⟨hspec, hedit⟩ => ?_
  have hf := (Schema.validate_eq_ok_iff.mp hv).2 spec hspec
  refine ⟨spec, hspec, hedit.field.symm, fun v => ?_⟩
  rw [Property.exists_setValue_iff, ← Domain.exists_fitted_iff hf, ← Setting.fitted_frame p.setting,
    hedit.setting_frame, Setting.fitted_frame]
  rfl

/-- Typing a text that is read as a value is putting in the value. -/
theorem executed_set_of_parse? {session : Session} (hopen : session.configuration = some c)
    (hp : c.property? p.field = some p) {v : Value} {text : String}
    (hread : Value.parse? p.value.kind text = some v) {q : Property} {change : Option Change}
    (hset : p.setValue v = .ok (q, change)) (tree : FileTree) :
    ∃ session', session.setValue p.field v = .ok (session', change) ∧
      session'.configuration = some (c.assign q) ∧
      executed session tree (.set p.field text) = saved session' tree := by
  have hmodify : c.setValue p.field v = .ok (c.assign q, change) :=
    modify_eq_ok hp hset (Property.edit_of_setValue hset).field
  obtain ⟨adopt, hadopt, hset'⟩ := Session.setValue_eq hopen p.field v
  rw [hmodify] at hset'
  have hfound : session.configuration.bind (·.property? p.field) = some p := by
    rw [hopen]
    exact hp
  refine ⟨adopt (c.assign q, change), hset', hadopt _, ?_⟩
  rw [CommandLine.executed_set hfound hread, hset']
  rfl

/-- **What is shown can be typed.**  A property of a valid schema takes the
values that its domain says, in every state of its configuration.  Each of them
is read as it is shown, for every value of its kind that guides the reader,
unless it is a choice with white space at an end; and then the command line
puts it in. -/
theorem Reachable.typed_as_shown (hv : schema.validate = .ok ()) (hc : Reachable schema c)
    (hp : p ∈ c.properties) :
    (∃ spec ∈ schema.properties, spec.field = p.field ∧
      ∀ v, (∃ r, p.setValue v = .ok r) ↔ spec.domain.Takes schema.enums v) ∧
    ∀ v q change, p.setValue v = .ok (q, change) →
      ((∀ guide : Value, guide.kind = v.kind → Value.parse? guide.kind v.text = some v) ↔
        v.Tight) ∧
      (∀ name, v = .choice name → q.value = .choice name) ∧
      (v.Tight → ∀ session tree, session.configuration = some c →
        ∃ session', session.setValue p.field v = .ok (session', change) ∧
          session'.configuration = some (c.assign q) ∧
          executed session tree (.set p.field v.text) = saved session' tree) ∧
      ∀ options, Arguments.parse options ["set", "--", p.field, v.text]
        = .run (Arguments.Options.request options (.set p.field v.text)) := by
  refine ⟨hc.exists_takes hv p hp, fun v q change hset => ⟨?_, ?_, ?_, ?_⟩⟩
  · have hread := Value.parse?_text_iff (Property.isFinite_of_setValue hset)
    rw [← hread]
    exact ⟨fun h => h v rfl, fun h guide hguide => hguide ▸ h⟩
  · rintro name rfl
    exact Property.value_of_setValue_choice hset
  · intro htight session tree hopen
    have hread := (Value.parse?_text_iff (Property.isFinite_of_setValue hset)).mpr htight
    rw [← Property.kind_of_setValue hset] at hread
    exact executed_set_of_parse? hopen (hc.property?_of_mem hv hp) hread hset tree
  · exact fun options => Arguments.parse_set options p.field v.text

/-- A choice of the sample, guided by the one that it takes the place of. -/
theorem typed_as_shown_sampleEdited : ∃ p ∈ sampleEdited.properties,
    p.field = "menu" ∧ ∃ q change, p.setValue (.choice "pc") = .ok (q, change) ∧
      q.value = .choice "pc" ∧
      Value.parse? (Value.choice "ps1").kind (Value.choice "pc").text = some (.choice "pc") := by
  have hp : ∃ p ∈ sampleEdited.properties, p.field = "menu" ∧
      (p.setValue (.choice "pc")).toOption.map (·.1.field) = some "menu" := by decide +kernel
  obtain ⟨p, hm, hfield, hsome⟩ := hp
  obtain ⟨⟨q, change⟩, hset, -⟩ := exists_ok_of_toOption hsome
  obtain ⟨-, h⟩ := reachable_sampleEdited.typed_as_shown validate_sampleSchema hm
  obtain ⟨hread, hvalue, -⟩ := h _ q change hset
  have htight : (Value.choice "pc").Tight := Text.trim_eq_self_iff.mp (by decide)
  exact ⟨p, hm, hfield, q, change, hset, hvalue _ rfl, hread.mpr htight (.choice "ps1") rfl⟩

/-- A schema with a choice that begins with a blank. -/
def paddedSchema : Schema where
  categories := [⟨"controls", none, [⟨"menu", .choice "ps1" "style"⟩]⟩]
  enums := [("style", ["ps1", " pc"])]

/-- The choice is read without its blank, which is no choice. -/
theorem not_always_typed_as_shown : ¬ ∀ (schema : Schema) (c : Configuration) (p : Property)
    (v : Value) (r : Property × Option Change), schema.validate = .ok () → Reachable schema c →
      p ∈ c.properties → p.setValue v = .ok r →
      ∀ guide : Value, guide.kind = v.kind → Value.parse? guide.kind v.text = some v := by
  intro h
  have hread := h paddedSchema (ofDefaults "" paddedSchema []) _ (.choice " pc") _
    (Schema.validate_eq_ok_iff.mpr (by decide +kernel)) (.defaults "" []) List.mem_cons_self rfl
    (.choice "ps1") rfl
  exact absurd hread (by decide)

end Configuration

end Settings

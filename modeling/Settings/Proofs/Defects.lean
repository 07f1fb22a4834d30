/-
Settings/Proofs/Defects.lean

What is wrong with a schema, and what it is blamed for.  `WellFormed` says what
is right about a setting on its own, and `Blamed` which fault is reported of a
setting that stands behind some others.  Neither looks at how the check goes
about it.

The check goes through the settings in order and keeps the fields that it has
seen.  What is wrong with one setting is found out by cases that overlap, so
that their order matters: the first one that applies decides
(`PropertySpec.cases`), and one that applies without finding a fault keeps the
later ones from being tried.  Here the check is written down in this form
(`Schema.validateM`), and it comes to what `Schema.validate` says.

The main statement is `Schema.validate_blames_first`: the check accepts the
schemas whose fields are all different and whose settings are well formed, and
no others, and it blames the first setting that is not as it should be.
-/
import Settings.Proofs.InPlace.Basic
import Settings.Proofs.Validity

namespace Settings

/-! ### Bounds -/

namespace Bounds

variable {α : Type} [LT α] [DecidableLT α] {bounds : Bounds α}

/-- Both bounds are given, and the lower one is above the upper one. -/
def Crossed (bounds : Bounds α) : Prop :=
  ∃ min max, bounds.min = some min ∧ bounds.max = some max ∧ max < min

/-- The number is below a lower bound or above an upper one. -/
def Leaves (bounds : Bounds α) (x : α) : Prop :=
  (∃ min, bounds.min = some min ∧ x < min) ∨ ∃ max, bounds.max = some max ∧ max < x

theorem crossed?_eq_some_iff {min max : α} : bounds.crossed? = some (min, max) ↔
    bounds.min = some min ∧ bounds.max = some max ∧ max < min := by
  rcases bounds with ⟨- | lower, - | upper⟩ <;> simp only [crossed?, reduceCtorEq, false_and,
    and_false, Option.some.injEq]
  split
  next h =>
    simp only [Option.some.injEq, Prod.mk.injEq]
    constructor
    · rintro ⟨rfl, rfl⟩
      exact ⟨rfl, rfl, h⟩
    · rintro ⟨rfl, rfl, -⟩
      exact ⟨rfl, rfl⟩
  next h =>
    simp only [reduceCtorEq, false_iff]
    rintro ⟨rfl, rfl, h'⟩
    exact h h'

theorem crossed?_eq_none_iff : bounds.crossed? = none ↔ ¬ bounds.Crossed := by
  rw [Option.eq_none_iff_forall_ne_some]
  constructor
  · rintro h ⟨min, max, hb⟩
    exact h (min, max) (crossed?_eq_some_iff.mpr hb)
  · rintro h ⟨min, max⟩ hb
    exact h ⟨min, max, crossed?_eq_some_iff.mp hb⟩

theorem excludes_iff {x : α} : bounds.excludes x = true ↔ bounds.Leaves x := by
  rcases bounds with ⟨- | lower, - | upper⟩ <;> simp [excludes, Leaves]

/-- What is found when the bounds are looked at first, then the default, and then
the rest. -/
theorem found_eq_some_iff {β : Type} {found : Option β} {fault : β} (bounds : Bounds α) (x : α)
    (crossed : α → α → β) (outside : β) (rest : Option β)
    (hcrossed : ∀ min max, bounds.crossed? = some (min, max) → found = some (crossed min max))
    (houtside : bounds.crossed? = none → bounds.excludes x = true → found = some outside)
    (hrest : bounds.crossed? = none → bounds.excludes x = false → found = rest) :
    found = some fault ↔
      (∃ min max, bounds.min = some min ∧ bounds.max = some max ∧ max < min ∧
          crossed min max = fault) ∨
        ¬ bounds.Crossed ∧
          (bounds.Leaves x ∧ outside = fault ∨ ¬ bounds.Leaves x ∧ rest = some fault) := by
  cases hc : bounds.crossed? with
  | some pair =>
    obtain ⟨min, max⟩ := pair
    obtain ⟨hmin, hmax, hlt⟩ := crossed?_eq_some_iff.mp hc
    have hb : bounds.Crossed := ⟨min, max, hmin, hmax, hlt⟩
    simp [hcrossed min max hc, hmin, hmax, hlt, hb]
  | none =>
    have hb : ¬ bounds.Crossed := crossed?_eq_none_iff.mp hc
    have hnone : ¬ ∃ min max, bounds.min = some min ∧ bounds.max = some max ∧ max < min ∧
        crossed min max = fault := fun ⟨min, max, hmin, hmax, hlt, _⟩ => hb ⟨min, max, hmin, hmax, hlt⟩
    rw [or_iff_right hnone, and_iff_right hb]
    cases hx : bounds.excludes x with
    | true =>
      have hl : bounds.Leaves x := excludes_iff.mp hx
      simp [houtside hc hx, hl]
    | false =>
      have hl : ¬ bounds.Leaves x := fun hl => Bool.false_ne_true (hx ▸ excludes_iff.mpr hl)
      simp [hrest hc hx, hl]

end Bounds

/-! ### What is right and what is wrong -/

/-- A setting that is right on its own. -/
inductive PropertySpec.WellFormed (enums : Fields (List String)) : PropertySpec → Prop
  | boolean (field : String) (default : Bool) : WellFormed enums ⟨field, .boolean default⟩
  | integer (field : String) {default : Int64} {bounds : Bounds Int64} :
      ¬ bounds.Crossed → ¬ bounds.Leaves default →
      WellFormed enums ⟨field, .integer default bounds⟩
  | decimal (field : String) {default : Float} {bounds : Bounds Float} {places : UInt32} :
      ¬ bounds.Crossed → ¬ bounds.Leaves default →
      (Decimal.roundTo default places == default) = true →
      WellFormed enums ⟨field, .decimal default bounds places⟩
  | choice (field default : String) {key : String} {choices : List String} :
      Fields.get? key enums = some choices → choices ≠ [] →
      WellFormed enums ⟨field, .choice default key⟩

/-- What a setting behind others with the given fields is blamed for.  A field
that comes again counts first, then bounds that are crossed, then a default
beyond them, and its places last. -/
inductive PropertySpec.Blamed (enums : Fields (List String)) (earlier : List String) :
    PropertySpec → SchemaFault → Prop
  | duplicate {spec : PropertySpec} : spec.field ∈ earlier →
      Blamed enums earlier spec (.duplicateField spec.field)
  | integerCrossed {field : String} {default min max : Int64} {bounds : Bounds Int64} :
      field ∉ earlier → bounds.min = some min → bounds.max = some max → max < min →
      Blamed enums earlier ⟨field, .integer default bounds⟩
        (.boundsCrossed field (.integer min) (.integer max))
  | decimalCrossed {field : String} {default min max : Float} {bounds : Bounds Float}
      {places : UInt32} :
      field ∉ earlier → bounds.min = some min → bounds.max = some max → max < min →
      Blamed enums earlier ⟨field, .decimal default bounds places⟩
        (.boundsCrossed field (.decimal min) (.decimal max))
  | integerOutside {field : String} {default : Int64} {bounds : Bounds Int64} :
      field ∉ earlier → ¬ bounds.Crossed → bounds.Leaves default →
      Blamed enums earlier ⟨field, .integer default bounds⟩
        (.defaultOutside field (.integer default))
  | decimalOutside {field : String} {default : Float} {bounds : Bounds Float} {places : UInt32} :
      field ∉ earlier → ¬ bounds.Crossed → bounds.Leaves default →
      Blamed enums earlier ⟨field, .decimal default bounds places⟩
        (.defaultOutside field (.decimal default))
  | tooFine {field : String} {default : Float} {bounds : Bounds Float} {places : UInt32} :
      field ∉ earlier → ¬ bounds.Crossed → ¬ bounds.Leaves default →
      (Decimal.roundTo default places == default) = false →
      Blamed enums earlier ⟨field, .decimal default bounds places⟩
        (.defaultTooFine field default places)
  | choicesMissing {field default key : String} :
      field ∉ earlier → (∀ choices, Fields.get? key enums = some choices → choices = []) →
      Blamed enums earlier ⟨field, .choice default key⟩ (.choicesMissing field key)

namespace PropertySpec

variable {enums : Fields (List String)} {spec : PropertySpec} {fault : SchemaFault}

/-- What is well formed is what nothing is wrong with. -/
theorem wellFormed_iff : spec.WellFormed enums ↔ spec.fault? enums = none := by
  rcases spec with ⟨field, default | ⟨default, bounds⟩ | ⟨default, bounds, places⟩ | ⟨default, key⟩⟩
  · exact iff_of_true (.boolean field default) rfl
  · rw [fault?_integer_eq_none_iff, Bounds.crossed?_eq_none_iff, ← Bool.not_eq_true,
      Bounds.excludes_iff]
    exact ⟨fun | .integer _ hc hd => ⟨hc, hd⟩, fun ⟨hc, hd⟩ => .integer field hc hd⟩
  · rw [fault?_decimal_eq_none_iff, Bounds.crossed?_eq_none_iff, ← Bool.not_eq_true,
      Bounds.excludes_iff]
    exact ⟨fun | .decimal _ hc hd hr => ⟨hc, hd, hr⟩,
      fun ⟨hc, hd, hr⟩ => .decimal field hc hd hr⟩
  · rw [fault?_choice_eq_none_iff]
    constructor
    · rintro (_ | _ | _ | ⟨_, _, hk, hne⟩)
      obtain ⟨first, rest, rfl⟩ := List.exists_cons_of_ne_nil hne
      exact ⟨first, rest, hk⟩
    · rintro ⟨first, rest, hk⟩
      exact .choice field default hk (List.cons_ne_nil first rest)

theorem fault?_integer_eq_some_iff {field : String} {default : Int64} {bounds : Bounds Int64} :
    fault? ⟨field, .integer default bounds⟩ enums = some fault ↔
      (∃ min max, bounds.min = some min ∧ bounds.max = some max ∧ max < min ∧
          .boundsCrossed field (.integer min) (.integer max) = fault) ∨
        ¬ bounds.Crossed ∧ bounds.Leaves default ∧
          .defaultOutside field (.integer default) = fault := by
  refine (bounds.found_eq_some_iff default
    (fun min max => .boundsCrossed field (.integer min) (.integer max))
    (.defaultOutside field (.integer default)) none ?_ ?_ ?_).trans (by simp)
  · intro min max hc
    simp [fault?, hc]
  · intro hc hx
    simp [fault?, hc, hx]
  · intro hc hx
    simp [fault?, hc, hx]

theorem fault?_decimal_eq_some_iff {field : String} {default : Float} {bounds : Bounds Float}
    {places : UInt32} :
    fault? ⟨field, .decimal default bounds places⟩ enums = some fault ↔
      (∃ min max, bounds.min = some min ∧ bounds.max = some max ∧ max < min ∧
          .boundsCrossed field (.decimal min) (.decimal max) = fault) ∨
        ¬ bounds.Crossed ∧
          (bounds.Leaves default ∧ .defaultOutside field (.decimal default) = fault ∨
            ¬ bounds.Leaves default ∧ (Decimal.roundTo default places == default) = false ∧
              .defaultTooFine field default places = fault) := by
  refine (bounds.found_eq_some_iff default
    (fun min max => .boundsCrossed field (.decimal min) (.decimal max))
    (.defaultOutside field (.decimal default))
    (if Decimal.roundTo default places == default then none
      else some (.defaultTooFine field default places)) ?_ ?_ ?_).trans (by simp)
  · intro min max hc
    simp [fault?, hc]
  · intro hc hx
    simp [fault?, hc, hx]
  · intro hc hx
    cases hr : (Decimal.roundTo default places == default) <;> simp [fault?, hc, hx, bne, hr]

theorem fault?_choice_eq_some_iff {field default key : String} :
    fault? ⟨field, .choice default key⟩ enums = some fault ↔
      (∀ choices, Fields.get? key enums = some choices → choices = []) ∧
        .choicesMissing field key = fault := by
  unfold fault?
  rcases hk : Fields.get? key enums with - | (- | ⟨first, rest⟩) <;> simp [hk]

/-- What is wrong with a setting behind others with the given fields. -/
def faultAfter? (enums : Fields (List String)) (earlier : List String) (spec : PropertySpec) :
    Option SchemaFault :=
  if spec.field ∈ earlier then some (.duplicateField spec.field) else spec.fault? enums

theorem faultAfter?_eq_some_iff {earlier : List String} :
    spec.faultAfter? enums earlier = some fault ↔ spec.Blamed enums earlier fault := by
  unfold faultAfter?
  by_cases hm : spec.field ∈ earlier
  · rw [if_pos hm, Option.some.injEq]
    constructor
    · rintro rfl
      exact .duplicate hm
    · intro h
      cases h with
      | duplicate _ => rfl
      | _ => contradiction
  · rw [if_neg hm]
    rcases spec with
      ⟨field, default | ⟨default, bounds⟩ | ⟨default, bounds, places⟩ | ⟨default, key⟩⟩
    · refine iff_of_false (fun h => nomatch h) ?_
      rintro ⟨h⟩
      exact hm h
    · rw [fault?_integer_eq_some_iff]
      constructor
      · rintro (⟨min, max, hmin, hmax, hlt, rfl⟩ | ⟨hc, hd, rfl⟩)
        · exact .integerCrossed hm hmin hmax hlt
        · exact .integerOutside hm hc hd
      · intro h
        cases h with
        | duplicate h => exact absurd h hm
        | integerCrossed _ hmin hmax hlt => exact .inl ⟨_, _, hmin, hmax, hlt, rfl⟩
        | integerOutside _ hc hd => exact .inr ⟨hc, hd, rfl⟩
    · rw [fault?_decimal_eq_some_iff]
      constructor
      · rintro (⟨min, max, hmin, hmax, hlt, rfl⟩ | ⟨hc, ⟨hd, rfl⟩ | ⟨hd, hr, rfl⟩⟩)
        · exact .decimalCrossed hm hmin hmax hlt
        · exact .decimalOutside hm hc hd
        · exact .tooFine hm hc hd hr
      · intro h
        cases h with
        | duplicate h => exact absurd h hm
        | decimalCrossed _ hmin hmax hlt => exact .inl ⟨_, _, hmin, hmax, hlt, rfl⟩
        | decimalOutside _ hc hd => exact .inr ⟨hc, .inl ⟨hd, rfl⟩⟩
        | tooFine _ hc hd hr => exact .inr ⟨hc, .inr ⟨hd, hr, rfl⟩⟩
    · rw [fault?_choice_eq_some_iff]
      constructor
      · rintro ⟨hk, rfl⟩
        exact .choicesMissing hm hk
      · intro h
        cases h with
        | duplicate h => exact absurd h hm
        | choicesMissing _ hk => exact ⟨hk, rfl⟩

/-! ### Cases that overlap -/

/-- The cases in which a setting is looked at on its own, in order.  Each of them
says what it finds, or nothing where it does not apply. -/
def checks (enums : Fields (List String)) : List (PropertySpec → Option (Option SchemaFault)) :=
  [fun
    | ⟨field, .integer _ ⟨some min, some max⟩⟩ =>
      if max < min then some (some (.boundsCrossed field (.integer min) (.integer max))) else none
    | _ => none,
  fun
    | ⟨field, .decimal _ ⟨some min, some max⟩ _⟩ =>
      if max < min then some (some (.boundsCrossed field (.decimal min) (.decimal max))) else none
    | _ => none,
  fun
    | ⟨field, .integer default bounds⟩ =>
      if bounds.excludes default then some (some (.defaultOutside field (.integer default)))
      else none
    | _ => none,
  -- a decimal is done with here, whatever is found
  fun
    | ⟨field, .decimal default bounds places⟩ =>
      if bounds.excludes default then some (some (.defaultOutside field (.decimal default)))
      else if Decimal.roundTo default places != default then
        some (some (.defaultTooFine field default places))
      else some none
    | _ => none,
  fun
    | ⟨field, .choice _ key⟩ =>
      match Fields.get? key enums with
      | some (_ :: _) => some none
      | _ => some (some (.choicesMissing field key))
    | _ => none,
  fun _ => some none]

/-- What the first case finds that applies. -/
def firstFound? (enums : Fields (List String)) (spec : PropertySpec) : Option SchemaFault :=
  ((checks enums).findSome? fun check => check spec).join

/-- No case keeps a later one from finding what it should. -/
theorem firstFound?_eq (enums : Fields (List String)) (spec : PropertySpec) :
    spec.firstFound? enums = spec.fault? enums := by
  rcases spec with ⟨field, default | ⟨default, ⟨min, max⟩⟩ | ⟨default, ⟨min, max⟩, places⟩ |
    ⟨default, key⟩⟩
  · rfl
  -- the first case for numbers asks for both bounds, and if it does not apply a later one does
  · cases min <;> cases max <;>
      simp only [firstFound?, checks, fault?, Bounds.crossed?, List.findSome?] <;> grind
  · cases min <;> cases max <;>
      simp only [firstFound?, checks, fault?, Bounds.crossed?, List.findSome?] <;> grind
  · simp only [firstFound?, checks, fault?, List.findSome?]
    grind

end PropertySpec

/-! ### All settings in order -/

variable {enums : Fields (List String)} {seen : List String} {specs : List PropertySpec}

/-- One setting after the other. -/
theorem firstFault?_cons (spec : PropertySpec) :
    firstFault? enums seen (spec :: specs) =
      (spec.faultAfter? enums seen).or (firstFault? enums (spec.field :: seen) specs) := by
  rw [firstFault?, PropertySpec.faultAfter?]
  split
  · rfl
  · cases spec.fault? enums <;> rfl

/-- In which order fields have been seen does not matter. -/
theorem PropertySpec.faultAfter?_congr {earlier other : List String}
    (h : ∀ field, field ∈ earlier ↔ field ∈ other) (spec : PropertySpec) :
    spec.faultAfter? enums earlier = spec.faultAfter? enums other := by
  unfold faultAfter?
  simp only [h]

/-- The first fault is that of a setting before which there is none. -/
theorem firstFault?_eq_some_iff {fault : SchemaFault} :
    firstFault? enums seen specs = some fault ↔
      ∃ before spec after, specs = before ++ spec :: after ∧ firstFault? enums seen before = none ∧
        spec.faultAfter? enums (before.map (·.field) ++ seen) = some fault := by
  induction specs generalizing seen with
  | nil => simp [firstFault?]
  | cons first rest ih =>
    have hmove : ∀ (before : List PropertySpec) (spec : PropertySpec),
        spec.faultAfter? enums (before.map (·.field) ++ first.field :: seen)
          = spec.faultAfter? enums ((first :: before).map (·.field) ++ seen) :=
      fun before spec => spec.faultAfter?_congr fun field => by simp [or_left_comm]
    rw [firstFault?_cons, Option.or_eq_some_iff, ih]
    constructor
    · rintro (h | ⟨hnone, before, spec, after, rfl, hbefore, hspec⟩)
      · exact ⟨[], first, rest, rfl, rfl, h⟩
      · refine ⟨first :: before, spec, after, rfl, ?_, (hmove before spec).symm.trans hspec⟩
        rw [firstFault?_cons, hnone, hbefore]
        rfl
    · rintro ⟨before, spec, after, heq, hbefore, hspec⟩
      cases before with
      | nil =>
        cases heq
        exact .inl hspec
      | cons other before =>
        cases heq
        rw [firstFault?_cons, Option.or_eq_none_iff] at hbefore
        exact .inr ⟨hbefore.1, before, spec, after, rfl, hbefore.2, (hmove before spec).trans hspec⟩

namespace Schema

open InPlace

/-- Checks one setting after another.  The fields that have been seen are kept. -/
def checkAllM (enums : Fields (List String)) : List PropertySpec → InPlace (List String) Error Unit
  | [] => return
  | spec :: rest => do
    let seen ← get
    if spec.field ∈ seen then throw (.schema (.duplicateField spec.field))
    else do
      set (spec.field :: seen)
      match spec.firstFound? enums with
      | some fault => throw (.schema fault)
      | none => checkAllM enums rest

/-- Checks a schema, case by case. -/
def validateM (schema : Schema) : InPlace (List String) Error Unit :=
  checkAllM schema.enums schema.properties

theorem outcome_checkAllM (enums : Fields (List String)) (specs : List PropertySpec)
    (seen : List String) :
    (outcome (checkAllM enums specs) seen).1 =
      match firstFault? enums seen specs with
      | none => .ok ()
      | some fault => .error (.schema fault) := by
  induction specs generalizing seen with
  | nil => rfl
  | cons spec rest ih =>
    rw [checkAllM, outcome_bind, outcome_get, firstFault?]
    simp only
    split
    · rfl
    · rw [outcome_bind, outcome_set, PropertySpec.firstFound?_eq]
      simp only
      cases spec.fault? enums with
      | none => exact ih _
      | some fault => rfl

theorem validate_eq_error_iff {schema : Schema} {e : Error} :
    schema.validate = .error e ↔ ∃ fault, schema.fault? = some fault ∧ .schema fault = e := by
  unfold validate
  cases schema.fault? <;> simp

/-- **The check of a schema.**  Its cases, tried one after another, come to what
it says.  It accepts a schema exactly if the fields are all different and each
setting is well formed.  The error is that of the first setting in order that
repeats a field or is not well formed. -/
theorem validate_blames_first (schema : Schema) :
    (outcome schema.validateM []).1 = schema.validate ∧
    (schema.validate = .ok () ↔ (schema.properties.map (·.field)).Nodup ∧
      ∀ spec ∈ schema.properties, spec.WellFormed schema.enums) ∧
    ∀ e, schema.validate = .error e ↔ ∃ before spec after fault,
      schema.properties = before ++ spec :: after ∧
      (before.map (·.field)).Nodup ∧ (∀ other ∈ before, other.WellFormed schema.enums) ∧
      spec.Blamed schema.enums (before.map (·.field)) fault ∧ .schema fault = e := by
  refine ⟨outcome_checkAllM schema.enums schema.properties [], ?_, fun e => ?_⟩
  · simp only [validate_eq_ok_iff, PropertySpec.wellFormed_iff]
  · rw [validate_eq_error_iff]
    simp only [fault?, firstFault?_eq_some_iff, firstFault?_eq_none_iff, List.append_nil,
      PropertySpec.faultAfter?_eq_some_iff, ← PropertySpec.wellFormed_iff]
    constructor
    · rintro ⟨fault, ⟨before, spec, after, heq, ⟨hn, -, hwf⟩, hblamed⟩, rfl⟩
      exact ⟨before, spec, after, fault, heq, hn, hwf, hblamed, rfl⟩
    · rintro ⟨before, spec, after, fault, heq, hn, hwf, hblamed, rfl⟩
      exact ⟨fault, ⟨before, spec, after, heq, ⟨hn, fun _ _ => List.not_mem_nil, hwf⟩, hblamed⟩, rfl⟩

end Schema

end Settings

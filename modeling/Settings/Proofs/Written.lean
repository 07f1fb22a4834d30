/-
Settings/Proofs/Written.lean

What a text tells about the values in it.  The reader finds the trees of
values again, so a text that could be of two values says the same of both
(`raw_eq_of_prettyChars`).  For strings the reader cannot be asked as they
stand, since separators stop it; but when those are spelled by their numbers,
the text becomes one that is read (`flatMap_respell`).

So configurations that differ in values only have the same text exactly if
their values are written alike, which is to say that they are the same, or
decimals that are not finite (`toText_eq_iff`).
-/
import Settings.Proofs.Fitting
import Settings.Proofs.Loading

namespace Settings

/-! ### Strings -/

namespace Json5

open Json (escapeChar stringText)

/-- A separator by its number, and any other character by itself. -/
def respell (c : Char) : List Char :=
  if isSeparator c then ['\\', 'u', '2', '0', '2', if c = '\u2028' then '8' else '9'] else [c]

/-- No separator is written for another character. -/
theorem any_isSeparator_escapeChar {c : Char} (hc : isSeparator c = false) :
    (escapeChar c).any isSeparator = false := by
  unfold escapeChar
  split
  iterate 7 · decide
  · split
    next h =>
      have hcontrol : ∀ n < 32, ['\\', 'u', '0', '0', Json.hexDigit (n / 16),
          Json.hexDigit (n % 16)].any isSeparator = false := by decide
      exact hcontrol c.toNat h
    next h => rw [List.any_cons, hc, List.any_nil, Bool.or_false]

theorem flatMap_respell_of_plain {text : List Char} (h : text.any isSeparator = false) :
    text.flatMap respell = text := by
  induction text with
  | nil => rfl
  | cons c rest ih =>
    rw [List.any_cons, Bool.or_eq_false_iff] at h
    rw [List.flatMap_cons, ih h.2, respell, h.1]
    rfl

/-- Spelling the separators anew gives the spelling that is always read. -/
theorem flatMap_respell_escapeChar (c : Char) :
    (escapeChar c).flatMap respell = spelledChar c := by
  unfold spelledChar
  cases hc : isSeparator c with
  | true =>
    rw [isSeparator, Bool.or_eq_true, decide_eq_true_iff, decide_eq_true_iff] at hc
    rcases hc with rfl | rfl <;> rfl
  | false => exact flatMap_respell_of_plain (any_isSeparator_escapeChar hc)

theorem flatMap_respell (text : String) (rest : List Char) :
    (stringText text ++ rest).flatMap respell = quoted text ++ rest.flatMap respell := by
  have hchars : (text.toList.flatMap escapeChar).flatMap respell
      = text.toList.flatMap spelledChar := by
    rw [List.flatMap_assoc]
    exact congrArg (text.toList.flatMap ·) (funext flatMap_respell_escapeChar)
  rw [List.flatMap_append, stringText, quoted, List.flatMap_append, List.flatMap_cons, hchars]
  rfl

/-- A text starts with one string only. -/
theorem stringText_append_iff {s t : String} {a b : List Char} :
    stringText s ++ a = stringText t ++ b ↔ s = t ∧ a = b := by
  constructor
  · intro h
    have hs := name?_quoted s (a.flatMap respell)
    rw [← flatMap_respell, h, flatMap_respell, name?_quoted] at hs
    have hst : t = s := Option.some.inj (congrArg Prod.fst (Option.some.inj hs))
    subst hst
    exact ⟨rfl, List.append_cancel_left h⟩
  · rintro ⟨rfl, rfl⟩
    rfl

/-! ### Values -/

/-- Values without separators have one text only if they have one tree. -/
theorem raw_eq_of_prettyChars {depth : ℕ} {i j : Json} (hi : i.isPlain = true)
    (hj : j.isPlain = true) {a b : List Char} (ha : Ends a) (hb : Ends b)
    (h : i.prettyChars depth ++ a = j.prettyChars depth ++ b) : i.raw = j.raw ∧ a = b := by
  have hreadi := value?_prettyChars depth ha i
    ((i.prettyChars depth).length + (j.prettyChars depth).length + 1) (by omega)
  have hreadj := value?_prettyChars depth hb j
    ((i.prettyChars depth).length + (j.prettyChars depth).length + 1) (by omega)
  rw [if_pos hi, h] at hreadi
  rw [if_pos hj, hreadi] at hreadj
  exact Prod.mk.inj (Option.some.inj hreadj)

end Json5

namespace Value

open Json5 (Ends)

/-- The values are written alike: they are the same, or decimals that are not
finite. -/
def Alike (u v : Value) : Prop := u = v ∨ ¬ u.IsFinite ∧ ¬ v.IsFinite

variable {u v : Value}

/-- Decimals are written as they are, be they finite or not. -/
theorem toJson_decimal (x : Float) :
    (toJson (.decimal x)).raw = (Json.decimal x).raw ∧
      (toJson (.decimal x)).isPlain = true ∧
      ∀ depth, (toJson (.decimal x)).prettyChars depth = Json.decimalText x := by
  rw [toJson, Json.raw, Json.decimalText]
  split
  next h => exact ⟨by rw [Json.raw, if_pos h], rfl, fun _ => if_pos h⟩
  next => exact ⟨rfl, rfl, fun _ => rfl⟩

/-- Only a string can hold a separator. -/
theorem isPlain_toJson (h : v.kind ≠ .choice) : v.toJson.isPlain = true := by
  cases v with
  | decimal x => exact (toJson_decimal x).2.1
  | choice s => exact absurd rfl h
  | _ => rfl

/-- What a text says of values of one kind. -/
theorem alike_of_raw (hk : u.kind = v.kind) (h : u.toJson.raw = v.toJson.raw) : u.Alike v := by
  cases u with
  | boolean a =>
    cases v with
    | boolean b =>
      cases h
      exact .inl rfl
    | _ => cases hk
  | integer a =>
    cases v with
    | integer b => exact .inl (congrArg _ (Int64.toInt_inj.mp (Raw.integer.inj h)))
    | _ => cases hk
  | decimal x =>
    cases v with
    | decimal y =>
      rw [(toJson_decimal x).1, (toJson_decimal y).1, Json.raw, Json.raw] at h
      split_ifs at h with hx hy hy
      · cases h
        exact .inl rfl
      · exact .inr ⟨hx, hy⟩
    | _ => cases hk
  | choice s =>
    cases v with
    | choice t =>
      cases h
      exact .inl rfl
    | _ => cases hk

/-- A text starts with one value of a kind only, up to what is written alike. -/
theorem prettyChars_append_iff {depth : ℕ} (hk : u.kind = v.kind) {a b : List Char} (ha : Ends a)
    (hb : Ends b) : u.toJson.prettyChars depth ++ a = v.toJson.prettyChars depth ++ b ↔
      u.Alike v ∧ a = b := by
  constructor
  · intro h
    by_cases hchoice : u.kind = .choice
    · cases u with
      | choice s =>
        cases v with
        | choice t =>
          obtain ⟨rfl, hab⟩ := Json5.stringText_append_iff.mp h
          exact ⟨.inl rfl, hab⟩
        | _ => cases hk
      | _ => cases hchoice
    · obtain ⟨hraw, hab⟩ := Json5.raw_eq_of_prettyChars (isPlain_toJson hchoice)
        (isPlain_toJson (hk ▸ hchoice)) ha hb h
      exact ⟨alike_of_raw hk hraw, hab⟩
  · rintro ⟨rfl | ⟨hu, hv⟩, rfl⟩
    · rfl
    · cases u with
      | decimal x =>
        cases v with
        | decimal y =>
          rw [(toJson_decimal x).2.2, (toJson_decimal y).2.2]
          have hx : ¬ x.isFinite = true := hu
          have hy : ¬ y.isFinite = true := hv
          rw [Json.decimalText, Json.decimalText, if_neg hx, if_neg hy]
        | _ => exact absurd trivial hv
      | _ => exact absurd trivial hu

end Value

/-! ### Configurations -/

namespace Configuration

open Json5 (Ends afterEntry)

/-- The properties have one field, and values of one kind. -/
def SameSort (p q : Property) : Prop := q.field = p.field ∧ q.value.kind = p.value.kind

/-- The entry of a property. -/
def entry (p : Property) : String × Json := (p.field, p.exported)

/-- Entries of properties that go together, and the same behind them. -/
theorem afterEntry_eq_iff {depth : ℕ} {rest : List Char} (hr : Ends rest) (added : Document)
    {ps qs : List Property} (h : List.Forall₂ SameSort ps qs) :
    afterEntry depth rest (ps.map entry ++ added) = afterEntry depth rest (qs.map entry ++ added) ↔
      List.Forall₂ (fun p q => p.value.Alike q.value) ps qs := by
  induction h with
  | nil => exact iff_of_true rfl .nil
  | @cons p q ps qs hpq _ ih =>
    have hline : ∀ (r : Property) (more : Document), afterEntry depth rest (entry r :: more) =
        ',' :: (Json.newline depth ++ (Json.stringText r.field ++
          ':' :: ' ' :: (r.exported.prettyChars depth ++ afterEntry depth rest more))) := by
      intro r more
      rw [← Json5.prettyEntries_eq_append]
      rfl
    rw [List.map_cons, List.map_cons, List.cons_append, List.cons_append, hline, hline, hpq.1,
      List.cons_inj_right, List.append_cancel_left_eq, List.append_cancel_left_eq,
      List.cons_inj_right, List.cons_inj_right, Property.exported, Property.exported,
      Value.prettyChars_append_iff hpq.2.symm (Json5.ends_afterEntry depth hr _)
        (Json5.ends_afterEntry depth hr _), ih, List.forall₂_cons]

/-- What is added to entries depends on their names only. -/
theorem exists_foldl_eq_append (more : Document) {known other : Document}
    (h : Fields.keys known = Fields.keys other) : ∃ added : Document,
      more.foldl (fun document entry =>
        if Fields.contains entry.1 document then document
        else Fields.insert entry.1 entry.2 document) known = known ++ added ∧
      more.foldl (fun document entry =>
        if Fields.contains entry.1 document then document
        else Fields.insert entry.1 entry.2 document) other = other ++ added := by
  induction more generalizing known other with
  | nil => exact ⟨[], by simp, by simp⟩
  | cons entry rest ih =>
    rw [List.foldl_cons, List.foldl_cons]
    by_cases hm : entry.1 ∈ Fields.keys known
    · rw [if_pos (Fields.contains_iff.mpr hm), if_pos (Fields.contains_iff.mpr (h ▸ hm))]
      exact ih h
    · have hm' : entry.1 ∉ Fields.keys other := h ▸ hm
      rw [if_neg (fun hc => hm (Fields.contains_iff.mp hc)),
        if_neg (fun hc => hm' (Fields.contains_iff.mp hc)), Fields.insert_of_not_mem hm,
        Fields.insert_of_not_mem hm']
      have hkeys : Fields.keys (known ++ [entry]) = Fields.keys (other ++ [entry]) := by
        rw [Fields.keys, Fields.keys, List.map_append, List.map_append]
        exact congrArg (· ++ [entry.1]) h
      obtain ⟨added, hknown, hother⟩ := ih hkeys
      exact ⟨entry :: added, by simp [hknown], by simp [hother]⟩

/-- The entries of properties with fields that are all different. -/
theorem ofList_entries {properties : List Property} (hn : (properties.map (·.field)).Nodup) :
    Fields.ofList (properties.map entry) = properties.map entry := by
  apply Fields.ofList_eq_self
  rw [Fields.keys, List.map_map]
  exact hn

variable {c d : Configuration}

/-- **Texts tell values apart**: configurations that differ in values only have
one text exactly if all values are written alike. -/
theorem toText_eq_iff (hn : (c.properties.map (·.field)).Nodup) (he : d.extra = c.extra)
    (h : List.Forall₂ SameSort c.properties d.properties) :
    c.toText = d.toText ↔
      List.Forall₂ (fun p q => p.value.Alike q.value) c.properties d.properties := by
  have hfields : c.properties.map (·.field) = d.properties.map (·.field) :=
    map_eq_map_of_forall₂ (h.imp fun _ _ hpq => hpq.1.symm)
  have hkeys : Fields.keys (c.properties.map entry) = Fields.keys (d.properties.map entry) := by
    rw [Fields.keys, Fields.keys, List.map_map, List.map_map]
    exact hfields
  obtain ⟨added, hc, hd⟩ := exists_foldl_eq_append c.extra hkeys
  have hdocument : c.toDocument = c.properties.map entry ++ added := by
    rw [← hc, ← ofList_entries hn]
    rfl
  have hdocument' : d.toDocument = d.properties.map entry ++ added := by
    rw [← hd, ← he, ← ofList_entries (hfields ▸ hn)]
    rfl
  rw [toText, toText, Json.pretty, Json.pretty, String.ofList_inj, hdocument, hdocument']
  generalize d.properties = qs at h
  generalize c.properties = ps at h
  cases h with
  | nil => exact iff_of_true rfl .nil
  | @cons p q ps qs hpq hrest =>
    have hobject : ∀ entries : Document, entries ≠ [] → ∃ tail,
        (Json.object entries).prettyChars 0 = '\x7b' :: tail ∧
          afterEntry 1 (Json.newline 0 ++ ['\x7d']) entries = ',' :: tail := by
      intro entries hne
      cases entries with
      | nil => exact absurd rfl hne
      | cons entry entries =>
        refine ⟨_, ?_, rfl⟩
        rw [Json.prettyChars]
        simp
    obtain ⟨tail, htext, hafter⟩ := hobject ((p :: ps).map entry ++ added) (by simp)
    obtain ⟨tail', htext', hafter'⟩ := hobject ((q :: qs).map entry ++ added) (by simp)
    rw [htext, htext', List.cons_inj_right,
      ← afterEntry_eq_iff (Json5.ends_newline 0 ['\x7d']) added (.cons hpq hrest), hafter, hafter',
      List.cons_inj_right]

end Configuration

end Settings

/-
Settings/Proofs/Flags.lean

The flags of a session along a run of calls.  They are stored, and each call
decides by itself whether to compute them again: most do so when they succeed,
putting in a value only does where a change is reported, and none does when it
fails.  They are right all the same (`Session.flags_never_stale`), because

* a call that fails leaves everything as it was, and
* where no change of a property is reported, the property is the old one.

Enforcing is the exception on both counts, so every enforcing call of a run
has to succeed.
-/
import Settings.Proofs.Calls

namespace Settings

open InPlace

namespace Session

/-- The sessions that calls lead to, with any files at each call, and whether
something has been opened on the way. -/
inductive Reached (start : Session) : Bool → Session → Prop
  | start : Reached start false start
  | call {opened : Bool} {s : Session} (call : Call) (tree : FileTree)
      {result : Except Error Unit} {w : World} :
      Reached start opened s → outcome call.run ⟨s, tree⟩ = (result, w) →
      (call.enforces = true → result.isOk = true) →
      Reached start (opened || call.opens && result.isOk) w.session

/-- The flags are those of the open configuration, and there is one if
something has been opened. -/
structure Current (opened : Bool) (s : Session) : Prop where
  flags_eq : s.flags = Flags.of s.configuration
  isSome_eq : s.configuration.isSome = opened

variable {opened : Bool} {s t : Session} {c d : Configuration} {w w' : World}

/-! ### What keeps the flags right -/

theorem current_start (registry : Registry) (language : Language) (enforcedPath : Option String) :
    Current false (start registry language enforcedPath) := ⟨rfl, rfl⟩

theorem current_withConfiguration (s : Session) (c : Configuration) :
    Current true (s.withConfiguration c) := ⟨rfl, rfl⟩

theorem Current.opened_eq (h : Current opened s) (hc : s.current = .ok c) : opened = true := by
  rw [← h.isSome_eq, current_eq_ok_iff.mp hc]
  rfl

/-- Computing the flags again more than once changes nothing. -/
theorem foldl_refresh (changes : List Change) (s : Session) :
    changes.foldl (fun s _ => s.refresh) s.refresh = s.refresh := by
  induction changes with
  | nil => rfl
  | cons change rest ih => exact ih

/-- The flags stay right where every effect is reported. -/
theorem Current.notified (h : Current opened s) (hc : s.current = .ok c) {changes : List Change}
    (hd : changes = [] → d = c) :
    Current opened (changes.foldl (fun s _ => s.refresh) { s with configuration := some d }) := by
  cases changes with
  | nil =>
    -- nothing is reported, and the configuration is the old one
    have hsame : { s with configuration := some d } = s := by
      rw [hd rfl, ← current_eq_ok_iff.mp hc]
    rw [List.foldl_nil, hsame]
    exact h
  | cons change rest =>
    rw [List.foldl_cons, foldl_refresh, h.opened_eq hc]
    exact current_withConfiguration s d

/-! ### One call -/

theorem current_of_openFile {tree : FileTree} {path name : String}
    (h : s.openFile tree path name = .ok t) : Current true t := by
  obtain ⟨c, -, h⟩ := exists_of_bind_eq_ok h
  obtain ⟨d, -, h⟩ := exists_of_bind_eq_ok h
  cases h
  exact current_withConfiguration s d

theorem current_of_openDefault {tree tree' : FileTree} {path name : String}
    (h : s.openDefault tree path name = .ok (t, tree')) : Current true t := by
  obtain ⟨schema, -, h⟩ := exists_of_bind_eq_ok h
  obtain ⟨c, -, h⟩ := exists_of_bind_eq_ok h
  obtain ⟨r, -, h⟩ := exists_of_bind_eq_ok h
  cases h
  exact current_withConfiguration s r.2.1

theorem Current.reload {tree : FileTree} (hs : Current opened s)
    (h : s.reload tree = .ok t) : Current opened t := by
  obtain ⟨c, hc, h⟩ := exists_of_bind_eq_ok h
  obtain ⟨d, -, h⟩ := exists_of_bind_eq_ok h
  cases h
  rw [hs.opened_eq hc]
  exact current_withConfiguration s d

theorem Current.saveAs {tree tree' : FileTree} {path : String} {written : Bool}
    (hs : Current opened s) (h : s.saveAs tree path = .ok (written, t, tree')) :
    Current opened t := by
  obtain ⟨c, hc, h⟩ := exists_of_bind_eq_ok h
  obtain ⟨r, -, h⟩ := exists_of_bind_eq_ok h
  cases h
  rw [hs.opened_eq hc]
  exact current_withConfiguration s r.2.1

theorem Current.save {tree tree' : FileTree} {written : Bool}
    (hs : Current opened s) (h : s.save tree = .ok (written, t, tree')) : Current opened t := by
  obtain ⟨c, -, h⟩ := exists_of_bind_eq_ok h
  split at h
  · cases h
  · exact hs.saveAs h

theorem Current.restoreDefaults {changes : List Change} (hs : Current opened s)
    (h : s.restoreDefaults = .ok (t, changes)) : Current opened t := by
  obtain ⟨c, hc, h⟩ := exists_of_bind_eq_ok h
  cases h
  rw [hs.opened_eq hc]
  exact current_withConfiguration s c.restoreDefaults.1

theorem Current.applyEnforced {tree : FileTree} {path : String} {changes : List Change}
    (hs : Current opened s) (h : s.applyEnforced tree path = (.ok changes, t)) :
    Current opened t := by
  unfold Session.applyEnforced at h
  split at h
  · cases h
  next c hc =>
    split at h
    · cases h
    next changes d _ =>
      cases h
      rw [hs.opened_eq (current_eq_ok_iff.mpr hc)]
      exact current_withConfiguration s d

theorem Current.setValue {field : String} {value : Value} {change : Option Change}
    (hs : Current opened s) (h : s.setValue field value = .ok (t, change)) : Current opened t := by
  obtain ⟨c, hc, h⟩ := exists_of_bind_eq_ok h
  obtain ⟨⟨d, change'⟩, hd, h⟩ := exists_of_bind_eq_ok h
  have hsame : change'.toList = [] → d = c := by
    intro hnone
    rw [Option.toList_eq_nil_iff] at hnone
    rw [hnone] at hd
    exact Configuration.eq_of_modify Property.eq_of_setValue hd
  have hn := hs.notified hc hsame
  cases h
  cases change <;> exact hn

theorem Current.edit {field : String}
    {change : Property → Except Malformed (Property × List Change)}
    (hchange : ∀ {p q}, change p = .ok (q, []) → q = p) (hs : Current opened s)
    (h : s.edit field change = .ok t) : Current opened t := by
  obtain ⟨c, hc, h⟩ := exists_of_bind_eq_ok h
  obtain ⟨⟨d, changes⟩, hd, h⟩ := exists_of_bind_eq_ok h
  cases h
  refine hs.notified hc ?_
  rintro rfl
  exact Configuration.eq_of_modify hchange hd

/-- Where no change of a property is listed, there has been none. -/
theorem eq_of_atMostOne {p q : Property} {r : Property × Option Change}
    (hr : r.2 = none → r.1 = p) (h : Call.atMostOne r = (q, [])) : q = p := by
  obtain ⟨hq, hnone⟩ := Prod.mk.inj h
  rw [← hq]
  exact hr (Option.toList_eq_nil_iff.mp hnone)

/-- What is opened has the right flags. -/
theorem current_of_opens {call : Call} (hopens : call.opens = true)
    (h : call.result w = .ok w') : Current true w'.session := by
  cases call with
  | openFile path name =>
    obtain ⟨t, ht, rfl⟩ := exists_of_map_eq_ok h
    exact current_of_openFile ht
  | openDefault path name =>
    obtain ⟨⟨t, tree⟩, ht, rfl⟩ := exists_of_map_eq_ok h
    exact current_of_openDefault ht
  | _ => cases hopens

/-- Other calls that succeed leave the flags right. -/
theorem Current.result {call : Call} (hs : Current opened w.session)
    (hopens : call.opens = false) (h : call.result w = .ok w') : Current opened w'.session := by
  cases call with
  | openFile path name => cases hopens
  | openDefault path name => cases hopens
  | reload =>
    obtain ⟨t, ht, rfl⟩ := exists_of_map_eq_ok h
    exact hs.reload ht
  | save =>
    obtain ⟨⟨written, t, tree⟩, ht, rfl⟩ := exists_of_map_eq_ok h
    exact hs.save ht
  | saveAs path =>
    obtain ⟨⟨written, t, tree⟩, ht, rfl⟩ := exists_of_map_eq_ok h
    exact hs.saveAs ht
  | restoreDefaults =>
    obtain ⟨⟨t, changes⟩, ht, rfl⟩ := exists_of_map_eq_ok h
    exact hs.restoreDefaults ht
  | setValue field value =>
    obtain ⟨⟨t, change⟩, ht, rfl⟩ := exists_of_map_eq_ok h
    exact hs.setValue ht
  | applyEnforced path =>
    obtain ⟨changes, hchanges, rfl⟩ := exists_of_map_eq_ok h
    exact hs.applyEnforced (Prod.ext hchanges rfl)
  | search query =>
    cases h
    exact hs
  | editValue field value =>
    obtain ⟨t, ht, rfl⟩ := exists_of_map_eq_ok h
    refine hs.edit ?_ ht
    intro p q hq
    obtain ⟨⟨q', change⟩, hset, hr⟩ := exists_of_map_eq_ok hq
    refine eq_of_atMostOne ?_ hr
    rintro rfl
    exact Property.eq_of_setValue hset
  | editDefault field =>
    obtain ⟨t, ht, rfl⟩ := exists_of_map_eq_ok h
    exact hs.edit (fun hq => eq_of_atMostOne Property.eq_of_restoreDefault (Except.ok.inj hq)) ht
  | editOverride field value =>
    obtain ⟨t, ht, rfl⟩ := exists_of_map_eq_ok h
    exact hs.edit Property.eq_of_setOverride ht

/-- A call leaves the flags right, be it successful or not. -/
theorem Current.call {call : Call} {tree : FileTree} {result : Except Error Unit}
    (hs : Current opened s) (h : outcome call.run ⟨s, tree⟩ = (result, w))
    (henforced : call.enforces = true → result.isOk = true) :
    Current (opened || call.opens && result.isOk) w.session := by
  cases result with
  | ok a =>
    have hw := Call.result_of_run h
    cases hopens : call.opens with
    | true =>
      rw [Bool.true_and, show (Except.ok a : Except Error Unit).isOk = true from rfl, Bool.or_true]
      exact current_of_opens hopens hw
    | false =>
      rw [Bool.false_and, Bool.or_false]
      exact hs.result hopens hw
  | error e =>
    have hc : call.enforces = false := by
      cases he : call.enforces with
      | false => rfl
      | true => cases henforced he
    rw [Call.outcome_run hc] at h
    have hw : w = ⟨s, tree⟩ := eq_of_wholly_eq_error h
    rw [hw, show (Except.error e : Except Error Unit).isOk = false from rfl, Bool.and_false,
      Bool.or_false]
    exact hs

/-! ### Runs -/

theorem Reached.current {registry : Registry} {language : Language} {enforcedPath : Option String}
    (h : Reached (Session.start registry language enforcedPath) opened s) : Current opened s := by
  induction h with
  | start => exact current_start registry language enforcedPath
  | call call tree _ hrun henforced ih => exact ih.call hrun henforced

/-- Nothing is open exactly where the state says so. -/
theorem state_eq_closed_iff : s.state = .closed ↔ s.configuration.isSome = false := by
  unfold state
  cases s.configuration <;> simp

end Session

end Settings

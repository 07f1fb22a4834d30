/-
Settings/Proofs/Calls.lean

What can be asked of a session, and what becomes of a call that fails.  A call
changes the session and the files in place (`Call.run`); what its success
gives is a function of the world before it (`Call.result`).

Every call but enforcing does what the function says, or nothing:

    outcome call.run w  =  wholly w (call.result w)

So a call that fails leaves the session and the files as they were
(`Call.failed_unchanged`), wherever it fails: also where a file has been read
and something else is refused afterwards.
-/
import Settings.Proofs.Invariant
import Settings.Proofs.InPlace.Session

namespace Settings

open InPlace

/-- What can be asked of a session. -/
inductive Call where
  | openFile (path name : String)
  | openDefault (path name : String)
  | reload
  | save
  | saveAs (path : String)
  | restoreDefaults
  | setValue (field : String) (value : Value)
  | applyEnforced (path : String)
  | search (query : String)
  /-- Puts a value into a property, and tells the session. -/
  | editValue (field : String) (value : Value)
  /-- Puts a property back to its default, and tells the session. -/
  | editDefault (field : String)
  /-- Enforces a value for a property, or none, and tells the session. -/
  | editOverride (field : String) (value : Option Value)

namespace Call

/-- Whether values are enforced on what is open. -/
def enforces : Call → Bool
  | applyEnforced _ => true
  | _ => false

/-- Whether something is opened. -/
def opens : Call → Bool
  | openFile .. => true
  | openDefault .. => true
  | _ => false

/-- The changes of a property, where there can be one at most. -/
def atMostOneM (m : InPlace Property Malformed (Option Change)) :
    InPlace Property Malformed (List Change) := Option.toList <$> m

/-- What the call does. -/
def run : Call → InPlace World Error Unit
  | openFile path name => Session.openFileM path name
  | openDefault path name => Session.openDefaultM path name
  | reload => Session.reloadM
  | save => (fun _ => ()) <$> Session.saveM
  | saveAs path => (fun _ => ()) <$> Session.saveAsM path
  | restoreDefaults => (fun _ => ()) <$> Session.restoreDefaultsM
  | setValue field value => (fun _ => ()) <$> Session.setValueM field value
  | applyEnforced path => (fun _ => ()) <$> Session.applyEnforcedM path
  | search query => do
    let w ← get
    let _ := w.session.search query
    return
  | editValue field value => Session.editM field (atMostOneM (Property.setValueM value))
  | editDefault field => Session.editM field (atMostOneM Property.restoreDefaultM)
  | editOverride field value => Session.editM field (Property.setOverrideM value)

/-- The changes of a property, where there can be one at most. -/
def atMostOne (changed : Property × Option Change) : Property × List Change :=
  (changed.1, changed.2.toList)

/-- The world that success leads to. -/
def result (w : World) : Call → Except Error World
  | openFile path name =>
    (w.session.openFile w.tree path name).map fun s => { w with session := s }
  | openDefault path name =>
    (w.session.openDefault w.tree path name).map fun r => ⟨r.1, r.2⟩
  | reload => (w.session.reload w.tree).map fun s => { w with session := s }
  | save => (w.session.save w.tree).map fun r => ⟨r.2.1, r.2.2⟩
  | saveAs path => (w.session.saveAs w.tree path).map fun r => ⟨r.2.1, r.2.2⟩
  | restoreDefaults => w.session.restoreDefaults.map fun r => { w with session := r.1 }
  | setValue field value =>
    (w.session.setValue field value).map fun r => { w with session := r.1 }
  | applyEnforced path =>
    (w.session.applyEnforced w.tree path).1.map fun _ =>
      { w with session := (w.session.applyEnforced w.tree path).2 }
  | search _ => .ok w
  | editValue field value =>
    (w.session.edit field fun p => (p.setValue value).map atMostOne).map fun s =>
      { w with session := s }
  | editDefault field =>
    (w.session.edit field fun p => .ok (atMostOne p.restoreDefault)).map fun s =>
      { w with session := s }
  | editOverride field value =>
    (w.session.edit field (·.setOverride value)).map fun s => { w with session := s }

/-! ### All or nothing -/

variable {call : Call} {w w' : World}

theorem outcome_atMostOneM {m : InPlace Property Malformed (Option Change)} {p : Property}
    {r : Except Malformed (Property × Option Change)} (hm : outcome m p = wholly p r) :
    outcome (atMostOneM m) p = wholly p (r.map atMostOne) :=
  outcome_map_wholly Option.toList hm

/-- Every call but enforcing does all or nothing. -/
theorem outcome_run (h : call.enforces = false) (w : World) :
    outcome call.run w = wholly w ((call.result w).map (·, ())) := by
  cases call with
  | openFile path name => rw [run, Session.outcome_openFileM, result, map_map]
  | openDefault path name => rw [run, Session.outcome_openDefaultM, result, map_map]
  | reload => rw [run, Session.outcome_reloadM, result, map_map]
  | save => rw [run, outcome_map_wholly _ (Session.outcome_saveM w), result, map_map, map_map]
  | saveAs path =>
    rw [run, outcome_map_wholly _ (Session.outcome_saveAsM path w), result, map_map, map_map]
  | restoreDefaults =>
    rw [run, outcome_map_wholly _ (Session.outcome_restoreDefaultsM w), result, map_map, map_map]
  | setValue field value =>
    rw [run, outcome_map_wholly _ (Session.outcome_setValueM field value w), result, map_map,
      map_map]
  | applyEnforced path => cases h
  | search query => rfl
  | editValue field value =>
    have hm : ∀ p, outcome (atMostOneM (Property.setValueM value)) p
        = wholly p ((p.setValue value).map atMostOne) :=
      fun p => outcome_atMostOneM (Property.outcome_setValueM p value)
    rw [run, Session.outcome_editM hm, result, map_map]
  | editDefault field =>
    have hm : ∀ p, outcome (atMostOneM Property.restoreDefaultM) p
        = wholly p (.ok (atMostOne p.restoreDefault)) :=
      fun p => outcome_atMostOneM (Property.outcome_restoreDefaultM p)
    rw [run, Session.outcome_editM hm, result, map_map]
  | editOverride field value =>
    rw [run, Session.outcome_editM fun p => Property.outcome_setOverrideM p value, result, map_map]

/-- Success leads where the function says, also of enforcing. -/
theorem result_of_run (h : outcome call.run w = (.ok (), w')) : call.result w = .ok w' := by
  cases hc : call.enforces with
  | false =>
    rw [outcome_run hc, wholly_eq_ok_iff] at h
    obtain ⟨v, hv, he⟩ := exists_of_map_eq_ok h
    cases he
    exact hv
  | true =>
    cases call with
    | applyEnforced path =>
      rw [run, outcome_map, Session.outcome_applyEnforcedM] at h
      obtain ⟨hresult, hw⟩ := Prod.mk.inj h
      obtain ⟨changes, hchanges, -⟩ := exists_of_map_eq_ok hresult
      rw [result, hchanges, ← hw]
      rfl
    | _ => cases hc

/-- **A call that fails changes nothing**: neither the open configuration, nor
the flags, nor any file.  Only enforcing is excepted. -/
theorem failed_unchanged {e : Error} (hc : call.enforces = false)
    (h : outcome call.run w = (.error e, w')) : w' = w := by
  rw [outcome_run hc] at h
  exact eq_of_wholly_eq_error h

/-- A session with unsaved changes, and the file that it enforces. -/
def sampleWorld : World where
  session := (Session.start [("sample", Configuration.sampleSchema)] [] (some "/enforced.json")).withConfiguration
    Configuration.sampleEdited
  tree := ⟨[(["enforced.json"],
      .file "\x7b\"enforced_config\": \x7b\"fov\": 90\x7d\x7d".toUTF8)], by decide⟩

/-- Its values can be enforced, but there is no directory to write to. -/
theorem failed_unchanged_sampleWorld :
    (openDefault "/missing/a.json5" "sample").enforces = false ∧
      (sampleWorld.session.enforceOnOpening sampleWorld.tree
        (Configuration.ofDefaults "sample" Configuration.sampleSchema [])).isOk = true ∧
      ∃ e w', outcome (openDefault "/missing/a.json5" "sample").run sampleWorld = (.error e, w') ∧
        w' = sampleWorld := by
  have herror : (outcome (openDefault "/missing/a.json5" "sample").run sampleWorld).1.isOk
      = false := by decide +kernel
  refine ⟨rfl, by decide +kernel, ?_⟩
  cases h : outcome (openDefault "/missing/a.json5" "sample").run sampleWorld with
  | mk r w' =>
    rw [h] at herror
    cases r with
    | ok a => cases herror
    | error e => exact ⟨e, w', rfl, failed_unchanged rfl h⟩

end Call

end Settings

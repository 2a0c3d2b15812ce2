import Inlay.Proofs.Fault.Wording

/-!
# Suggestions of failed renders

A registry that is extended by worded forms has no others (`Registry.Complete.register`), so the
report of a failure can always be filled. What becomes of its suggestion is decided by the text that
has been filled in, which is read for fields once more: it is left out if it seems to have one, and
nothing is reported at all if it cannot be read as a pattern. So a suggestion comes through if and
only if its filled text has each brace twice (`reportFailure_suggestion`). A single brace costs the
suggestion or the report, whether the wording puts it there or the name of a template or an item.
-/

namespace Inlay

/-! ## Extended registries -/

namespace Registry

/-- A form takes the place of the one that its code had. -/
theorem find?_insert (form : FaultForm) (forms : List FaultForm) (code : String) :
    (insert form forms).find? (·.code == code)
      = if form.code = code then some form else forms.find? (·.code == code) := by
  induction forms with
  | nil =>
    by_cases hcode : form.code = code <;> simp [insert, hcode]
  | cons first rest ih =>
    rw [insert]
    split
    · next hfirst =>
      have hsame : first.code = form.code := eq_of_beq hfirst
      by_cases hcode : form.code = code <;> simp [hsame, hcode]
    · next hfirst =>
      rw [List.find?_cons, List.find?_cons, ih]
      by_cases hcode : form.code = code
      · have hother : (first.code == code) = false := by simpa [hcode] using hfirst
        rw [hother, if_pos hcode]
      · simp only [if_neg hcode]

/-- A form is found under its code as soon as it is registered, and the others as before. -/
theorem find?_register (registry : Registry) (form : FaultForm) (code : String) :
    (registry.register form).find? code
      = if form.code = code then some form else registry.find? code :=
  find?_insert form registry.forms code

/-- What is found under a code is a form of that code. -/
theorem code_of_find? {registry : Registry} {code : String} {form : FaultForm}
    (h : registry.find? code = some form) : form.code = code := by
  have hcode := List.find?_some h
  exact eq_of_beq hcode

/-- Every form that is found is worded, and failures have one. -/
structure Complete (registry : Registry) : Prop where
  worded : ∀ code form, registry.find? code = some form → ∃ worded : WordedForm, worded.form = form
  failed : (registry.find? Code.renderFailed).isSome = true

/-- The built-in registry has a form for every failure. -/
theorem Complete.builtin : builtin.Complete where
  worded _ _ hform := Reporter.exists_worded_of_builtin (List.mem_of_find?_eq_some hform)
  failed := rfl

/-- It stays complete when a further form is registered, or one is replaced. -/
theorem Complete.register {registry : Registry} (h : registry.Complete) (worded : WordedForm) :
    (registry.register worded.form).Complete where
  worded code form hform := by
    rw [find?_register] at hform
    split at hform
    · cases hform
      exact ⟨worded, rfl⟩
    · exact h.worded code form hform
  failed := by
    rw [find?_register]
    split
    · rfl
    · exact h.failed

/-- The registry with further forms, one registered after the other. -/
def extended (forms : List WordedForm) : Registry :=
  forms.foldl (fun registry worded => registry.register worded.form) builtin

/-- So it does with any number of them. -/
theorem complete_extended (forms : List WordedForm) : (extended forms).Complete := by
  refine List.foldlRecOn forms _ Complete.builtin fun registry hregistry worded _ => ?_
  exact hregistry.register worded

/-- The code that a failure is reported under. -/
def failureCode (registry : Registry) (code : String) : String :=
  if (registry.find? code).isSome then code else Code.renderFailed

/-- A failure is reported by a worded form, whatever its code is. -/
theorem Complete.exists_find? {registry : Registry} (h : registry.Complete) (code : String) :
    ∃ worded : WordedForm, registry.find? (registry.failureCode code) = some worded.form := by
  have hfound : (registry.find? (registry.failureCode code)).isSome = true := by
    unfold failureCode
    split
    · assumption
    · exact h.failed
  obtain ⟨form, hform⟩ := Option.isSome_iff_exists.1 hfound
  obtain ⟨worded, rfl⟩ := h.worded _ _ hform
  exact ⟨worded, hform⟩

end Registry

/-! ## The report of a failure -/

namespace Reporter

/-- The names of the values that a failed render is reported with. -/
def failureNames : List String := ["template_origin", "item_identifier", "trail", "detail"]

/-- The report of a failure has values under these names and no others. -/
theorem isSome_failureValues_iff {origin item : Value} {trail : List Value} {detail : String}
    {name : String} :
    ((failureValues origin item trail detail).field? name).isSome = true ↔
      name ∈ failureNames := by
  have hkey (a b : String) : (Value.text a).sameKey (.text b) = true ↔ b = a := by
    rw [Value.sameKey, beq_iff_eq, eq_comm]
  rw [Entries.field?, Entries.get?, Option.isSome_map, List.find?_isSome]
  simp [failureValues, failureNames, hkey]

section

variable {origin item : Value} {trail : List Value} {detail : String} {wording : Wording}

/-- A wording that asks for nothing else is filled by the values of a failure. -/
theorem exists_filled_failureValues (h : ∀ name ∈ wording.names, name ∈ failureNames) :
    ∃ text, wording.filled? (failureValues origin item trail detail) = some text :=
  Option.isSome_iff_exists.1 <| Wording.isSome_filled?_iff.2 fun name hname =>
    isSome_failureValues_iff.2 (h name hname)

/-- One that asks for anything else is not. -/
theorem unfilled_failureValues {name : String} (hname : name ∈ wording.names)
    (hmissing : name ∉ failureNames) :
    wording.filled? (failureValues origin item trail detail) = none := by
  rw [← Option.not_isSome_iff_eq_none, Wording.isSome_filled?_iff]
  exact fun hfilled => hmissing (isSome_failureValues_iff.1 (hfilled name hname))

end

/-- Texts can be written, and so can a list of them. -/
theorem membersHaveText_map_text (texts : List String) :
    Value.membersHaveText (texts.map .text) = true := by
  induction texts with
  | nil => rfl
  | cons text rest ih => exact ih

/-- What a failure is reported with can all be written, as long as templates and items are called by
texts. -/
theorem hasText_failureValues (origin item : Option String) (trail : List String) (detail : String)
    {name : String} {value : Value}
    (h : (failureValues (.ofText? origin) (.ofText? item) (trail.map .text) detail).field? name
      = some value) : value.hasText = true := by
  obtain ⟨⟨key, found⟩, hfound, rfl⟩ := Option.map_eq_some_iff.1 h
  have hmem := List.mem_of_find?_eq_some hfound
  simp only [failureValues, List.mem_cons, Prod.mk.injEq, List.not_mem_nil, or_false] at hmem
  rcases hmem with ⟨-, rfl⟩ | ⟨-, rfl⟩ | ⟨-, rfl⟩ | ⟨-, rfl⟩
  · cases origin <;> rfl
  · cases item <;> rfl
  · exact membersHaveText_map_text trail
  · rfl

/-- A failure as the fault that it is reported by, with what comes of the suggestion. -/
def failed (reporter : Reporter) (form : FaultForm) (framing : String) (trail : List String)
    (origin item : Option String) (suggestion : Option String) : Fault where
  code := form.code
  category := form.category
  message := framing
  detail := .text (",\n".intercalate trail)
  suggestion := suggestion
  origin := .ofText? origin
  item := .ofText? item
  trail := trail.map .text
  cause := none
  reported := reporter.now

section

variable (reporter : Reporter) (code framing : String) (trail : List String)
  (origin item : Option String)

/-- A failure as it is reported by a worded form: the filled suggestion is read for fields once
more. -/
theorem reportFailure_form {worded : WordedForm}
    (hform : reporter.registry.find? (reporter.registry.failureCode code) = some worded.form) :
    let values := failureValues (.ofText? origin) (.ofText? item) (trail.map .text)
      (",\n".intercalate trail)
    let fault := reporter.failed worded.form framing trail origin item
    reporter.reportFailure code (trail.map .text) framing (.ofText? origin) (.ofText? item)
      = match worded.suggestion with
        | none => .ok (fault none)
        | some wording =>
          match Pattern.hasSlot (wording.told values) with
          | .ok false => .ok (fault (some (wording.told values)))
          | .ok true => .ok (fault none)
          | .error misuse => .error misuse := by
  intro values fault
  have hcode : worded.code = reporter.registry.failureCode code :=
    Registry.code_of_find? hform
  have hlisted : trailOf values = .ok (trail.map .text) := rfl
  have hfillable : worded.isFillable values = true := by
    have hwording (wording : Wording) : wording.isFillable values = true :=
      Wording.isFillable_of_hasText fun _ _ _ => hasText_failureValues origin item trail _
    have hall (wording : Option Wording) : wording.all (Wording.isFillable values) = true := by
      cases wording with
      | none => rfl
      | some wording => exact hwording wording
    rw [WordedForm.isFillable, hall, hall, hall]
    rfl
  unfold reportFailure
  rw [Fault.lines_map_text, Except.ok_bind]
  dsimp only
  rw [← failureValues, ← Registry.failureCode, ← hcode,
    report_form (hcode ▸ hform), if_pos hfillable, hlisted, Except.map, Except.ok_bind]
  dsimp only
  cases worded.suggestion with
  | none => rfl
  | some wording =>
    rw [Option.map_some]
    dsimp only
    -- an empty text is kept without a look at its fields, and it has none
    cases hempty : (wording.told values).isEmpty with
    | true =>
      rw [String.isEmpty_iff.1 hempty]
      rfl
    | false =>
      cases hslot : Pattern.hasSlot (wording.told values) with
      | error misuse => rfl
      | ok has => cases has <;> rfl

/-- A failure is reported, with the suggestion if that can be filled and its filled text has each
brace twice. Any other filled text is read as a pattern: if it has a field, the suggestion is lost,
and if it is malformed, so is the whole report. -/
theorem reportFailure_suggestion (forms : List WordedForm) (now : Moment) :
    let reporter : Reporter := ⟨.extended forms, now⟩
    let values := failureValues (.ofText? origin) (.ofText? item) (trail.map .text)
      (",\n".intercalate trail)
    let outcome :=
      reporter.reportFailure code (trail.map .text) framing (.ofText? origin) (.ofText? item)
    let form := reporter.registry.find? (reporter.registry.failureCode code)
    (∃ worded : WordedForm, form = some worded.form) ∧
    ∀ worded : WordedForm, form = some worded.form →
      let fault := reporter.failed worded.form framing trail origin item
      (worded.suggestion = none → outcome = .ok (fault none)) ∧
      ∀ wording, worded.suggestion = some wording →
        ((∃ name ∈ wording.names, name ∉ failureNames) → outcome = .ok (fault none)) ∧
        ((∀ name ∈ wording.names, name ∈ failureNames) →
          ∃ text, wording.filled? values = some text ∧
            ((∃ plain, text.toList = Pattern.escaped plain) →
              outcome = .ok (fault (some text))) ∧
            ((¬ ∃ plain, text.toList = Pattern.escaped plain) →
              Pattern.hasSlot text = .ok true ∧ outcome = .ok (fault none) ∨
              ∃ misuse, Pattern.hasSlot text = .error misuse ∧ outcome = .error misuse)) := by
  intro reporter values outcome form
  refine ⟨(Registry.complete_extended forms).exists_find? code, fun worded hform => ?_⟩
  have hreport := reportFailure_form reporter code framing trail origin item hform
  refine ⟨fun hnone => ?_, fun wording hwording => ⟨?_, fun hnames => ?_⟩⟩
  · rw [hnone] at hreport
    exact hreport
  · rintro ⟨name, hname, hmissing⟩
    rw [hwording] at hreport
    dsimp only at hreport
    rw [Wording.told_of_unfilled (unfilled_failureValues hname hmissing),
      Pattern.hasSlot_pattern (List.ne_nil_of_mem hname)] at hreport
    exact hreport
  · obtain ⟨text, htext⟩ : ∃ text, wording.filled? values = some text :=
      exists_filled_failureValues hnames
    rw [hwording] at hreport
    dsimp only at hreport
    rw [Wording.told_of_filled htext] at hreport
    refine ⟨text, htext, fun hplain => ?_, fun hplain => ?_⟩
    · rw [Pattern.hasSlot_eq_false_iff.2 hplain] at hreport
      exact hreport
    -- what is not a text with its braces twice has a field, or cannot be read
    · rw [← Pattern.hasSlot_eq_false_iff] at hplain
      cases hslot : Pattern.hasSlot text with
      | error misuse =>
        rw [hslot] at hreport
        exact .inr ⟨misuse, rfl, hreport⟩
      | ok has =>
        cases has with
        | false => exact absurd hslot hplain
        | true =>
          rw [hslot] at hreport
          exact .inl ⟨rfl, hreport⟩

end

/-- The suggestion to look at the item. -/
def lookAtItem : Wording :=
  [.char '?', .field ⟨['i', 't', 'e', 'm', '_', 'i', 'd', 'e', 'n', 't', 'i', 'f', 'i', 'e', 'r'],
    by decide, by simp, Pattern.number?_cons (by decide +kernel) _⟩]

/-- The suggestion is left out for an item whose name reads as a field, and a single brace in the
name keeps the failure from being reported. -/
theorem braced_item_unreported :
    let worded : WordedForm := { code := "NO_TITLE", category := .context,
                                 message := some [], suggestion := some lookAtItem }
    let reporter : Reporter := ⟨.extended [worded], default⟩
    lookAtItem.filled? (failureValues .null (.text "{draft}") [] "") = some "?{draft}" ∧
      (reporter.reportFailure "NO_TITLE" [] "" .null (.text "{draft}")).map (·.suggestion)
        = .ok none ∧
      lookAtItem.filled? (failureValues .null (.text "\x7d") [] "") = some "?\x7d" ∧
      (reporter.reportFailure "NO_TITLE" [] "" .null (.text "\x7d")).map (·.suggestion)
        = .error .badForm :=
  ⟨rfl, rfl, rfl, rfl⟩

end Reporter

end Inlay

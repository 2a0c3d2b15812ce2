import Inlay.Proofs.Basic
import Inlay.Render.Breadcrumb

/-!
# The texts of registered messages

What a report carries of what it is given, and what the forms that every registry starts with make
of their values.
-/

namespace Inlay

/-! ## Breadcrumbs that are texts -/

/-- Texts are written on a trail as they are. -/
theorem Value.texts_map_text (texts : List String) : Value.texts (texts.map .text) = .ok texts := by
  have hmapM : (texts.map Value.text).mapM Value.text? = some texts := by
    induction texts with
    | nil => rfl
    | cons text rest ih =>
      rw [List.map_cons, List.mapM_cons, ih]
      rfl
  rw [Value.texts, hmapM]

/-- In a report they stand on lines of their own, with commas between them. -/
theorem Fault.lines_map_text (messages : List String) :
    Fault.lines (messages.map .text) = .ok (",\n".intercalate messages) := by
  rw [Fault.lines, Value.texts_map_text]
  rfl

/-- A pattern with one field of one value is filled with the text of the value, if it has one. What
filling it comes to is given by `hfill`, which holds by evaluation for a pattern that is known. -/
theorem Reporter.interpolate_shown {values : Entries} {pattern : String} {value : Value}
    (front back : String)
    (hfill : Pattern.fill values pattern
      = ((Pattern.orMisuse value.shown >>= fun text => .ok text.toList) >>= fun filled =>
          .ok (front.toList ++ filled ++ back.toList)) >>=
        fun filled => .ok (String.ofList filled)) :
    interpolate values pattern = value.shown.map fun text => front ++ text ++ back := by
  rw [interpolate, hfill]
  cases value.shown with
  | error misuse => rfl
  | ok text =>
    show Except.ok (String.ofList (front.toList ++ text.toList ++ back.toList)) = _
    simp only [String.ofList_append, String.ofList_toList]
    rfl

namespace Reporter

variable {reporter : Reporter} {code : String} {values : Entries} {fault : Fault}

/-! ## What a report carries -/

/-- A fault has the code that it was reported under, and the detail that it was reported with. Where
no detail is given, it has the one of its form. -/
theorem exists_detail_of_stop (h : reporter.stop code values = .fault fault) :
    fault.code = code ∧ ∃ detail, fault.detail = (values.field? "detail").getD detail := by
  unfold stop at h
  split at h
  · next reported hreport =>
    cases h
    unfold report at hreport
    split at hreport
    · cases hreport
    · next form hform =>
      obtain ⟨_, -, hreport⟩ := Except.bind_eq_ok.1 hreport
      obtain ⟨_, -, hreport⟩ := Except.bind_eq_ok.1 hreport
      obtain ⟨_, -, hreport⟩ := Except.bind_eq_ok.1 hreport
      obtain ⟨_, -, hreport⟩ := Except.bind_eq_ok.1 hreport
      cases hreport
      have hcode := List.find?_some hform
      exact ⟨by simpa using hcode, _, rfl⟩
  · cases h

/-- A fault has the code that it is reported under. -/
theorem code_of_stop (h : reporter.stop code values = .fault fault) : fault.code = code :=
  (exists_detail_of_stop h).1

/-- It has the detail that it was given, whatever detail its form has. -/
theorem detail_of_stop {detail : Value} (hdetail : values.field? "detail" = some detail)
    (h : reporter.stop code values = .fault fault) : fault.detail = detail := by
  obtain ⟨-, other, hother⟩ := exists_detail_of_stop h
  rw [hother, hdetail, Option.getD_some]

/-- The fault of a form whose texts can all be filled. -/
theorem report_of_form {form : FaultForm} {message detail suggestion : Option String}
    {trail : List Value} (hform : reporter.registry.find? code = some form)
    (hmessage : interpolate? values form.message = .ok message)
    (hdetail : interpolate? values form.detail = .ok detail)
    (hsuggestion : interpolate? values form.suggestion = .ok suggestion)
    (htrail : trailOf values = .ok trail) (cause : Option Fault := none) :
    reporter.report code values cause = .ok {
      code := form.code
      category := form.category
      message := message.getD ("Error " ++ code)
      detail := (values.field? "detail").getD (.ofText? detail)
      suggestion
      origin := (values.field? "template_origin").getD .null
      item := (values.field? "item_identifier").getD .null
      trail, cause
      reported := reporter.now } := by
  unfold report
  rw [hform]
  dsimp only
  rw [hmessage, hdetail, hsuggestion, htrail]
  rfl

/-- What keeps the message of a form from being filled keeps its fault from being made. -/
theorem report_of_untold {form : FaultForm} {misuse : Misuse}
    (hform : reporter.registry.find? code = some form)
    (hmessage : interpolate? values form.message = .error misuse) (cause : Option Fault := none) :
    reporter.report code values cause = .error misuse := by
  unfold report
  rw [hform]
  dsimp only
  rw [hmessage]
  rfl

/-- The failure of a form whose texts can all be filled has its message. -/
theorem failure_of_form {form : FaultForm} {message detail suggestion : Option String}
    {trail : List Value} (hform : reporter.registry.find? code = some form)
    (hmessage : interpolate? values form.message = .ok message)
    (hdetail : interpolate? values form.detail = .ok detail)
    (hsuggestion : interpolate? values form.suggestion = .ok suggestion)
    (htrail : trailOf values = .ok trail) :
    reporter.failure code values = .ok ⟨[.text (message.getD ("Error " ++ code))], code⟩ := by
  rw [failure, Reporter.message, report_of_form hform hmessage hdetail hsuggestion htrail]
  rfl

/-! ## What is registered from the start -/

/-- A field that no provider knows. -/
theorem message_fieldNotFound (h : reporter.registry = .builtin) (key : String) :
    reporter.message Code.fieldNotFound [(.text "key", .text key)]
      = .ok ("Missing field '" ++ key ++ "' in context") := by
  obtain ⟨_, now⟩ := reporter
  subst h
  have hfill : "Missing field '" ++ key ++ "' in context"
      = String.ofList ("Missing field '".toList ++ (key.toList ++ "' in context".toList)) := by
    simp only [String.ofList_append, String.ofList_toList, String.append_assoc]
  rw [hfill]
  rfl

/-- A field of another kind than is needed. -/
theorem mismatch_eq (h : reporter.registry = .builtin) (expected actual : FieldKind)
    (subject : String) :
    reporter.mismatch expected actual subject
      = .ok ⟨[.text ("expected " ++ expected.name ++ " but got " ++ actual.name ++ " for "
          ++ subject)], Code.typeMismatch⟩ := by
  obtain ⟨_, now⟩ := reporter
  subst h
  have hfill : "expected " ++ expected.name ++ " but got " ++ actual.name ++ " for " ++ subject
      = String.ofList ("expected ".toList ++ expected.name.toList ++ (" but got ".toList ++
          actual.name.toList ++ (" for ".toList ++ subject.toList ++ []))) := by
    simp only [String.ofList_append, String.ofList_toList, String.append_assoc, List.append_nil]
  rw [hfill]
  rfl

/-- A template that cannot be loaded. -/
theorem loadFailure_eq (h : reporter.registry = .builtin) (identifier reason : String) :
    reporter.loadFailure identifier reason
      = .ok ⟨[.text ("Failed to load template '" ++ identifier ++ "': " ++ reason)],
          Code.partialLoadFailed⟩ := by
  obtain ⟨_, now⟩ := reporter
  subst h
  have hfill : "Failed to load template '" ++ identifier ++ "': " ++ reason
      = String.ofList ("Failed to load template '".toList ++ identifier.toList ++
          ("': ".toList ++ reason.toList ++ [])) := by
    simp only [String.ofList_append, String.ofList_toList, String.append_assoc, List.append_nil]
  rw [hfill]
  rfl

/-- What is said of templates that are included too deep, whatever the limit is, so that nothing is
worked out of how long an integer may be. -/
theorem failure_includeDepthExceeded (h : reporter.registry = .builtin) (limit : Value) :
    reporter.failure Code.includeDepthExceeded [(.text "max_depth", limit)]
      = limit.shown.map fun text =>
          ⟨[.text ("Partial inclusion nested deeper than " ++ text ++ " levels")],
            Code.includeDepthExceeded⟩ := by
  have hmessage : interpolate? [(.text "max_depth", limit)]
      (some "Partial inclusion nested deeper than {max_depth} levels")
        = limit.shown.map fun text => some ("Partial inclusion nested deeper than " ++ text ++
            " levels") := by
    rw [interpolate?, interpolate_shown "Partial inclusion nested deeper than " " levels" rfl]
    cases limit.shown <;> rfl
  have hform := congrArg (Registry.find? · Code.includeDepthExceeded) h
  cases hshown : limit.shown with
  | error misuse =>
    rw [hshown] at hmessage
    rw [failure, message, report_of_untold (hform.trans rfl) hmessage]
    rfl
  | ok text =>
    rw [hshown] at hmessage
    exact failure_of_form (hform.trans rfl) hmessage rfl rfl rfl

/-- Templates that are included too deep, under a limit that can be written. -/
theorem depthFailure_eq (h : reporter.registry = .builtin) {limit : Int}
    (hlimit : (Value.int limit).hasText = true) :
    reporter.depthFailure limit
      = .ok ⟨[.text ("Partial inclusion nested deeper than " ++ (Value.int limit).asText
          ++ " levels")], Code.includeDepthExceeded⟩ := by
  rw [depthFailure, failure_includeDepthExceeded h, Value.shown_of_hasText hlimit]
  rfl

/-- A limit that has more digits than an integer is written with keeps this from being said. -/
theorem depthFailure_untold (h : reporter.registry = .builtin) {limit : Int}
    (hlimit : (Value.int limit).hasText = false) :
    reporter.depthFailure limit = .error .badForm := by
  rw [depthFailure, failure_includeDepthExceeded h, Value.shown_of_not_hasText hlimit]
  rfl

/-- That a template is not there can be reported. -/
theorem exists_templateNotFound (h : reporter.registry = .builtin) (identifier : String) :
    ∃ fault, reporter.stop Code.templateNotFound [(.text "identifier", .text identifier)]
      = .fault fault := by
  obtain ⟨_, now⟩ := reporter
  subst h
  exact ⟨_, rfl⟩

/-- That a source is malformed can be reported, whatever it is called and whatever is wrong. -/
theorem exists_templateParseError (h : reporter.registry = .builtin) (origin detail : String) :
    ∃ fault, reporter.stop Code.templateParseError
        [(.text "origin", .text origin), (.text "detail", .text detail)] = .fault fault ∧
      fault.code = Code.templateParseError ∧ fault.detail = .text detail := by
  have hreported : ∃ fault, reporter.stop Code.templateParseError
      [(.text "origin", .text origin), (.text "detail", .text detail)] = .fault fault := by
    obtain ⟨_, now⟩ := reporter
    subst h
    exact ⟨_, rfl⟩
  obtain ⟨fault, hfault⟩ := hreported
  exact ⟨fault, hfault, code_of_stop hfault, detail_of_stop rfl hfault⟩

/-- That something is none of the language can be reported, whatever it is, and no breadcrumbs lead
to it. -/
theorem exists_internalError (h : reporter.registry = .builtin) (detail : String) :
    ∃ fault, reporter.stop Code.internalError [(.text "detail", .text detail)] = .fault fault ∧
      fault.trail = [] := by
  obtain ⟨_, now⟩ := reporter
  subst h
  exact ⟨_, rfl, rfl⟩

/-- That a template is not trimmed can be reported, if its origin can be written. -/
theorem exists_trimInvariantViolation (h : reporter.registry = .builtin) {origin : Value}
    (horigin : origin.hasText = true) :
    ∃ fault, reporter.stop Code.trimInvariantViolation [(.text "origin", origin)] = .fault fault ∧
      fault.trail = [] := by
  have hmessage : interpolate? [(.text "origin", origin)]
      (some "Template '{origin}' not fully trimmed")
        = .ok (some ("Template '" ++ origin.asText ++ "' not fully trimmed")) := by
    rw [interpolate?, interpolate_shown "Template '" "' not fully trimmed" rfl,
      Value.shown_of_hasText horigin]
    rfl
  have hform := congrArg (Registry.find? · Code.trimInvariantViolation) h
  rw [stop, report_of_form (hform.trans rfl) hmessage rfl rfl rfl]
  exact ⟨_, rfl, rfl⟩

/-- That a configuration is invalid can be reported, whatever is wrong with it. -/
theorem exists_configInvalid (h : reporter.registry = .builtin) (detail : String) :
    ∃ fault, reporter.stop Code.configInvalid [(.text "detail", .text detail)] = .fault fault ∧
      fault.code = Code.configInvalid := by
  obtain ⟨_, now⟩ := reporter
  subst h
  exact ⟨_, rfl, rfl⟩

end Reporter

end Inlay

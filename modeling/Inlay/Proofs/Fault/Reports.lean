import Mathlib.Data.List.TakeWhile
import Inlay.Proofs.Fault.Messages

/-!
# Reports of failed renders

A render that fails is reported under the code of the failure, if a form is registered for it. The
values of such a report fill no registered pattern: the first field of a pattern, if it has one, is
none of theirs, so the pattern stands as it is, whatever the messages and the names of the template
and the item hold (`interpolate?_failureValues`). What is left to be filled in a suggestion is then
known from the form alone, and a suggestion that is kept has nothing left
(`reportFailure_reports`).
-/

namespace Inlay

/-! ## Patterns that stand as they are -/

namespace Pattern

/-- No brace stands in the text. -/
def Plain (text : List Char) : Prop := ∀ c ∈ text, (!(c == '{' || c == '}')) = true

/-- A name that asks for a value and for no part of it. -/
def Word (name : List Char) : Prop :=
  name ≠ [] ∧ (∀ c ∈ name, c ∉ ['{', '}', ':', '!', '[', '.']) ∧ number? name = .ok none

/-- What begins with no digit of any script is no number. -/
theorem number?_cons {c : Char} (h : Text.isDigit c = false) (rest : List Char) :
    number? (c :: rest) = .ok none := by
  have hdigits : Text.takeDigits (c :: rest) = ([], c :: rest) := by
    rw [Text.takeDigits, List.takeWhile_cons_of_neg (Bool.eq_false_iff.1 h),
      List.dropWhile_cons_of_neg (Bool.eq_false_iff.1 h)]
    rfl
  rw [number?, Layout.scanNat, hdigits]
  rfl

/-- Is the pattern without braces, or else its first field one of the names? -/
def opensWith (names : List (List Char)) (pattern : List Char) : Bool :=
  match pattern.dropWhile fun c => !(c == '{' || c == '}') with
  | [] => true
  | '{' :: rest => names.any fun name => (name ++ ['}']).isPrefixOf rest
  | _ => false

/-- A pattern of this kind is a plain text, or it begins with a field of one of the names. -/
theorem opensWith_cases {names : List (List Char)} {pattern : List Char}
    (h : opensWith names pattern = true) :
    Plain pattern ∨ ∃ text, ∃ name ∈ names, ∃ rest, Plain text ∧
      pattern = text ++ '{' :: (name ++ '}' :: rest) := by
  have hsplit := List.takeWhile_append_dropWhile (p := fun c => !(c == '{' || c == '}'))
    (l := pattern)
  have htext : Plain (pattern.takeWhile fun c => !(c == '{' || c == '}')) :=
    List.all_eq_true.1 List.all_takeWhile
  unfold opensWith at h
  split at h
  · next hdrop =>
    rw [hdrop, List.append_nil] at hsplit
    rw [hsplit] at htext
    exact .inl htext
  · next rest hdrop =>
    obtain ⟨name, hname, hstart⟩ := List.any_eq_true.1 h
    obtain ⟨after, hafter⟩ := List.isPrefixOf_iff_prefix.1 hstart
    refine .inr ⟨_, name, hname, after, htext, ?_⟩
    rw [hdrop, ← hafter] at hsplit
    simpa using hsplit.symm
  · cases h

/-- A plain text is one part. -/
theorem next_plain {text : List Char} (h : Plain text) : next text = .ok (text, none, []) := by
  have htake : text.takeWhile (fun c => !(c == '{' || c == '}')) = text :=
    List.takeWhile_eq_self_iff.2 h
  have hdrop : text.dropWhile (fun c => !(c == '{' || c == '}')) = [] :=
    List.dropWhile_eq_nil_iff.2 h
  unfold next
  dsimp only
  rw [htake, hdrop]

/-- A name is read up to the brace behind it. -/
theorem scanName_word {name : List Char} (h : ∀ c ∈ name, c ∉ ['{', '}', ':', '!', '[', '.'])
    (rest : List Char) : scanName false (name ++ '}' :: rest) = .ok (name, '}', rest) := by
  induction name with
  | nil => rfl
  | cons c name ih =>
    have hc := h c List.mem_cons_self
    simp only [List.mem_cons, List.not_mem_nil, or_false, not_or] at hc
    obtain ⟨hopen, hclose, hcolon, hmark, hbracket, -⟩ := hc
    have hinside : (c == '[') = false := beq_false_of_ne hbracket
    rw [List.cons_append, scanName, if_neg Bool.false_ne_true, if_neg hopen,
      if_neg (by simp [hclose, hcolon, hmark]), hinside,
      ih fun d hd => h d (List.mem_cons_of_mem c hd)]
    rfl

/-- A text and the field behind it are one part. -/
theorem next_slot {text name : List Char} (htext : Plain text) (hname : Word name)
    (rest : List Char) :
    next (text ++ '{' :: (name ++ '}' :: rest))
      = .ok (text, some ⟨name, none, [], false⟩, rest) := by
  have hbrace : ∀ c ∈ ('{' :: (name ++ '}' :: rest)).head?, (!(c == '{' || c == '}')) = false := by
    simp
  have htake := takeWhile_run htext hbrace
  have hdrop := dropWhile_run htext hbrace
  obtain ⟨hne, hword, -⟩ := hname
  have hslot : scanSlot (name ++ '}' :: rest) = .ok (⟨name, none, [], false⟩, rest) := by
    rw [scanSlot, scanName_word hword]
    rfl
  cases name with
  | nil => exact absurd rfl hne
  | cons c name =>
    have hc : c ≠ '{' := fun hc => hword c List.mem_cons_self (by simp [hc])
    unfold next
    dsimp only
    rw [htake, hdrop, List.cons_append]
    split
    · next heq => cases heq
    · next heq => cases heq
    · next heq =>
      cases heq
      exact absurd rfl hc
    · next heq =>
      cases heq
      rw [← List.cons_append, hslot]
      rfl
    · next hother => exact absurd rfl (hother _ _)

/-- A name without a value is missing. -/
theorem partNamed_missing {values : Entries} {name : List Char} (hname : Word name)
    (h : values.field? (String.ofList name) = none) : partNamed values name = .error .missing := by
  obtain ⟨hne, hword, hnumber⟩ := hname
  have hfirst : name.takeWhile (fun c => !beginsStep c) = name := by
    refine List.takeWhile_eq_self_iff.2 fun c hc => ?_
    have hc' := hword c hc
    simp only [List.mem_cons, List.not_mem_nil, or_false, not_or] at hc'
    simp [beginsStep, hc']
  have hempty : name.isEmpty = false := by simpa using hne
  unfold partNamed
  dsimp only
  rw [hfirst, hnumber, hempty, h]
  rfl

/-- A plain text says itself. -/
theorem fill_plain {text : List Char} (h : Plain text) (values : Entries) :
    fill values (String.ofList text) = .ok (String.ofList text) := by
  have hfill : fillWithin values (fillLayout values) (String.ofList text).length text
      = .ok text := by
    cases text with
    | nil => rfl
    | cons c text =>
      rw [String.length_ofList, List.length_cons, fillWithin, next_plain h]
      · show (fillWithin values (fillLayout values) text.length [] >>= fun after =>
          .ok (c :: text ++ [] ++ after)) = _
        have hrest : fillWithin values (fillLayout values) text.length [] = .ok [] := by
          cases text.length <;> rfl
        rw [hrest, Except.ok_bind, List.append_nil, List.append_nil]
      · nofun
  rw [fill, String.toList_ofList, hfill]
  rfl

/-- A pattern whose first field has no value cannot be filled. -/
theorem fill_missing {values : Entries} {text name : List Char} (htext : Plain text)
    (hname : Word name) (h : values.field? (String.ofList name) = none) (rest : List Char) :
    fill values (String.ofList (text ++ '{' :: (name ++ '}' :: rest))) = .error .missing := by
  have hnext := next_slot htext hname rest
  obtain ⟨c, cs, hcons⟩ := exists_cons_of_append text '{' (name ++ '}' :: rest)
  rw [hcons] at hnext ⊢
  have hslot : fillSlot values (fillLayout values) ⟨name, none, [], false⟩ = .error .missing := by
    rw [fillSlot, partNamed_missing hname h]
    rfl
  have hfill : fillWithin values (fillLayout values) (String.ofList (c :: cs)).length (c :: cs)
      = .error .missing := by
    rw [String.length_ofList, List.length_cons, fillWithin, hnext]
    · show (fillSlot values (fillLayout values) ⟨name, none, [], false⟩ >>= fun filled => do
        let after ← fillWithin values (fillLayout values) cs.length rest
        .ok (text ++ filled ++ after)) = _
      rw [hslot]
      rfl
    · nofun
  rw [fill, String.toList_ofList, hfill]
  rfl

/-- Whether such a pattern has a field can be told from its first part. -/
theorem exists_hasSlot {names : List (List Char)} (hnames : ∀ name ∈ names, Word name)
    {pattern : List Char} (h : opensWith names pattern = true) :
    ∃ has, hasSlot (String.ofList pattern) = .ok has := by
  unfold hasSlot
  rw [String.length_ofList, String.toList_ofList]
  cases pattern with
  | nil => exact ⟨false, rfl⟩
  | cons c cs =>
    rcases opensWith_cases h with hplain | ⟨text, name, hname, rest, htext, hpattern⟩
    · refine ⟨false, ?_⟩
      rw [hasSlotWithin, next_plain hplain]
      · rfl
      · nofun
    · refine ⟨true, ?_⟩
      rw [hasSlotWithin, hpattern, next_slot htext (hnames name hname)]
      · rfl
      · nofun

end Pattern

/-! ## The patterns of the registry -/

namespace Reporter

/-- A pattern whose first field has no value stands as it is. -/
theorem interpolate_opensWith {values : Entries} {names : List (List Char)}
    (hnames : ∀ name ∈ names, Pattern.Word name ∧ values.field? (String.ofList name) = none)
    {pattern : List Char} (h : Pattern.opensWith names pattern = true) :
    interpolate values (String.ofList pattern) = .ok (String.ofList pattern) := by
  unfold interpolate
  rcases Pattern.opensWith_cases h with hplain | ⟨text, name, hname, rest, htext, rfl⟩
  · rw [Pattern.fill_plain hplain]
  · rw [Pattern.fill_missing htext (hnames name hname).1 (hnames name hname).2]

/-- The names of the first fields of registered patterns. -/
def firstFields : List (List Char) := [
  ['o', 'r', 'i', 'g', 'i', 'n'],
  ['e', 'x', 'p', 'e', 'c', 't', 'e', 'd'],
  ['m', 'a', 'x', '_', 'd', 'e', 'p', 't', 'h'],
  ['m', 'e', 's', 's', 'a', 'g', 'e'],
  ['k', 'e', 'y'],
  ['i', 'd', 'e', 'n', 't', 'i', 'f', 'i', 'e', 'r']]

/-- The names that registered patterns begin with are names. -/
theorem word_firstFields : ∀ name ∈ firstFields, Pattern.Word name := by
  simp only [firstFields, List.forall_mem_cons, List.not_mem_nil, IsEmpty.forall_iff,
    implies_true, and_true]
  refine ⟨?_, ?_, ?_, ?_, ?_, ?_⟩ <;>
    exact ⟨by decide, by simp, Pattern.number?_cons (by decide +kernel) _⟩

/-- The pattern opens with a field of one of these names, if it has fields. -/
def Opens (pattern : String) : Prop :=
  ∃ cs, pattern = String.ofList cs ∧ Pattern.opensWith firstFields cs = true

/-- Whether a pattern opens so is told by its characters. -/
theorem Opens.of_chars {cs : List Char} (h : Pattern.opensWith firstFields cs = true) :
    Opens (String.ofList cs) := ⟨cs, rfl, h⟩

/-- All patterns of the built-in registry open so. -/
theorem opens_builtin {form : FaultForm} (hform : form ∈ Registry.builtin.forms) :
    (∀ pattern ∈ form.message, Opens pattern) ∧ (∀ pattern ∈ form.detail, Opens pattern) ∧
      ∀ pattern ∈ form.suggestion, Opens pattern := by
  simp only [Registry.builtin, List.mem_cons, List.not_mem_nil, or_false] at hform
  rcases hform with rfl | rfl | rfl | rfl | rfl | rfl | rfl | rfl | rfl | rfl | rfl <;>
    refine ⟨?_, ?_, ?_⟩ <;> rintro pattern ⟨⟩ <;> exact .of_chars (by decide)

/-- The values that a failed render is reported with. -/
def failureValues (origin item : Value) (trail : List Value) (detail : String) : Entries := [
  (.text "template_origin", origin),
  (.text "item_identifier", item),
  (.text "trail", .list trail),
  (.text "detail", .text detail)]

/-- The report of a failure has no value under any of these names. -/
theorem field?_failureValues (origin item : Value) (trail : List Value) (detail : String) :
    ∀ name ∈ firstFields,
      (failureValues origin item trail detail).field? (String.ofList name) = none := by
  simp only [firstFields, List.forall_mem_cons, List.not_mem_nil, IsEmpty.forall_iff,
    implies_true, and_true]
  exact ⟨rfl, rfl, rfl, rfl, rfl, rfl⟩

/-- A pattern that opens with another name is not filled by these values. -/
theorem interpolate?_failureValues (origin item : Value) (trail : List Value) (detail : String)
    {pattern : Option String} (h : ∀ text ∈ pattern, Opens text) :
    interpolate? (failureValues origin item trail detail) pattern = .ok pattern := by
  cases pattern with
  | none => rfl
  | some text =>
    obtain ⟨cs, rfl, hopens⟩ := h text rfl
    rw [interpolate?, interpolate_opensWith (fun name hname => ⟨word_firstFields name hname,
      field?_failureValues origin item trail detail name hname⟩) hopens]
    rfl

end Reporter

/-! ## The report of a failure -/

/-- The fault reports the messages and the code of a failure, for a template and an item. -/
structure Fault.Reports (fault : Fault) (origin : Value) (item : String) (messages : List String)
    (code : String) : Prop where
  code : fault.code = if (Registry.builtin.find? code).isSome then code else Code.renderFailed
  message : fault.message = Breadcrumb.framing origin (.text item)
  detail : fault.detail = .text (",\n".intercalate messages)
  trail : fault.trail = messages.map .text
  text : fault.text = .ok (Breadcrumb.framing origin (.text item) ++ ":\n"
    ++ ",\n".intercalate messages)
  origin : fault.origin = origin
  item : fault.item = .text item
  suggestion : ∀ suggestion, fault.suggestion = some suggestion →
    Pattern.hasSlot suggestion = .ok false

namespace Reporter

/-- The form that a failure of a code is reported by. -/
theorem exists_form (code : String) :
    ∃ form ∈ Registry.builtin.forms,
      Registry.builtin.find?
        (if (Registry.builtin.find? code).isSome then code else Code.renderFailed) = some form ∧
      form.code = if (Registry.builtin.find? code).isSome then code else Code.renderFailed := by
  have hfound : ∀ code form, Registry.builtin.find? code = some form →
      form ∈ Registry.builtin.forms ∧ form.code = code := by
    intro code form hform
    have hcode := List.find?_some hform
    exact ⟨List.mem_of_find?_eq_some hform, eq_of_beq hcode⟩
  split
  · next hsome =>
    obtain ⟨form, hform⟩ := Option.isSome_iff_exists.1 hsome
    exact ⟨form, (hfound code form hform).1, hform, (hfound code form hform).2⟩
  · exact ⟨_, (hfound Code.renderFailed _ rfl).1, rfl, rfl⟩

section

variable (reporter : Reporter) (form : FaultForm) (origin : Value) (item : String)
  (messages : List String)

/-- The fault that a failure is reported as, with what is left of the suggestion. -/
def failureFault (suggestion : Option String) : Fault where
  code := form.code
  category := form.category
  message := Breadcrumb.framing origin (.text item)
  detail := .text (",\n".intercalate messages)
  suggestion := suggestion
  origin := origin
  item := .text item
  trail := messages.map .text
  cause := none
  reported := reporter.now

/-- The form's own message stands in the fault first. -/
theorem report_failureValues (h : reporter.registry = .builtin)
    (hform : form ∈ Registry.builtin.forms) {code : String}
    (hfind : Registry.builtin.find? code = some form) :
    reporter.report code (failureValues origin (.text item) (messages.map .text)
        (",\n".intercalate messages))
      = .ok { failureFault reporter form origin item messages form.suggestion with
          message := form.message.getD ("Error " ++ code) } := by
  obtain ⟨hmessage, hdetail, hsuggestion⟩ := opens_builtin hform
  unfold report
  rw [h, hfind]
  dsimp only
  rw [interpolate?_failureValues _ _ _ _ hmessage, interpolate?_failureValues _ _ _ _ hdetail,
    interpolate?_failureValues _ _ _ _ hsuggestion]
  rfl

/-- The fault made for a failure reports it, if its suggestion is free of fields. -/
theorem failureFault_reports {code : String} (hmessages : messages ≠ [])
    (hcode : form.code
      = if (Registry.builtin.find? code).isSome then code else Code.renderFailed)
    {suggestion : Option String}
    (hslot : ∀ text, suggestion = some text → Pattern.hasSlot text = .ok false) :
    (failureFault reporter form origin item messages suggestion).Reports origin item messages
      code where
  code := hcode
  message := rfl
  detail := rfl
  trail := rfl
  text := by
    have htrail : (messages.map Value.text).isEmpty = false := by simpa using hmessages
    rw [Fault.text, failureFault, htrail, Fault.lines_map_text]
    rfl
  origin := rfl
  item := rfl
  suggestion := hslot

end

/-- A failure is reported as it is, for the template and the item that are named. -/
theorem reportFailure_reports {reporter : Reporter} (h : reporter.registry = .builtin)
    (origin : Value) (item : String) {messages : List String} (hmessages : messages ≠ [])
    (code : String) :
    ∃ fault, reporter.reportFailure code (messages.map .text)
        (Breadcrumb.framing origin (.text item)) origin (.text item) = .ok fault ∧
      fault.Reports origin item messages code := by
  obtain ⟨form, hform, hfind, hcode⟩ := exists_form code
  have hreports : ∀ suggestion : Option String,
      (∀ text, suggestion = some text → Pattern.hasSlot text = .ok false) →
      (failureFault reporter form origin item messages suggestion).Reports origin item messages
        code :=
    fun _ => failureFault_reports reporter form origin item messages hmessages hcode
  unfold reportFailure
  rw [Fault.lines_map_text, Except.ok_bind, h]
  dsimp only
  rw [← failureValues, report_failureValues reporter form origin item messages h hform hfind,
    Except.ok_bind]
  dsimp only [failureFault]
  cases hsuggestion : form.suggestion with
  | none => exact ⟨_, rfl, hreports none nofun⟩
  | some suggestion =>
    obtain ⟨cs, rfl, hopens⟩ := (opens_builtin hform).2.2 suggestion hsuggestion
    obtain ⟨has, hhas⟩ := Pattern.exists_hasSlot word_firstFields hopens
    dsimp only
    rw [hhas, Except.ok_bind]
    split
    · exact ⟨_, rfl, hreports none nofun⟩
    · next hkept =>
      refine ⟨_, rfl, hreports (some (String.ofList cs)) fun text htext => ?_⟩
      cases htext
      -- an empty suggestion is kept without a look at its fields
      cases hempty : (String.ofList cs).isEmpty with
      | true =>
        rw [String.isEmpty_iff.1 hempty]
        rfl
      | false =>
        have hnone : has = false := by simpa [hempty] using hkept
        rw [hhas, hnone]

end Reporter

end Inlay

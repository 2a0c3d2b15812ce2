import Inlay.Proofs.Context.Lookup
import Inlay.Proofs.Render.Explanation
import Inlay.Proofs.Render.Failing

/-!
# How expressions fail

An expression fails for the cause that its rules name, be it to be a field (`fieldOf_explained`) or
a text (`textAt_explained`), and so do the arguments of a call, which are evaluated in order.
-/

namespace Inlay.Evaluator

open Template
open Render (Explains)

section

variable {settings : Settings} (hregistry : settings.reporter.registry = .builtin)

include hregistry

/-! ## Keys -/

/-- What a question ends in is told by the answer of the context. -/
theorem lookup_eq (frame : Frame) (key : String) (args : List String) (session : Session) :
    lookup settings frame key args session
      = (match (frame.context.lookup key args frame.subject).answer with
          | .ok (.found field) => .value field
          | .ok (.notFound _) => .failed (Cause.missing key).failure
          | .ok (.failed failure) => .failed failure
          | .error reason => .stopped reason, asked frame session key args) := by
  rw [lookup, Render.ask, Context.lookup_chain_missing hregistry, asked]
  generalize frame.context.lookup key args frame.subject = reply
  obtain ⟨calls, answer⟩ := reply
  -- reporting that a key is missing asks nobody
  have hcalls : session.calls ++ (calls ++ []) = session.calls ++ calls := by rw [List.append_nil]
  rcases answer with reason | (field | messages | failure)
  · rfl
  · show (_, { session with calls := session.calls ++ (calls ++ []) }) = _
    rw [hcalls]
  · show (_, { session with calls := session.calls ++ (calls ++ []) }) = _
    rw [hcalls]
    rfl
  · show (_, { session with calls := session.calls ++ (calls ++ []) }) = _
    rw [hcalls]

/-- A lookup fails by what the context has answered, and has asked no more than the key. -/
theorem lookup_explained (frame : Frame) (key : String) (args : List String) :
    Explains (fun session cause after =>
      LookupFails frame key args cause ∧ after = asked frame session key args) Cause.failure
      (lookup settings frame key args) := by
  intro session failure after
  rw [lookup_eq hregistry]
  constructor
  · intro h
    split at h
    · cases h
    · next messages hanswer =>
      cases h
      exact ⟨.missing key, ⟨.missing hanswer, rfl⟩, rfl⟩
    · next hanswer =>
      cases h
      exact ⟨.provider failure, ⟨.provider hanswer, rfl⟩, rfl⟩
    · cases h
  · rintro ⟨_, ⟨hfails, rfl⟩, rfl⟩
    cases hfails with
    | provider hanswer =>
      rw [hanswer]
      rfl
    | missing hanswer => rw [hanswer]

/-! ## Texts -/

/-- A failure for a mismatch is explained by it. -/
theorem mismatch_explained {α : Type} (expected actual : FieldKind) (subject : String) :
    Explains (fun session cause after =>
      cause = .mismatch expected actual subject ∧ after = session) Cause.failure
      (Render.failWith (settings.reporter.mismatch expected actual subject) : Render α) :=
  .failWith (Reporter.mismatch_eq hregistry expected actual subject)

/-- A field that is no text is a mismatch. -/
theorem textOf_explained (subject : String) (field : Field) :
    Explains (fun session cause after => field.kind ≠ .string ∧
      cause = .mismatch .string field.kind subject ∧ after = session) Cause.failure
      (textOf settings subject field) := by
  cases field with
  | text text =>
    refine .of_neverFails (.pure text) ?_
    rintro session cause after ⟨hkind, -⟩
    exact hkind rfl
  | present | items | values =>
    refine (mismatch_explained hregistry .string _ subject).congr fun session cause after => ?_
    exact (and_iff_right (by simp [Field.kind])).symm

/-- What is explained about a field is explained about its text. -/
theorem textAt_explained (frame : Frame) {expr : Expr}
    (hfield : Explains (FieldFails settings frame expr) Cause.failure (fieldOf settings frame expr))
    (subject : String) :
    Explains (TextFails settings frame expr subject) Cause.failure
      (textAt settings frame subject expr) := by
  refine (hfield.bind fun field => textOf_explained hregistry subject field).congr ?_
  intro session cause after
  constructor
  · rintro (hfails | ⟨field, between, hvalue, hkind, rfl, rfl⟩)
    · exact .field hfails
    · exact .mismatch hvalue hkind
  · intro hfails
    cases hfails with
    | field hfails => exact .inl hfails
    | mismatch hvalue hkind => exact .inr ⟨_, _, hvalue, hkind, rfl, rfl⟩

/-! ## Expressions -/

omit hregistry in
/-- An argument is evaluated to its text, and then the others are. -/
theorem arguments_cons (frame : Frame) (arg : Expr) (rest : List Expr) :
    arguments settings frame (arg :: rest)
      = textAt settings frame (Breadcrumb.argumentSubject arg) arg >>= fun text =>
        arguments settings frame rest >>= fun texts => pure (text :: texts) := by
  rw [textAt, Render.bind_assoc, arguments]

mutual

/-- An expression fails to be a field for the cause that its rules name. -/
theorem fieldOf_explained (frame : Frame) : (expr : Expr) →
    Explains (FieldFails settings frame expr) Cause.failure (fieldOf settings frame expr)
  | .ident key => by
    rw [fieldOf]
    refine (lookup_explained hregistry frame key []).congr fun session cause after => ?_
    constructor
    · rintro ⟨hlookup, rfl⟩
      exact .ident hlookup
    · intro hfails
      cases hfails with
      | ident hlookup => exact ⟨hlookup, rfl⟩
  | .call key args => by
    -- the arguments come first, and the lookup is reached only with all of their texts
    have harguments := arguments_explained frame args
    rw [fieldOf]
    refine (harguments.bind fun texts => lookup_explained hregistry frame key texts).congr ?_
    intro session cause after
    constructor
    · rintro (hargument | ⟨texts, between, hvalues, hlookup, rfl⟩)
      · exact .argument hargument
      · exact .call hvalues hlookup
    · intro hfails
      cases hfails with
      | argument hargument => exact .inl hargument
      | call hvalues hlookup => exact .inr ⟨_, _, hvalues, hlookup, rfl⟩
  | .literal text => by
    rw [fieldOf]
    exact .of_neverFails (.pure _) fun _ _ _ hfails => nomatch hfails
  | .foreign kind => by
    rw [fieldOf]
    exact .of_neverFails (.stop _) fun _ _ _ hfails => nomatch hfails

/-- Arguments fail where the first of them that has no text does. -/
theorem arguments_explained (frame : Frame) : (args : List Expr) →
    Explains (ArgumentFails settings frame args) Cause.failure (arguments settings frame args)
  | [] => by
    rw [arguments]
    exact .of_neverFails (.pure _) fun _ _ _ hfails => nomatch hfails
  | arg :: rest => by
    have htext := textAt_explained hregistry frame (fieldOf_explained frame arg)
      (Breadcrumb.argumentSubject arg)
    have hrest := arguments_explained frame rest
    rw [arguments_cons]
    refine (htext.bind fun text => hrest.map (text :: ·)).congr fun session cause after => ?_
    constructor
    · rintro (hfails | ⟨text, between, hfirst, hlater⟩)
      · exact .first hfails
      · exact .later hfirst hlater
    · intro hfails
      cases hfails with
      | first hfails => exact .inl hfails
      | later hfirst hlater => exact .inr ⟨_, _, hfirst, hlater⟩

end

end

end Inlay.Evaluator

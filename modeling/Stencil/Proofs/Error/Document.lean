import Mathlib.Data.List.Nodup
import Mathlib.Data.List.Perm.Basic
import Stencil.Error.Context
import Stencil.Proofs.Json.Members
import Stencil.Proofs.Json.Records
import Stencil.Proofs.Json.Written

/-!
Contexts of errors in JSON. The members that are written for a context mean its fields
(`foldl_members`), and members of different names change different fields (`change_comm`). So an object of
these members is read as the context, in whatever order they come.
-/

namespace Stencil.ErrorContext

open Json (text? optional? variant?)

/-! ### What is written -/

/-- The fields as members, in the order of their declaration. -/
def members (context : ErrorContext) : List (String × Json) :=
  [("code", .string context.code.name), ("severity", .string context.severity.name),
    ("message", .string context.message)]
    ++ (context.cause.map (fun cause => ("cause", Json.string cause.name))).toList

/-- The text of a context, its members in the order of the fields. -/
def render (context : ErrorContext) : String :=
  (Json.object context.members).render

theorem members_once (context : ErrorContext) : (context.members.map Prod.fst).Nodup := by
  unfold members
  cases context.cause <;> simp

theorem spells_members (context : ErrorContext) :
    ∀ member ∈ context.members, Json.Spells member.2 member.2.write := by
  have text := Json.spells_string
  unfold members
  cases context.cause <;> simp [text]

/-! ### What the fields mean -/

def meaning : Json.Record.Meaning Draft := fun name value =>
  match name with
  | "code" =>
      (variant? ErrorCode.variants value).map fun code draft => { draft with code := some code }
  | "severity" =>
      (variant? Severity.variants value).map fun severity draft =>
        { draft with severity := some severity }
  | "message" => (text? value).map fun message draft => { draft with message := some message }
  | "cause" =>
      (optional? (variant? ErrorCode.variants) value).map fun cause draft =>
        { draft with cause := cause }
  | _ => none

theorem slot_takes {α : Type} {read : Json.Reader α} {means : Json → Option α}
    (takes : read.Takes means) (name : String) (put : α → Draft → Draft) :
    (slot name read put).read.Takes fun value => (means value).map put := by
  refine Json.Reader.takes_map takes ?_
  intro input
  rfl

theorem record_takes : record.Takes meaning := by
  intro name value put means
  have codes := Json.Reader.choice_takes ErrorCode.variants
  unfold meaning at means
  split at means
  · exact ⟨_, rfl, slot_takes codes "code" _ value put means⟩
  · exact ⟨_, rfl, slot_takes (Json.Reader.choice_takes Severity.variants) "severity" _ value put means⟩
  · exact ⟨_, rfl, slot_takes Json.Reader.string_decodes.takes "message" _ value put means⟩
  · exact ⟨_, rfl, slot_takes (Json.Reader.optional_takes codes) "cause" _ value put means⟩
  · cases means

theorem code_means (code : ErrorCode) :
    variant? ErrorCode.variants (.string code.name) = some code := by
  cases code <;> decide

theorem severity_means (severity : Severity) :
    variant? Severity.variants (.string severity.name) = some severity := by
  cases severity <;> decide

theorem members_known (context : ErrorContext) :
    ∀ member ∈ context.members, (meaning member.1 member.2).isSome = true := by
  unfold members
  cases context.cause <;> simp [meaning, code_means, severity_means, text?, optional?]

theorem foldl_members (context : ErrorContext) :
    context.members.foldl (Json.Record.change meaning) {} =
      ⟨some context.code, some context.severity, some context.message, context.cause⟩ := by
  unfold members
  cases context.cause <;>
    simp [Json.Record.change, meaning, code_means, severity_means, text?, optional?]

/-- Members of different names change different fields. -/
theorem change_comm (context : ErrorContext) :
    ∀ first ∈ context.members, ∀ second ∈ context.members, ∀ draft,
      Json.Record.change meaning (Json.Record.change meaning draft first) second =
        Json.Record.change meaning (Json.Record.change meaning draft second) first := by
  unfold members
  cases context.cause <;>
    simp [Json.Record.change, meaning, code_means, severity_means, text?, optional?]

/-! ### Reading what is written -/

section

variable {context : ErrorContext} {held : List (String × Json)} (same : held.Perm context.members)

include same

theorem fits_of_perm : Json.Record.Fits meaning [] held where
  once := (same.map Prod.fst).nodup_iff.mpr context.members_once
  fresh _ _ := List.not_mem_nil
  known member own := context.members_known member (same.subset own)

/-- The members of a context, in whatever order, are read as the context. -/
theorem record_reads : (record.read Draft.finish).Reads (.object held) context := by
  have gathered := same.symm.foldl_eq' context.change_comm {}
  refine Json.Record.read_takes Draft.finish record_takes held context (fits_of_perm same) ?_
  change Draft.finish (held.foldl (Json.Record.change meaning) {}) = .ok context
  rw [← gathered, foldl_members]
  rfl

theorem parse_of_perm {text : List Char} (document : Json.Document (.object held) text) :
    parse text = .ok context :=
  Json.Reader.whole_reads (record_reads same) document

theorem parse_object : parse (Json.object held).render.toList = .ok context := by
  refine parse_of_perm same (Json.document_render _ (Json.spells_object held ?_))
  intro member own
  exact context.spells_members member (same.subset own)

end

theorem parse_render (context : ErrorContext) : parse context.render.toList = .ok context :=
  parse_object (List.Perm.refl _)

theorem parse_toJson (context : ErrorContext) : parse context.toJson.render.toList = .ok context := by
  obtain ⟨held, made, _, same⟩ := Json.ofMembers_perm context.members context.members_once
  rw [show context.toJson = .object held from made]
  exact parse_object same

/-- Every context, whatever its text is and with or without a cause, is read back from the text that is
written for it, with its members in the order of the fields or of their names, and from every other text
with these members in any order. So it is for the context of every error, and contexts with the same text
are the same. -/
theorem json_trip :
    (∀ context : ErrorContext, parse context.render.toList = .ok context ∧
      parse context.toJson.render.toList = .ok context ∧
      ∀ held text, held.Perm context.members → Json.Document (.object held) text →
        parse text = .ok context) ∧
      (∀ error : ViewError, parse error.context.render.toList = .ok error.context ∧
        parse error.context.toJson.render.toList = .ok error.context) ∧
      Function.Injective render ∧
      Function.Injective fun context : ErrorContext => context.toJson.render := by
  refine ⟨?_, fun error => ⟨parse_render _, parse_toJson _⟩, ?_, ?_⟩
  · intro context
    exact ⟨context.parse_render, context.parse_toJson, fun _ _ same => parse_of_perm same⟩
  · intro first second same
    refine Except.ok.inj (first.parse_render.symm.trans ?_)
    rw [same]
    exact second.parse_render
  · intro first second same
    refine Except.ok.inj (first.parse_toJson.symm.trans ?_)
    rw [show first.toJson.render = second.toJson.render from same]
    exact second.parse_toJson

/-- A message with quotes, a line end and a control character, and the members from the last to the
first. -/
theorem json_trip_reversed :
    let context : ErrorContext := ⟨.renderError, .error, "a \"b\"\n\x01", some .ioError⟩
    context.render = "\x7b\"code\":\"render_error\",\"severity\":\"error\"," ++
        "\"message\":\"a \\\"b\\\"\\n\\u0001\",\"cause\":\"io_error\"\x7d" ∧
      parse ("\x7b\"cause\":\"io_error\",\"message\":\"a \\\"b\\\"\\n\\u0001\"," ++
        "\"severity\":\"error\",\"code\":\"render_error\"\x7d").toList = .ok context := by
  intro context
  have same : context.members.reverse.Perm context.members := List.reverse_perm _
  have spelled := Json.spells_object context.members.reverse fun member own =>
    context.spells_members member (same.subset own)
  have read := (json_trip.1 context).2.2 _ _ same (Json.document_render _ spelled)
  refine ⟨by decide +kernel, Eq.trans (congrArg (fun text : String => parse text.toList) ?_) read⟩
  decide +kernel

end Stencil.ErrorContext

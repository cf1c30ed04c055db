import Mathlib.Data.List.Nodup
import Mathlib.Data.List.Perm.Basic
import Stencil.Proofs.Entries
import Stencil.Proofs.Json.Records
import Stencil.Proofs.Json.Written
import Stencil.Settings.Json

/-!
Settings in JSON. Each field has a meaning that is read by its slot (`jsonRecord_decodes`), and putting what
a value means changes the fields that are written to just that value (`put_field`). So an object of the
members that are written for settings is read as these settings, in whatever order they come.
-/

namespace Stencil.Settings

open Json (optional? text? flag? list?)

/-! ### What the fields mean -/

def Slot.meaning : Slot → Json → Option (Settings → Settings)
  | .text put => fun value => (optional? text? value).map put
  | .texts put => fun value => (optional? (list? text?) value).map put
  | .flag put => fun value => (optional? flag? value).map put

def meaning : Json.Record.Meaning Settings := fun name value =>
  (slots.lookup name).bind fun slot => slot.meaning value

theorem jsonRead_decodes {α : Type} {read : Json.Reader α} {means : Json → Option α}
    (decodes : read.Decodes means) (put : Option α → Settings → Settings) :
    (jsonRead read put).Decodes fun value => (optional? means value).map put := by
  refine Json.Reader.decodes_map (Json.Reader.optional_decodes decodes) ?_
  intro input
  unfold jsonRead
  cases Json.Reader.optional read input with
  | ok taken => rfl
  | error fault => rfl

theorem slot_decodes (slot : Slot) : slot.json.Decodes slot.meaning := by
  cases slot with
  | text put => exact jsonRead_decodes Json.Reader.string_decodes put
  | texts put =>
      exact jsonRead_decodes (Json.Reader.list_decodes Json.Reader.string_decodes) put
  | flag put => exact jsonRead_decodes Json.Reader.boolean_decodes put

theorem find?_slots (name : String) (fields : List (String × Slot)) :
    (fields.map fun (name, slot) => (⟨name, slot.json⟩ : Json.Slot Settings)).find?
        (fun slot => slot.name == name) =
      (fields.lookup name).map fun slot => ⟨name, slot.json⟩ := by
  induction fields with
  | nil => rfl
  | cons field rest ih =>
      obtain ⟨key, slot⟩ := field
      rw [List.map_cons, List.find?_cons, Entries.lookup_entry, ih]
      by_cases own : name = key
      · simp [own]
      · rw [if_neg own, beq_eq_false_iff_ne.mpr (Ne.symm own)]

theorem jsonRecord_decodes : jsonRecord.Decodes meaning where
  takes name value put means := by
    obtain ⟨slot, known, own⟩ := Option.bind_eq_some_iff.mp means
    refine ⟨⟨name, slot.json⟩, ?_, (slot_decodes slot).takes value put own⟩
    exact (find?_slots name slots).trans (congrArg (Option.map _) known)
  refuses name value field means found := by
    rw [show jsonRecord.slots.find? (fun slot => slot.name == name) = _ from
      find?_slots name slots] at found
    obtain ⟨slot, known, rfl⟩ := Option.map_eq_some_iff.mp found
    refine (slot_decodes slot).refuses value ?_
    unfold meaning at means
    rw [known] at means
    exact means

/-! ### What the fields are written as -/

theorem jsonField_writes {α : Type} {means : Json → Option α} {write : α → Json}
    (writes : Json.Writes means write) (given : ∀ result, write result ≠ .null) :
    Json.Writes (optional? means) (jsonField write) := by
  intro value result
  by_cases absent : value = .null
  · subst absent
    cases result with
    | none => exact iff_of_true rfl rfl
    | some result => exact iff_of_false nofun (given result).symm
  · rw [Json.Reader.optional?_eq means value absent]
    cases result with
    | none => exact iff_of_false (by simp) absent
    | some result => simpa [jsonField] using writes value result

theorem jsonField_inj {α : Type} {means : Json → Option α} {write : α → Json}
    (writes : Json.Writes means write) (given : ∀ result, write result ≠ .null)
    (first second : Option α) (same : jsonField write first = jsonField write second) :
    first = second := by
  have own := (jsonField_writes writes given _ first).mpr rfl
  have other := (jsonField_writes writes given _ second).mpr same
  exact Option.some.inj (own.symm.trans other)

theorem text_writes : Json.Writes (optional? text?) (jsonField .string) :=
  jsonField_writes Json.text?_writes fun _ => nofun

theorem texts_writes : Json.Writes (optional? (list? text?))
    (jsonField fun texts => .array (texts.map .string)) :=
  jsonField_writes (Json.list?_writes Json.text?_writes) fun _ => nofun

theorem flag_writes : Json.Writes (optional? flag?) (jsonField .bool) :=
  jsonField_writes Json.flag?_writes fun _ => nofun

theorem meaning_written {α : Type} {means : Json → Option α} {write : α → Json}
    (writes : Json.Writes means write) (put : α → Settings → Settings) (value : α) :
    ((means (write value)).map put).isSome = true := by
  rw [(writes _ value).mpr rfl]
  rfl

/-- Every field that is written has a meaning. -/
theorem meaning_toJson (settings : Settings) :
    ∀ field ∈ settings.toJson, (meaning field.1 field.2).isSome = true := by
  have text := meaning_written text_writes
  have texts := meaning_written texts_writes
  have flag := meaning_written flag_writes
  unfold toJson
  simp only [List.forall_mem_cons]
  exact ⟨text _ _, texts _ _, text _ _, text _ _, text _ _, text _ _, text _ _, flag _ _,
    List.forall_mem_nil _⟩

theorem eq_of_toJson (first second : Settings) (engine : first.engine = second.engine)
    (same : first.toJson = second.toJson) : first = second := by
  have text := jsonField_inj Json.text?_writes fun _ => nofun
  have texts := jsonField_inj (Json.list?_writes Json.text?_writes) fun _ => nofun
  have flag := jsonField_inj Json.flag?_writes fun _ => nofun
  simp only [toJson, List.cons.injEq, Prod.mk.injEq, true_and, and_true] at same
  obtain ⟨engineName, scripts, renderObject, renderFunction, charset, contentType, loaderPath,
    shared⟩ := same
  cases first
  cases second
  simp only [Settings.mk.injEq]
  exact ⟨engine, text _ _ engineName, texts _ _ scripts, text _ _ renderObject,
    text _ _ renderFunction, text _ _ charset, text _ _ contentType, text _ _ loaderPath,
    flag _ _ shared⟩

/-! ### What a member changes -/

/-- Whatever is put is the field of the name, and nothing else. -/
def Puts (name : String) (means : Json → Option (Settings → Settings)) : Prop :=
  ∀ value put settings, means value = some put →
    (put settings).engine = settings.engine ∧
      (put settings).toJson =
        settings.toJson.map fun field => if field.1 = name then (name, value) else field

theorem puts_written {α : Type} {means : Json → Option α} {write : α → Json}
    (writes : Json.Writes means write) (name : String) (put : α → Settings → Settings)
    (puts : ∀ value settings, (put value settings).engine = settings.engine ∧
      (put value settings).toJson =
        settings.toJson.map fun field => if field.1 = name then (name, write value) else field) :
    Puts name fun value => (means value).map put := by
  intro value change settings own
  obtain ⟨result, given, rfl⟩ := Option.map_eq_some_iff.mp own
  rw [(writes value result).mp given]
  exact puts result settings

theorem slots_put : ∀ field ∈ slots, Puts field.1 field.2.meaning := by
  unfold slots
  simp only [List.forall_mem_cons]
  refine ⟨puts_written text_writes _ _ ?_, puts_written texts_writes _ _ ?_,
    puts_written text_writes _ _ ?_, puts_written text_writes _ _ ?_,
    puts_written text_writes _ _ ?_, puts_written text_writes _ _ ?_,
    puts_written text_writes _ _ ?_, puts_written flag_writes _ _ ?_, List.forall_mem_nil _⟩ <;>
    exact fun value settings => ⟨rfl, by simp [toJson]⟩

theorem toJson_names (settings : Settings) :
    settings.toJson.map Prod.fst = slots.map Prod.fst := rfl

theorem toJson_once (settings : Settings) : (settings.toJson.map Prod.fst).Nodup := by
  rw [toJson_names]
  decide +kernel

/-- A value that means something becomes the field of its name; the other fields and the engine stay. -/
theorem put_field (name : String) (value : Json) (put : Settings → Settings)
    (means : meaning name value = some put) (settings : Settings) :
    (put settings).engine = settings.engine ∧
      ∀ other, (put settings).toJson.lookup other =
        if other = name then some value else settings.toJson.lookup other := by
  obtain ⟨slot, known, own⟩ := Option.bind_eq_some_iff.mp means
  have member := Entries.mem_of_lookup name slot slots known
  obtain ⟨engine, fields⟩ := slots_put _ member value put settings own
  have there : (settings.toJson.lookup name).isSome = true := by
    rw [← Entries.mem_names_iff, toJson_names]
    exact List.mem_map.mpr ⟨_, member, rfl⟩
  obtain ⟨held, found⟩ := Option.isSome_iff_exists.mp there
  refine ⟨engine, ?_⟩
  intro other
  rw [fields, Entries.lookup_replace, found]
  rfl

/-- Members of different names each become the field of their name, in whatever order they come. -/
theorem foldl_change (members : List (String × Json)) (settings : Settings)
    (once : (members.map Prod.fst).Nodup)
    (known : ∀ member ∈ members, (meaning member.1 member.2).isSome = true) :
    (members.foldl (Json.Record.change meaning) settings).engine = settings.engine ∧
      ∀ name, (members.foldl (Json.Record.change meaning) settings).toJson.lookup name =
        (members.lookup name).or (settings.toJson.lookup name) := by
  induction members generalizing settings with
  | nil => exact ⟨rfl, fun name => rfl⟩
  | cons member members ih =>
      obtain ⟨key, value⟩ := member
      obtain ⟨absent, later⟩ := List.nodup_cons.mp once
      obtain ⟨own, others⟩ := List.forall_mem_cons.mp known
      obtain ⟨put, means⟩ := Option.isSome_iff_exists.mp own
      obtain ⟨engine, fields⟩ := put_field key value put means settings
      obtain ⟨lastEngine, lastFields⟩ := ih (put settings) later others
      rw [List.foldl_cons, Json.Record.change_eq means]
      refine ⟨lastEngine.trans engine, ?_⟩
      intro name
      rw [lastFields, fields, Entries.lookup_entry]
      by_cases same : name = key
      · have missing : members.lookup name = none := by
          rw [same, ← Option.not_isSome_iff_eq_none, ← Entries.mem_names_iff]
          exact absent
        rw [missing, if_pos same, if_pos same]
        rfl
      · rw [if_neg same, if_neg same]

/-! ### Objects that tell settings -/

theorem lookup_unset (settings : Settings) (name : String) :
    ({} : Settings).toJson.lookup name = (settings.toJson.lookup name).map fun _ => .null := by
  have unset : ∀ field ∈ ({} : Settings).toJson, field.2 = .null := by simp [toJson, jsonField]
  have both : (({} : Settings).toJson.lookup name).isSome = (settings.toJson.lookup name).isSome := by
    rw [Bool.eq_iff_iff, ← Entries.mem_names_iff, ← Entries.mem_names_iff]
    rfl
  cases given : settings.toJson.lookup name with
  | none =>
      rw [given] at both
      exact Option.not_isSome_iff_eq_none.mp (Bool.eq_false_iff.mp both)
  | some value =>
      rw [given] at both
      obtain ⟨held, found⟩ := Option.isSome_iff_exists.mp both
      have null : held = .null := unset _ (Entries.mem_of_lookup _ _ _ found)
      rw [found, null]
      rfl

/-- The fields of the settings in any order, without some of those that are unset. -/
def Tells (settings : Settings) (members : List (String × Json)) : Prop :=
  ∃ unset, (unset ++ members).Perm settings.toJson ∧ ∀ field ∈ unset, field.2 = .null

theorem Tells.fits {settings : Settings} {members : List (String × Json)}
    (tells : Tells settings members) : Json.Record.Fits meaning [] members := by
  obtain ⟨unset, fields, _⟩ := tells
  have once := (fields.map Prod.fst).nodup_iff.mpr settings.toJson_once
  rw [List.map_append] at once
  refine ⟨once.of_append_right, fun _ _ => List.not_mem_nil, ?_⟩
  intro member own
  exact meaning_toJson settings member (fields.subset (List.mem_append_right unset own))

theorem Tells.foldl_change {settings : Settings} {members : List (String × Json)}
    (tells : Tells settings members) :
    members.foldl (Json.Record.change meaning) {} = { settings with engine := none } := by
  have fits := tells.fits
  obtain ⟨unset, fields, empty⟩ := tells
  obtain ⟨engine, found⟩ := Settings.foldl_change members {} fits.once fits.known
  refine eq_of_toJson _ _ engine (Entries.eq_of_lookup _ _ rfl (toJson_once _) ?_)
  intro name
  rw [found, lookup_unset settings]
  change _ = settings.toJson.lookup name
  cases own : members.lookup name with
  | some value =>
      have member := fields.subset (List.mem_append_right unset (Entries.mem_of_lookup _ _ _ own))
      exact (Entries.lookup_of_mem _ _ _ settings.toJson_once member).symm
  | none =>
      cases given : settings.toJson.lookup name with
      | none => rfl
      | some value =>
          -- A field that is no member is one of those left out, and so it is unset.
          have member := fields.symm.subset (Entries.mem_of_lookup _ _ _ given)
          rcases List.mem_append.mp member with left | there
          · exact congrArg some (empty _ left).symm
          · have present := (Entries.mem_names_iff name members).mp (List.mem_map.mpr ⟨_, there, rfl⟩)
            rw [own] at present
            cases present

/-- An object that tells settings is read as these settings, without an engine. -/
theorem jsonRecord_reads {settings : Settings} {members : List (String × Json)}
    (tells : Tells settings members) :
    (jsonRecord.read .ok).Reads (.object members) { settings with engine := none } :=
  Json.Record.read_takes .ok jsonRecord_decodes.takes members _ tells.fits
    (congrArg Except.ok tells.foldl_change)

theorem ofJson_of_reads {value : Json} {settings : Settings} {text : String}
    (reads : (jsonRecord.read .ok).Reads value settings)
    (document : Json.Document value text.toList) : ofJson text = .ok settings := by
  unfold ofJson
  dsimp only
  rw [Json.Reader.whole_reads reads document]

theorem ofJson_of_refuses {value : Json} {text : String}
    (refuses : (jsonRecord.read (α := Settings) .ok).Refuses value)
    (document : Json.Document value text.toList) :
    ∃ message, ofJson text = .error (.json message) := by
  obtain ⟨fault, refused⟩ := Json.Reader.whole_refuses refuses document
  refine ⟨fault.describe text.toList, ?_⟩
  unfold ofJson
  dsimp only
  rw [refused]

theorem spells_jsonField {α : Type} {write : α → Json}
    (each : ∀ value, Json.Spells (write value) (write value).write) (value : Option α) :
    Json.Spells (jsonField write value) (jsonField write value).write := by
  cases value with
  | none => exact .null
  | some value => exact each value

theorem spells_toJson (settings : Settings) :
    ∀ field ∈ settings.toJson, Json.Spells field.2 field.2.write := by
  have text := spells_jsonField Json.spells_string
  have texts : ∀ texts : Option (List String), Json.Spells _ _ :=
    spells_jsonField fun texts => Json.spells_array (texts.map .string) (by
      intro item member
      obtain ⟨text, _, rfl⟩ := List.mem_map.mp member
      exact Json.spells_string text)
  have flag : ∀ flag : Option Bool, Json.Spells _ _ :=
    spells_jsonField fun flag => by cases flag; exacts [.no, .yes]
  simp only [toJson, List.forall_mem_cons]
  exact ⟨text _, texts _, text _, text _, text _, text _, text _, flag _, List.forall_mem_nil _⟩

/-- One more member, wherever it stands, does not fit where its name is no field or stands already. -/
theorem not_fits (before after : List (String × Json)) (name : String) (value : Json)
    (extra : name ∉ slots.map Prod.fst ∨ name ∈ (before ++ after).map Prod.fst) :
    ¬ Json.Record.Fits meaning [] (before ++ (name, value) :: after) := by
  intro fits
  rcases extra with unknown | again
  · have known := fits.known (name, value) (List.mem_append_right before List.mem_cons_self)
    rw [Entries.mem_names_iff, Option.not_isSome_iff_eq_none] at unknown
    unfold meaning at known
    rw [unknown] at known
    cases known
  · have once := (List.perm_middle.map Prod.fst).nodup_iff.mp fits.once
    exact (List.nodup_cons.mp once).1 again

/-- Whatever the settings are, with any texts and flags, some of them unset: an object with the fields
that are set, and with `null` for any of those that are not, in any order, is read as exactly these
settings, and there is no engine. That is so for the text that is written for the object and for every
other spelling of it. With one more member, at any place and of any value, whose name is none of the
eight, or one that stands already, it is a fault of the configuration. -/
theorem json_exact (settings : Settings) (members : List (String × Json))
    (tells : Tells settings members) :
    ofJson (Json.object members).render = .ok { settings with engine := none } ∧
      (∀ text : String, Json.Document (.object members) text.toList →
        ofJson text = .ok { settings with engine := none }) ∧
      ∀ before after name value, before ++ after = members →
        name ∉ ["engine_name", "scripts", "render_object", "render_function", "charset",
          "content_type", "resource_loader_path", "shared_engine"] ∨ name ∈ members.map Prod.fst →
        ∀ text : String, Json.Document (.object (before ++ (name, value) :: after)) text.toList →
          ∃ message, ofJson text = .error (.json message) := by
  have reads := jsonRecord_reads tells
  have written : Json.Spells (.object members) (Json.object members).write := by
    obtain ⟨unset, fields, _⟩ := tells
    refine Json.spells_object members ?_
    intro member own
    exact settings.spells_toJson member (fields.subset (List.mem_append_right unset own))
  refine ⟨ofJson_of_reads reads (Json.document_render _ written), ?_, ?_⟩
  · intro text document
    exact ofJson_of_reads reads document
  · intro before after name value whole extra text document
    subst whole
    have unfit := not_fits before after name value extra
    exact ofJson_of_refuses (Json.Record.read_refuses .ok jsonRecord_decodes _ unfit) document

/-- A field that is unset may be `null`, but then it must not be given once more. -/
theorem json_exact_null :
    Tells { scripts := some ["a\"b"], shared := some false }
        [("shared_engine", .bool false), ("charset", .null), ("scripts", .array [.string "a\"b"])] ∧
      ofJson ("\x7b\"shared_engine\":false,\"charset\":null," ++ "\"scripts\":[\"a\\\"b\"]\x7d") =
        .ok { scripts := some ["a\"b"], shared := some false } ∧
      ∃ message, ofJson ("\x7b\"shared_engine\":false,\"charset\":null,\"charset\":\"utf-8\"," ++
        "\"scripts\":[\"a\\\"b\"]\x7d") = .error (.json message) := by
  have tells : Tells { scripts := some ["a\"b"], shared := some false }
      [("shared_engine", .bool false), ("charset", .null),
        ("scripts", .array [.string "a\"b"])] := by
    refine ⟨["engine_name", "render_object", "render_function", "content_type",
      "resource_loader_path"].map fun name => (name, .null), ?_, by simp⟩
    -- The places of the fields among those that are written.
    have places : [0, 2, 3, 5, 6, 7, 4, 1].Perm [0, 1, 2, 3, 4, 5, 6, 7] := by decide
    exact places.map fun place =>
      (toJson { scripts := some ["a\"b"], shared := some false }).getD place ("", .null)
  obtain ⟨written, _, extra⟩ := json_exact _ _ tells
  refine ⟨tells, Eq.trans (congrArg ofJson (by decide +kernel)) written, ?_⟩
  refine extra [("shared_engine", .bool false), ("charset", .null)]
    [("scripts", .array [.string "a\"b"])] "charset" (.string "utf-8") rfl (Or.inr (by decide)) _ ?_
  have spelled : Json.Spells (.object [("shared_engine", .bool false), ("charset", .null),
      ("charset", .string "utf-8"), ("scripts", .array [.string "a\"b"])]) _ :=
    Json.spells_object _ (by
      simp only [List.forall_mem_cons]
      refine ⟨.no, .null, Json.spells_string _, Json.spells_array _ ?_, List.forall_mem_nil _⟩
      exact List.forall_mem_singleton.mpr (Json.spells_string _))
  exact Eq.mp (congrArg (fun text : String => Json.Document _ text.toList) (by decide +kernel))
    (Json.document_render _ spelled)

end Stencil.Settings

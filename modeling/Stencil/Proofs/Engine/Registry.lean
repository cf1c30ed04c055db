import Stencil.Engine.Host
import Stencil.Proofs.Entries
import Stencil.Proofs.Text.Order

/-!
Factories by name. What a name stands for is told by the last factory that was registered under it
(`find?_foldl_register`), and the names are kept in strict order (`Ordered.foldl_register`), which is
that of their characters and that of their octets.
-/

namespace Stencil

namespace Registry

open Entries (lookup_entry)

variable {ε : Type}

/-! ### One name -/

theorem lookup_place (name other : String) (factory : Factory ε)
    (entries : List (String × Factory ε)) :
    (place name factory entries).lookup other =
      if other = name then some factory else entries.lookup other := by
  induction entries with
  | nil =>
      rw [place, lookup_entry]
  | cons entry rest ih =>
      obtain ⟨key, held⟩ := entry
      rw [place]
      by_cases before : name < key
      · rw [if_pos before, lookup_entry]
      by_cases found : name = key
      · rw [if_neg before, if_pos found, lookup_entry, lookup_entry, found]
        by_cases same : other = key
        · rw [if_pos same, if_pos same]
        · rw [if_neg same, if_neg same, if_neg same]
      · rw [if_neg before, if_neg found, lookup_entry, lookup_entry, ih]
        by_cases same : other = key
        · have apart : other ≠ name := by
            rw [same]
            exact Ne.symm found
          rw [if_pos same, if_pos same, if_neg apart]
        · rw [if_neg same, if_neg same]

theorem mem_place (name other : String) (factory : Factory ε)
    (entries : List (String × Factory ε)) :
    other ∈ (place name factory entries).map Prod.fst →
      other = name ∨ other ∈ entries.map Prod.fst := by
  induction entries with
  | nil =>
      intro member
      exact Or.inl (List.mem_singleton.mp member)
  | cons entry rest ih =>
      obtain ⟨key, held⟩ := entry
      rw [place]
      split
      · exact List.mem_cons.mp
      · split
        · next found =>
            intro member
            rcases List.mem_cons.mp member with own | later
            · exact Or.inl own
            · exact Or.inr (List.mem_cons_of_mem _ later)
        · intro member
          rcases List.mem_cons.mp member with first | later
          · exact Or.inr (first ▸ List.mem_cons_self)
          · exact (ih later).imp_right (List.mem_cons_of_mem _)

/-- Names in strict order. -/
def Ordered (entries : List (String × Factory ε)) : Prop :=
  (entries.map Prod.fst).Pairwise (fun first second => first < second)

theorem Ordered.place {entries : List (String × Factory ε)} (ordered : Ordered entries)
    (name : String) (factory : Factory ε) : Ordered (place name factory entries) := by
  induction entries with
  | nil => exact List.pairwise_singleton _ _
  | cons entry rest ih =>
      obtain ⟨key, held⟩ := entry
      obtain ⟨least, later⟩ := List.pairwise_cons.mp ordered
      rw [Registry.place]
      by_cases before : name < key
      · rw [if_pos before]
        refine List.pairwise_cons.mpr ⟨?_, ordered⟩
        intro other member
        rcases List.mem_cons.mp member with own | behind
        · exact own ▸ before
        · exact String.lt_trans before (least other behind)
      by_cases found : name = key
      · rw [if_neg before, if_pos found, found]
        exact ordered
      · rw [if_neg before, if_neg found]
        refine List.pairwise_cons.mpr ⟨?_, ih later⟩
        intro other member
        rcases mem_place name other factory rest member with own | behind
        · rw [own]
          -- The key is not the name and does not stand behind it.
          exact Std.lt_of_le_of_ne (String.not_lt.mp before) (Ne.symm found)
        · exact least other behind

/-! ### One factory -/

theorem lookup_foldl_place (names : List String) (other : String) (factory : Factory ε)
    (entries : List (String × Factory ε)) :
    (names.foldl (fun held name => place name factory held) entries).lookup other =
      if other ∈ names then some factory else entries.lookup other := by
  induction names generalizing entries with
  | nil => simp
  | cons name rest ih =>
      rw [List.foldl_cons, ih, lookup_place]
      by_cases later : other ∈ rest
      · simp [later]
      · by_cases own : other = name <;> simp [later, own]

theorem find?_register (registry : Registry ε) (factory : Factory ε) (name : String) :
    (registry.register factory).find? name =
      if name ∈ factory.names then some factory else registry.find? name :=
  lookup_foldl_place factory.names name factory registry.entries

theorem Ordered.register {registry : Registry ε} (ordered : Ordered registry.entries)
    (factory : Factory ε) : Ordered (registry.register factory).entries := by
  unfold Registry.register
  dsimp only
  generalize registry.entries = entries at ordered
  induction factory.names generalizing entries with
  | nil => exact ordered
  | cons name rest ih => exact ih _ (ordered.place name factory)

/-! ### Factories one after another -/

theorem find?_foldl_register (factories : List (Factory ε)) (registry : Registry ε)
    (name : String) :
    (factories.foldl register registry).find? name =
      (factories.reverse.find? (fun factory => factory.names.contains name)).or
        (registry.find? name) := by
  induction factories generalizing registry with
  | nil => rfl
  | cons factory rest ih =>
      rw [List.foldl_cons, ih, find?_register, List.reverse_cons, List.find?_append,
        Option.or_assoc]
      by_cases own : name ∈ factory.names <;> simp [own]

theorem Ordered.foldl_register {registry : Registry ε} (ordered : Ordered registry.entries)
    (factories : List (Factory ε)) : Ordered (factories.foldl Registry.register registry).entries := by
  induction factories generalizing registry with
  | nil => exact ordered
  | cons factory rest ih => exact ih (ordered.register factory)

theorem mem_names_iff (registry : Registry ε) (name : String) :
    name ∈ registry.names ↔ (registry.find? name).isSome = true :=
  Entries.mem_names_iff name registry.entries

/-- Whatever names and aliases factories have, after they were registered one after another: a name
stands for the last of them that has the name, and for nothing if there is none; an engine that is asked
for by the name is made by that factory; the names are all that the factories have, each once, in
the strict order of their octets. One more factory, whatever is registered, takes its own names and
leaves every other name as it is. -/
theorem last_registered [ScriptEngine ε] (factories : List (Factory ε)) :
    (∀ name, (ofFactories factories).find? name =
      factories.reverse.find? (fun factory => factory.names.contains name)) ∧
    (∀ (host : Host ε) name, host.makeNamed (ofFactories factories) name =
      (factories.reverse.find? (fun factory => factory.names.contains name)).map host.make) ∧
    ((ofFactories factories).names.map Utf8.encodeString).Pairwise
      (fun first second => first < second) ∧
    (∀ name, name ∈ (ofFactories factories).names ↔
      ∃ factory ∈ factories, name ∈ factory.names) ∧
    ∀ (registry : Registry ε) factory name, (registry.register factory).find? name =
      if name ∈ factory.names then some factory else registry.find? name := by
  have last : ∀ name, (ofFactories factories).find? name =
      factories.reverse.find? (fun factory => factory.names.contains name) := by
    intro name
    exact (find?_foldl_register factories {} name).trans (Option.or_none ..)
  refine ⟨last, ?_, ?_, ?_, find?_register⟩
  · intro host name
    unfold Host.makeNamed
    rw [last]
  · have start : Ordered ({} : Registry ε).entries := List.Pairwise.nil
    have ordered : Ordered (ofFactories factories).entries := start.foldl_register factories
    refine List.Pairwise.map Utf8.encodeString ?_ ordered
    intro first second less
    exact Utf8.encode_lt _ _ less
  · intro name
    rw [mem_names_iff, last, List.find?_isSome]
    simp

-- The second takes the alias of the first that is its own name, and loses its own alias to the third.
example :
    let factories : List (Factory Unit) :=
      [⟨0, "deno", ["js", "v8"], fun _ => .ok ()⟩, ⟨1, "v8", ["ts"], fun _ => .ok ()⟩,
        ⟨2, "ts", [], fun _ => .ok ()⟩]
    (ofFactories factories).names = ["deno", "js", "ts", "v8"] ∧
      ["v8", "js", "ts", "lua"].map (fun name => ((ofFactories factories).find? name).map Factory.id) =
        [some 1, some 0, some 2, none] := by
  decide +kernel

end Registry

end Stencil

import KeyedSql.Proofs.Compile.Growth
import KeyedSql.Proofs.Schema.Registration

/-!
# Statements and the order of registrations

What a registry shows and what is compiled over it depend on the components that are found, and on
nothing else of the run of requests that led to it. So the order in which components of distinct
types are registered leaves no trace.
-/

namespace KeyedSql

open StatementFactory

namespace Registry

variable {r s : Registry} {cs ds : List Component}

/-- Two registries cannot be told apart: the same components are found and listed, links lead to the
same types, and every key has the same outcome. -/
structure ShowsSame (r s : Registry) : Prop where
  find?_eq : ∀ type, s.find? type = r.find? type
  types_eq : s.types = r.types
  size_eq : s.size = r.size
  reachable_eq : ∀ root, s.reachable root = r.reachable root
  dispatch_eq : ∀ env : Environment, (∀ c ∈ env.classes, c.ReadsLookups) → ∀ key,
    dispatch defaults (env.over s) key = dispatch defaults (env.over r) key

theorem showsSame_of_find? (h : ∀ type, s.find? type = r.find? type) : r.ShowsSame s where
  find?_eq := h
  types_eq := types_eq_of_find? h
  size_eq := size_eq_of_find? h
  reachable_eq _ := (agreeOn_of_find? h).reachable_eq trivial
  dispatch_eq env hclasses _ := @dispatch_over_of_find? (env.over r) _ s h hclasses

/-- The first component of each type counts, and the order of distinct ones does not. -/
theorem registration_exact (cs : List Component) :
    (∀ type c, (empty.submitAll cs).find? type = some c ↔ c.IsFirstOf type cs) ∧
    (∀ c e, (empty.submitAll cs).register c = .error e ↔
      c.name ∈ cs.map (·.name) ∧ e = .duplicateComponent c.name) ∧
    (∀ c e, (empty.submitAll cs).register c = .error e →
      empty.submitAll (cs ++ [c]) = empty.submitAll cs) ∧
    ((empty.submitAll cs).types.Pairwise fun a b => a.text < b.text) ∧
    (∀ type, type ∈ (empty.submitAll cs).types ↔ type ∈ cs.map (·.name)) ∧
    ((cs.map (·.name)).Nodup → ∀ ds, ds.Perm cs →
      (empty.submitAll cs).ShowsSame (empty.submitAll ds)) ∧
    ∀ text, Component.listOfText text = .ok cs →
      ((∃ r, ofText text = .ok r) ↔ (cs.map (·.name)).Nodup) ∧
        (∀ r, ofText text = .ok r → r = empty.submitAll cs) ∧
        (¬ (cs.map (·.name)).Nodup → ∃ before c after, cs = before ++ c :: after ∧
          (before.map (·.name)).Nodup ∧ c.name ∈ before.map (·.name) ∧
            ofText text = .error (.configuration (.duplicateComponent c.name))) := by
  refine ⟨fun type c => ?_, fun c e => ?_, fun c e he => ?_, pairwise_types _, fun type => ?_,
    fun hnodup ds hperm => ?_, fun text htext => ?_⟩
  · rw [find?_empty_submitAll, Component.find?_eq_some_iff_isFirstOf]
  · rw [register_eq_error_iff, contains_empty_submitAll_iff]
  · rw [submitAll, List.foldl_append]
    exact submit_of_register_eq_error he
  · rw [mem_types_iff_contains, contains_empty_submitAll_iff]
  · exact showsSame_of_find? fun type => find?_submitAll_of_perm hnodup hperm
  · refine ⟨?_, fun r hr => ((ofText_eq_ok_iff htext).1 hr).2, exists_ofText_eq_error htext⟩
    simp only [ofText_eq_ok_iff htext, exists_and_left, exists_eq, and_true]

end Registry

/-! ## Two orders of one run -/

/-- Quays. -/
def Component.quay : Component where
  name := ⟨"a.Quay", by decide⟩
  table := some "QUAY"
  cacheLinks := []
  properties := []

/-- Cranes, which are linked to quays. -/
def Component.crane : Component where
  name := ⟨"a.Crane", by decide⟩
  table := some "CRANE"
  cacheLinks := [Component.quay.name]
  properties := [
    { Property.ofType "id" (.scalar .int64) with
      column := some (.ofName "ID"), identity := some ⟨none, none⟩ }]

/-- A schema text with cranes and quays. -/
def Registry.docksText : String :=
  "[[component]]\nname = \"a.Crane\"\ntable = \"CRANE\"\ncache_links = [\"a.Quay\"]\n" ++
    "[[component.property]]\nname = \"id\"\ntype = \"i64\"\ncolumn = \x7b name = \"ID\" \x7d\n" ++
    "identity = \x7b\x7d\n[[component]]\nname = \"a.Quay\"\ntable = \"QUAY\"\n"

/-- The text lists the cranes first; a registry with the quays first compiles all keys alike. -/
theorem Registry.registration_exact_docks :
    ∃ r, ofText docksText = .ok r ∧
      (∀ key, dispatch defaults (.ofRegistry (empty.submitAll [.quay, .crane])) key =
        dispatch defaults (.ofRegistry r) key) ∧
      (empty.submitAll [.quay, .crane]).reachable Component.crane.name =
        .ok [Component.quay.name] ∧
      (empty.submitAll [.crane, .quay, { Component.crane with table := none }]).find?
        Component.crane.name = some .crane := by
  have htext : Component.listOfText docksText = .ok [.crane, .quay] := by decide +kernel
  have hnodup : ([Component.crane, Component.quay].map (·.name)).Nodup := by decide
  obtain ⟨-, -, -, -, -, hperm, hload⟩ := registration_exact [.crane, .quay]
  obtain ⟨hloads, hrun, -⟩ := hload docksText htext
  obtain ⟨r, hr⟩ := hloads.2 hnodup
  obtain rfl := hrun r hr
  have hsame := hperm hnodup [.quay, .crane] (.swap ..)
  have hbuiltins : ∀ c ∈ GeneratorClass.builtins, c.ReadsLookups := fun c hc =>
    (GeneratorClass.readsOwnComponent_of_mem_builtins hc).readsLookups
  obtain ⟨hfirst, -⟩ := registration_exact [.crane, .quay, { Component.crane with table := none }]
  refine ⟨_, hr, hsame.dispatch_eq (.ofRegistry empty) hbuiltins, ?_, ?_⟩
  · rw [hsame.reachable_eq]
    decide +kernel
  · exact (hfirst _ _).2 ⟨rfl, [], _, rfl, nofun⟩

end KeyedSql

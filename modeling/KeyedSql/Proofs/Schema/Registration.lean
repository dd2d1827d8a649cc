import KeyedSql.Proofs.Schema.Agreement
import KeyedSql.Schema.Form

/-!
# Runs of registrations

Components are registered one after the other. One whose type is already there is refused and leaves
the registry as it is, so that after any run of requests the first component of each type is found.
What is found decides all that a registry shows, its order of components included.

A schema text is such a run in which nothing may be refused.
-/

namespace KeyedSql

open Outcome

/-! ## First components -/

namespace Component

variable {cs : List Component} {c : Component} {type : ComponentType}

/-- The component is the first one of the type in the list. -/
def IsFirstOf (c : Component) (type : ComponentType) (cs : List Component) : Prop :=
  c.name = type ∧ ∃ before after, cs = before ++ c :: after ∧ ∀ d ∈ before, d.name ≠ type

theorem find?_eq_some_iff_isFirstOf :
    cs.find? (·.name == type) = some c ↔ c.IsFirstOf type cs := by
  simp [List.find?_eq_some_iff_append, IsFirstOf]

/-- Where all types are distinct, every component is the first one of its type. -/
theorem isFirstOf_iff_mem (hnodup : (cs.map (·.name)).Nodup) :
    c.IsFirstOf type cs ↔ c ∈ cs ∧ c.name = type := by
  constructor
  · rintro ⟨hname, before, after, rfl, -⟩
    exact ⟨by simp, hname⟩
  · rintro ⟨hmem, rfl⟩
    obtain ⟨before, after, rfl⟩ := List.append_of_mem hmem
    rw [List.map_append, List.nodup_append] at hnodup
    obtain ⟨-, -, hdistinct⟩ := hnodup
    refine ⟨rfl, before, after, rfl, fun d hd => ?_⟩
    exact hdistinct d.name (List.mem_map_of_mem hd) c.name (by simp)

end Component

namespace Registry

variable {r s : Registry} {c : Component} {cs ds : List Component} {type : ComponentType}

/-! ## Requests -/

/-- The registry after a request to register a component, which may be refused. -/
def submit (r : Registry) (c : Component) : Registry :=
  match r.register c with
  | .ok s => s
  | .error _ => r

/-- The registry after a run of requests, each of which may be refused. -/
def submitAll (r : Registry) (cs : List Component) : Registry :=
  cs.foldl submit r

theorem register_eq_error_iff {e : ConfigError} :
    r.register c = .error e ↔ r.contains c.name = true ∧ e = .duplicateComponent c.name := by
  unfold register contains
  split
  · rename_i d hd
    simp [hd, eq_comm]
  · rename_i hnone
    simp [hnone]

theorem submit_of_register_eq_ok (h : r.register c = .ok s) : r.submit c = s := by
  rw [submit, h]

theorem submit_of_register_eq_error {e : ConfigError} (h : r.register c = .error e) :
    r.submit c = r := by
  rw [submit, h]

/-- A request adds its component to what is found, unless one of its type is found already. -/
theorem find?_submit : (r.submit c).find? type =
    (r.find? type).or (if c.name = type then some c else none) := by
  cases h : r.register c with
  | ok s => rw [submit_of_register_eq_ok h, find?_of_register h]
  | error e =>
    rw [submit_of_register_eq_error h]
    obtain ⟨hcontains, -⟩ := register_eq_error_iff.1 h
    obtain ⟨d, hd⟩ := Option.isSome_iff_exists.1 hcontains
    by_cases htype : c.name = type
    · rw [← htype, hd, Option.some_or]
    · rw [if_neg htype, Option.or_none]

theorem find?_submitAll :
    (r.submitAll cs).find? type = (r.find? type).or (cs.find? (·.name == type)) := by
  induction cs generalizing r with
  | nil => exact Option.or_none.symm
  | cons c cs ih =>
    rw [submitAll, List.foldl_cons, ← submitAll, ih, find?_submit, Option.or_assoc, List.find?_cons]
    by_cases htype : c.name = type
    · simp [htype]
    · rw [if_neg htype, Option.none_or, beq_eq_false_iff_ne.2 htype]

theorem find?_empty_submitAll :
    (empty.submitAll cs).find? type = cs.find? (·.name == type) := by
  rw [find?_submitAll]
  rfl

theorem contains_empty_submitAll_iff :
    (empty.submitAll cs).contains type = true ↔ type ∈ cs.map (·.name) := by
  simp [contains, find?_empty_submitAll]

/-! ## What registries show -/

theorem pairwise_types (r : Registry) : r.types.Pairwise fun a b => a.text < b.text :=
  ComponentType.sort_pairwise_lt r.nodup_names

theorem mem_types_iff_contains : type ∈ r.types ↔ r.contains type = true :=
  mem_types.trans contains_iff.symm

theorem length_types (r : Registry) : r.types.length = r.size := by
  rw [types, (ComponentType.sort_perm _).length_eq, List.length_map, size]

theorem types_eq_of_find? (h : ∀ t, s.find? t = r.find? t) : s.types = r.types := by
  refine ComponentType.eq_of_pairwise_lt s.pairwise_types r.pairwise_types fun t => ?_
  rw [mem_types_iff_contains, mem_types_iff_contains, contains, contains, h]

theorem size_eq_of_find? (h : ∀ t, s.find? t = r.find? t) : s.size = r.size := by
  rw [← length_types, ← length_types, types_eq_of_find? h]

theorem find?_submitAll_of_perm (hnodup : (cs.map (·.name)).Nodup) (hperm : ds.Perm cs) :
    (empty.submitAll ds).find? type = (empty.submitAll cs).find? type := by
  have hnodup' : (ds.map (·.name)).Nodup := (hperm.map _).nodup_iff.2 hnodup
  ext c
  rw [find?_empty_submitAll, find?_empty_submitAll, Component.find?_eq_some_iff_isFirstOf,
    Component.find?_eq_some_iff_isFirstOf, Component.isFirstOf_iff_mem hnodup,
    Component.isFirstOf_iff_mem hnodup', hperm.mem_iff]

/-! ## Runs without refusals -/

theorem registerAll_cons : r.registerAll (c :: cs) = r.register c >>= fun s => s.registerAll cs :=
  List.foldlM_cons

theorem registerAll_eq_ok_iff : r.registerAll cs = .ok s ↔
    ((r.components ++ cs).map (·.name)).Nodup ∧ s = r.submitAll cs := by
  induction cs generalizing r with
  | nil =>
    rw [List.append_nil, iff_true_intro r.nodup_names, true_and, eq_comm (a := s)]
    exact pure_eq_ok_iff
  | cons c cs ih =>
    rw [registerAll_cons, bind_eq_ok_iff]
    constructor
    · rintro ⟨next, hnext, h⟩
      obtain ⟨hnodup, rfl⟩ := ih.1 h
      rw [(register_eq_ok_iff.1 hnext).2, List.append_assoc] at hnodup
      refine ⟨hnodup, ?_⟩
      rw [submitAll, submitAll, List.foldl_cons, submit_of_register_eq_ok hnext]
    · rintro ⟨hnodup, rfl⟩
      have hnew : r.contains c.name = false := by
        rw [← Bool.not_eq_true, contains_iff]
        rw [List.map_append, List.nodup_append] at hnodup
        exact fun hmem => hnodup.2.2 _ hmem c.name (by simp) rfl
      obtain ⟨next, hnext⟩ := exists_register_eq_ok_iff.2 hnew
      refine ⟨next, hnext, ih.2 ⟨?_, ?_⟩⟩
      · rwa [(register_eq_ok_iff.1 hnext).2, List.append_assoc]
      · rw [submitAll, submitAll, List.foldl_cons, submit_of_register_eq_ok hnext]

/-- A run that may not be refused ends at the first component whose type is there already. -/
theorem exists_of_registerAll_eq_error {e : ConfigError} (h : empty.registerAll cs = .error e) :
    ∃ before c after, cs = before ++ c :: after ∧ (before.map (·.name)).Nodup ∧
      c.name ∈ before.map (·.name) ∧ e = .duplicateComponent c.name := by
  obtain ⟨before, c, after, s, rfl, hbefore, hfails⟩ := foldlM_eq_error_iff.1 h
  obtain ⟨hnodup, rfl⟩ := registerAll_eq_ok_iff.1 hbefore
  obtain ⟨hcontains, rfl⟩ := register_eq_error_iff.1 hfails
  exact ⟨before, c, after, rfl, hnodup, contains_empty_submitAll_iff.1 hcontains, rfl⟩

end Registry

/-! ## Schema texts -/

/-- The components that a schema text lists. -/
def Component.listOfText (text : String) : Except DocumentError (List Component) := do
  listOfDocument (← Toml.document text)

namespace Registry

variable {cs : List Component} {text : String} {s : Registry}

theorem ofText_eq_registerAll (h : Component.listOfText text = .ok cs) :
    ofText text = (empty.registerAll cs).mapError .configuration := by
  obtain ⟨d, hd, hlist⟩ := bind_eq_ok_iff.1 h
  unfold ofText
  rw [hd]
  show ((liftM (Component.listOfDocument d) : Except Error _) >>= _) = _
  rw [hlist]
  show (liftM (empty.registerAll cs) : Except Error _) = _
  cases empty.registerAll cs <;> rfl

theorem ofText_eq_ok_iff (h : Component.listOfText text = .ok cs) :
    ofText text = .ok s ↔ (cs.map (·.name)).Nodup ∧ s = empty.submitAll cs := by
  rw [ofText_eq_registerAll h, mapError_eq_ok_iff, registerAll_eq_ok_iff]
  rfl

/-- A schema text is refused for the first component whose type comes before. -/
theorem exists_ofText_eq_error (h : Component.listOfText text = .ok cs)
    (hrepeated : ¬ (cs.map (·.name)).Nodup) :
    ∃ before c after, cs = before ++ c :: after ∧ (before.map (·.name)).Nodup ∧
      c.name ∈ before.map (·.name) ∧
        ofText text = .error (.configuration (.duplicateComponent c.name)) := by
  cases hrun : empty.registerAll cs with
  | ok s => exact absurd (registerAll_eq_ok_iff.1 hrun).1 hrepeated
  | error e =>
    obtain ⟨before, c, after, hcs, hnodup, hc, rfl⟩ := exists_of_registerAll_eq_error hrun
    refine ⟨before, c, after, hcs, hnodup, hc, ?_⟩
    rw [ofText_eq_registerAll h, hrun]
    rfl

end Registry

end KeyedSql

import KeyedSql.Key.Reader
import KeyedSql.Proofs.Key.Values

/-!
# Reading parameters in order

A reader moves a cursor over the parameters of a key. `QueryCursor.Takes` says which parameters
stand between two cursors; each reader that succeeds takes exactly the parameters that are written
for what it reads. So the request of an operation is read from a list of parameters if and only if
these are its own parameters, in their order and with nothing left over.
-/

namespace KeyedSql

open Outcome

/-- The cursor `c'` stands behind `params`, which come next at `c`. -/
structure QueryCursor.Takes (c : QueryCursor) (params : List KeyParam) (c' : QueryCursor) :
    Prop where
  left_eq : c.left = params ++ c'.left
  taken_eq : c'.taken = (params.map (·.name)).reverse ++ c.taken

/-- The next parameter has the given name. -/
def QueryCursor.IsNext (c : QueryCursor) (name : String) : Prop :=
  ∃ param ∈ c.left.head?, param.name = name

namespace QueryCursor

theorem takes_nil_iff {c c' : QueryCursor} : c.Takes [] c' ↔ c' = c := by
  constructor
  · rintro ⟨hleft, htaken⟩
    cases c; cases c'
    simp_all
  · rintro rfl
    exact ⟨rfl, rfl⟩

theorem takes_append_iff {c c' : QueryCursor} {front back : List KeyParam} :
    c.Takes (front ++ back) c' ↔ ∃ m, c.Takes front m ∧ m.Takes back c' := by
  constructor
  · rintro ⟨hleft, htaken⟩
    refine ⟨⟨(front.map (·.name)).reverse ++ c.taken, back ++ c'.left⟩, ⟨?_, rfl⟩, rfl, ?_⟩
    · rw [hleft, List.append_assoc]
    · rw [htaken, List.map_append, List.reverse_append, List.append_assoc]
  · rintro ⟨m, hfront, hback⟩
    constructor
    · rw [hfront.left_eq, hback.left_eq, List.append_assoc]
    · rw [hback.taken_eq, hfront.taken_eq, List.map_append, List.reverse_append, List.append_assoc]

theorem takes_cons_iff {c c' : QueryCursor} {param : KeyParam} {back : List KeyParam} :
    c.Takes (param :: back) c' ↔ ∃ m, c.Takes [param] m ∧ m.Takes back c' := by
  rw [← takes_append_iff, List.singleton_append]

theorem not_isNext_of_left_eq_nil {c : QueryCursor} {name : String} (h : c.left = []) :
    ¬ c.IsNext name := by
  rintro ⟨param, hparam, -⟩
  rw [h] at hparam
  cases hparam

end QueryCursor

theorem OrderEntry.params_of_ne_nil {order : List OrderEntry} (h : order ≠ []) :
    params order = [⟨Parameter.orderBy, some (listText order)⟩] := by
  rw [params, if_neg (by simpa using h)]

namespace QueryReader

open QueryCursor

variable {α β : Type} {name : String} {c c' : QueryCursor}

theorem run_bind_eq_ok_iff {r : QueryReader α} {f : α → QueryReader β} {b : β} :
    (r >>= f).run c = .ok (b, c') ↔
      ∃ a m, r.run c = .ok (a, m) ∧ (f a).run m = .ok (b, c') := by
  rw [StateT.run_bind, bind_eq_ok_iff]
  exact Prod.exists

theorem run_pure_eq_ok_iff {a b : α} :
    (pure a : QueryReader α).run c = .ok (b, c') ↔ a = b ∧ c = c' := by
  show Except.ok (a, c) = .ok (b, c') ↔ _
  simp

theorem run_lift_eq_ok_iff {x : Except GrammarError α} {a : α} :
    (liftM x : QueryReader α).run c = .ok (a, c') ↔ x = .ok a ∧ c = c' := by
  cases x with
  | error e => exact iff_of_false (fun h => by cases h) fun h => nomatch h.1
  | ok b =>
    show Except.ok (b, c) = .ok (a, c') ↔ _
    simp

theorem run_next?_eq_ok_some_iff {param : KeyParam} :
    (next? name).run c = .ok (some param, c') ↔ param.name = name ∧ c.Takes [param] c' := by
  obtain ⟨taken, left⟩ := c
  cases left with
  | nil =>
    refine iff_of_false (fun h => ?_) fun h => ?_
    · cases h
    · cases h.2.left_eq
  | cons next left =>
    show (if next.name = name then _ else _) = _ ↔ _
    split_ifs with hname
    · constructor
      · intro h
        cases h
        exact ⟨hname, rfl, by rw [← hname]; rfl⟩
      · rintro ⟨rfl, hleft, htaken⟩
        obtain ⟨taken', left'⟩ := c'
        cases hleft
        rw [show taken' = _ from htaken]
        rfl
    · refine iff_of_false (fun h => ?_) fun h => hname ?_
      · cases h
      · obtain ⟨hparam, hleft, -⟩ := h
        cases hleft
        exact hparam

theorem run_next?_eq_ok_none_iff :
    (next? name).run c = .ok (none, c') ↔ ¬ c.IsNext name ∧ c = c' := by
  obtain ⟨taken, left⟩ := c
  cases left with
  | nil =>
    show Except.ok (none, _) = .ok (none, c') ↔ _
    simp [IsNext]
  | cons next left =>
    show (if next.name = name then _ else _) = _ ↔ _
    split_ifs with hname
    · exact iff_of_false (fun h => by cases h) fun h => h.1 ⟨next, rfl, hname⟩
    · simp [IsNext, hname]

theorem run_next?_bind_eq_ok_iff {f : Option KeyParam → QueryReader α} {a : α} :
    (next? name >>= f).run c = .ok (a, c') ↔
      (∃ given m, c.Takes [⟨name, given⟩] m ∧ (f (some ⟨name, given⟩)).run m = .ok (a, c')) ∨
        ¬ c.IsNext name ∧ (f none).run c = .ok (a, c') := by
  rw [run_bind_eq_ok_iff]
  constructor
  · rintro ⟨_ | ⟨n, given⟩, m, hfound, h⟩
    · obtain ⟨hnext, rfl⟩ := run_next?_eq_ok_none_iff.1 hfound
      exact .inr ⟨hnext, h⟩
    · obtain ⟨rfl, htakes⟩ := run_next?_eq_ok_some_iff.1 hfound
      exact .inl ⟨given, m, htakes, h⟩
  · rintro (⟨given, m, htakes, h⟩ | ⟨hnext, h⟩)
    · exact ⟨some ⟨name, given⟩, m, run_next?_eq_ok_some_iff.2 ⟨rfl, htakes⟩, h⟩
    · exact ⟨none, c, run_next?_eq_ok_none_iff.2 ⟨hnext, rfl⟩, h⟩

/-! ## Readers of one parameter -/

theorem run_value_eq_ok_iff {v : String} :
    (value name).run c = .ok (v, c') ↔ c.Takes [⟨name, some v⟩] c' := by
  rw [value, run_next?_bind_eq_ok_iff]
  constructor
  · rintro (⟨_ | v', m, htakes, h⟩ | ⟨-, h⟩)
    · cases h
    · obtain ⟨rfl, rfl⟩ := run_pure_eq_ok_iff.1 h
      exact htakes
    · obtain ⟨_, _, -, h⟩ := run_bind_eq_ok_iff.1 h
      split_ifs at h <;> cases h
  · intro htakes
    exact .inl ⟨some v, c', htakes, rfl⟩

theorem run_value?_eq_ok_iff {given : Option String} :
    (value? name).run c = .ok (given, c') ↔
      c.Takes (given.toList.map fun v => ⟨name, some v⟩) c' ∧
        (given = none → ¬ c.IsNext name) := by
  rw [value?, run_next?_bind_eq_ok_iff]
  constructor
  · rintro (⟨_ | v', m, htakes, h⟩ | ⟨hnext, h⟩)
    · cases h
    · obtain ⟨rfl, rfl⟩ := run_pure_eq_ok_iff.1 h
      exact ⟨htakes, nofun⟩
    · obtain ⟨rfl, rfl⟩ := run_pure_eq_ok_iff.1 h
      exact ⟨takes_nil_iff.2 rfl, fun _ => hnext⟩
  · rintro ⟨htakes, hnext⟩
    cases given with
    | none =>
      obtain rfl := takes_nil_iff.1 htakes
      exact .inr ⟨hnext rfl, rfl⟩
    | some v => exact .inl ⟨some v, c', htakes, rfl⟩

theorem run_flag_eq_ok_iff {set : Bool} :
    (flag name).run c = .ok (set, c') ↔
      c.Takes (KeyParam.flag name set) c' ∧ (set = false → ¬ c.IsNext name) := by
  rw [flag, run_next?_bind_eq_ok_iff]
  constructor
  · rintro (⟨_ | v', m, htakes, h⟩ | ⟨hnext, h⟩)
    · obtain ⟨rfl, rfl⟩ := run_pure_eq_ok_iff.1 h
      exact ⟨htakes, nofun⟩
    · cases h
    · obtain ⟨rfl, rfl⟩ := run_pure_eq_ok_iff.1 h
      exact ⟨takes_nil_iff.2 rfl, fun _ => hnext⟩
  · rintro ⟨htakes, hnext⟩
    cases set with
    | false =>
      obtain rfl := takes_nil_iff.1 htakes
      exact .inr ⟨hnext rfl, rfl⟩
    | true => exact .inl ⟨none, c', htakes, rfl⟩

theorem run_value_bind_eq_ok_iff {parse : String → Except GrammarError α} {P : α → Prop}
    {text : α → String} (hparse : ∀ v a, parse v = .ok a ↔ v = text a ∧ P a) {a : α} :
    (value name >>= fun v => liftM (parse v)).run c = .ok (a, c') ↔
      c.Takes [⟨name, some (text a)⟩] c' ∧ P a := by
  simp only [run_bind_eq_ok_iff, run_value_eq_ok_iff, run_lift_eq_ok_iff, hparse]
  constructor
  · rintro ⟨_, _, htakes, ⟨rfl, hP⟩, rfl⟩
    exact ⟨htakes, hP⟩
  · rintro ⟨htakes, hP⟩
    exact ⟨text a, c', htakes, ⟨rfl, hP⟩, rfl⟩

theorem run_paths_eq_ok_iff {paths : List PropertyPath} :
    (QueryReader.paths name).run c = .ok (paths, c') ↔
      c.Takes [⟨name, some (PropertyPath.listText paths)⟩] c' ∧ paths ≠ [] ∧ paths.Nodup :=
  run_value_bind_eq_ok_iff fun _ _ => PropertyPath.parseList_eq_ok_iff

theorem run_property_eq_ok_iff {id : Identifier} :
    property.run c = .ok (id, c') ↔ c.Takes [⟨Parameter.property, some id.text⟩] c' := by
  unfold property
  simp only [run_bind_eq_ok_iff, run_value_eq_ok_iff]
  constructor
  · rintro ⟨v, m, htakes, h⟩
    split_ifs at h with hempty
    · cases h
    · obtain ⟨hread, rfl⟩ := run_lift_eq_ok_iff.1 h
      rwa [Identifier.parse_eq_ok_iff.1 hread] at htakes
  · intro htakes
    refine ⟨id.text, c', htakes, ?_⟩
    rw [if_neg id.text_ne_empty]
    exact run_lift_eq_ok_iff.2 ⟨id.parse_text, rfl⟩

theorem run_orderBy_eq_ok_iff {order : List OrderEntry} :
    orderBy.run c = .ok (order, c') ↔
      c.Takes (OrderEntry.params order) c' ∧ (order.map (·.property)).Nodup ∧
        (order = [] → ¬ c.IsNext Parameter.orderBy) := by
  unfold orderBy
  simp only [run_bind_eq_ok_iff, run_value?_eq_ok_iff]
  constructor
  · rintro ⟨_ | v, m, ⟨htakes, hnext⟩, h⟩
    · obtain ⟨rfl, rfl⟩ := run_pure_eq_ok_iff.1 h
      exact ⟨htakes, List.nodup_nil, fun _ => hnext rfl⟩
    · obtain ⟨hread, rfl⟩ := run_lift_eq_ok_iff.1 h
      obtain ⟨rfl, hne, hnodup⟩ := OrderEntry.parseList_eq_ok_iff.1 hread
      rw [OrderEntry.params_of_ne_nil hne]
      exact ⟨htakes, hnodup, fun h => absurd h hne⟩
  · rintro ⟨htakes, hnodup, hnext⟩
    by_cases hne : order = []
    · subst hne
      exact ⟨none, c', ⟨htakes, fun _ => hnext rfl⟩, rfl⟩
    · rw [OrderEntry.params_of_ne_nil hne] at htakes
      refine ⟨some (OrderEntry.listText order), c', ⟨htakes, nofun⟩, ?_⟩
      exact run_lift_eq_ok_iff.2 ⟨OrderEntry.parseList_eq_ok_iff.2 ⟨rfl, hne, hnodup⟩, rfl⟩

theorem run_nlsProperties_eq_ok_iff {nls : Option (List Identifier)} :
    nlsProperties.run c = .ok (nls, c') ↔
      c.Takes (Request.update nls).params c' ∧ (∀ names ∈ nls, names.Nodup) ∧
        (nls = none → ¬ c.IsNext Parameter.nlsProperties) := by
  unfold nlsProperties
  simp only [run_bind_eq_ok_iff, run_value?_eq_ok_iff]
  constructor
  · rintro ⟨_ | v, m, ⟨htakes, hnext⟩, h⟩
    · obtain ⟨rfl, rfl⟩ := run_pure_eq_ok_iff.1 h
      exact ⟨htakes, by simp, fun _ => hnext rfl⟩
    · change (if v = "" then _ else _ : QueryReader _).run m = _ at h
      split_ifs at h with hempty
      · obtain ⟨rfl, rfl⟩ := run_pure_eq_ok_iff.1 h
        subst hempty
        exact ⟨htakes, by simp, by simp⟩
      · simp only [run_bind_eq_ok_iff, run_lift_eq_ok_iff, run_pure_eq_ok_iff,
          Identifier.parseList_eq_ok_iff] at h
        obtain ⟨names, _, ⟨⟨rfl, -⟩, rfl⟩, _, _, ⟨hnodup, rfl⟩, rfl, rfl⟩ := h
        exact ⟨htakes, by simpa using checkDistinct_eq_ok_iff.1 hnodup, by simp⟩
  · rintro ⟨htakes, hnodup, hnext⟩
    cases nls with
    | none => exact ⟨none, c', ⟨htakes, fun _ => hnext rfl⟩, rfl⟩
    | some names =>
      refine ⟨some (Identifier.listText names), c', ⟨htakes, by simp⟩, ?_⟩
      change (if _ then _ else _ : QueryReader _).run c' = _
      split_ifs with hempty
      · rw [Identifier.listText_eq_empty_iff.1 hempty]
        rfl
      · have hne : names ≠ [] := fun h => hempty (Identifier.listText_eq_empty_iff.2 h)
        simp only [run_bind_eq_ok_iff, run_lift_eq_ok_iff, run_pure_eq_ok_iff,
          Identifier.parseList_eq_ok_iff]
        exact ⟨names, c', ⟨⟨rfl, hne⟩, rfl⟩, (), c',
          ⟨checkDistinct_eq_ok_iff.2 (hnodup names rfl), rfl⟩, rfl, rfl⟩

theorem run_expectEnd_eq_ok_iff {op : Operation} :
    (expectEnd op).run c = .ok ((), c') ↔ c.left = [] ∧ c = c' := by
  obtain ⟨taken, left⟩ := c
  cases left with
  | nil =>
    show Except.ok ((), _) = .ok ((), c') ↔ _
    simp
  | cons next left =>
    refine iff_of_false (fun h => ?_) fun h => nomatch h.1
    change (if _ then _ else _) = _ at h
    split_ifs at h

/-- The sort order and the flag that end the parameters of a finder. -/
theorem run_orderBy_flag_eq_ok_iff {order : List OrderEntry} {set : Bool} :
    (∃ m, orderBy.run c = .ok (order, m) ∧
      (flag Parameter.ignoreCancel).run m = .ok (set, c') ∧ c'.left = []) ↔
      c.Takes (OrderEntry.params order ++ KeyParam.flag Parameter.ignoreCancel set) c' ∧
        (order.map (·.property)).Nodup ∧ c'.left = [] := by
  simp only [run_orderBy_eq_ok_iff, run_flag_eq_ok_iff, takes_append_iff]
  constructor
  · rintro ⟨m, ⟨horder, hnodup, -⟩, ⟨hset, -⟩, hend⟩
    exact ⟨⟨m, horder, hset⟩, hnodup, hend⟩
  · rintro ⟨⟨m, horder, hset⟩, hnodup, hend⟩
    have hleft : m.left = KeyParam.flag Parameter.ignoreCancel set := by
      rw [hset.left_eq, hend, List.append_nil]
    refine ⟨m, ⟨horder, hnodup, ?_⟩, ⟨hset, ?_⟩, hend⟩
    · rintro rfl ⟨param, hparam, hname⟩
      rw [← takes_nil_iff.1 horder, hleft] at hparam
      cases set with
      | false => cases hparam
      | true =>
        cases hparam
        exact absurd hname (by decide)
    · rintro rfl ⟨param, hparam, -⟩
      rw [hleft] at hparam
      cases hparam

end QueryReader

open QueryCursor QueryReader

namespace Request

variable {op : Operation} {request : Request} {c c' : QueryCursor}

/-- A reader gives well-formed requests of its operation and takes their parameters. -/
theorem takes_params_of_run_reader (h : (reader op).run c = .ok (request, c'))
    (hend : c'.left = []) :
    request.operation = op ∧ request.WellFormed ∧ c.Takes request.params c' := by
  cases op with
  | findEntityById | insert | delete | deleteEntityById =>
    obtain ⟨rfl, rfl⟩ := run_pure_eq_ok_iff.1 h
    exact ⟨rfl, trivial, takes_nil_iff.2 rfl⟩
  | findComponentsBy =>
    simp only [reader, run_bind_eq_ok_iff, run_pure_eq_ok_iff] at h
    obtain ⟨properties, m, hproperties, order, m', horder, set, _, hset, rfl, rfl⟩ := h
    obtain ⟨hfirst, hne, hnodup⟩ := run_paths_eq_ok_iff.1 hproperties
    obtain ⟨hrest, horders, -⟩ := run_orderBy_flag_eq_ok_iff.1 ⟨m', horder, hset, hend⟩
    exact ⟨rfl, ⟨hne, hnodup, horders⟩, takes_cons_iff.2 ⟨m, hfirst, hrest⟩⟩
  | findComponentsByJoinTable =>
    simp only [reader, run_bind_eq_ok_iff, run_pure_eq_ok_iff, run_value_eq_ok_iff,
      run_lift_eq_ok_iff, ComponentType.parse_eq_ok_iff, run_paths_eq_ok_iff,
      JoinStep.parseList_eq_ok_iff] at h
    obtain ⟨_, m₁, hsource, source, _, ⟨rfl, rfl⟩, sources, m₂, ⟨hsources, hs, hsNodup⟩,
      targets, m₃, ⟨htargets, ht, htNodup⟩, _, m₄, hjoin, joins, _, ⟨⟨rfl, hj, hjoins⟩, rfl⟩,
      order, m₅, horder, set, _, hset, rfl, rfl⟩ := h
    obtain ⟨hrest, horders, -⟩ := run_orderBy_flag_eq_ok_iff.1 ⟨m₅, horder, hset, hend⟩
    refine ⟨rfl, ⟨⟨hs, ht, hj, hjoins, hsNodup, htNodup⟩, horders⟩, ?_⟩
    exact takes_cons_iff.2 ⟨m₁, hsource, takes_cons_iff.2 ⟨m₂, hsources,
      takes_cons_iff.2 ⟨m₃, htargets, takes_cons_iff.2 ⟨m₄, hjoin, hrest⟩⟩⟩⟩
  | update =>
    simp only [reader, run_bind_eq_ok_iff, run_pure_eq_ok_iff] at h
    obtain ⟨nls, _, hnls, rfl, rfl⟩ := h
    obtain ⟨htakes, hnodup, -⟩ := run_nlsProperties_eq_ok_iff.1 hnls
    exact ⟨rfl, hnodup, htakes⟩
  | deleteComponentsBy =>
    simp only [reader, run_bind_eq_ok_iff, run_pure_eq_ok_iff] at h
    obtain ⟨properties, _, hproperties, rfl, rfl⟩ := h
    obtain ⟨htakes, hne, hnodup⟩ := run_paths_eq_ok_iff.1 hproperties
    exact ⟨rfl, ⟨hne, hnodup⟩, htakes⟩
  | findNlsColumn =>
    simp only [reader, run_bind_eq_ok_iff, run_pure_eq_ok_iff] at h
    obtain ⟨id, _, hid, rfl, rfl⟩ := h
    exact ⟨rfl, trivial, run_property_eq_ok_iff.1 hid⟩

/-- A reader reads a well-formed request of its operation from the parameters of the request. -/
theorem run_reader_of_takes_params (hwf : request.WellFormed) (htakes : c.Takes request.params c')
    (hend : c'.left = []) : (reader request.operation).run c = .ok (request, c') := by
  cases request with
  | findEntityById | insert | delete | deleteEntityById =>
    obtain rfl := takes_nil_iff.1 htakes
    rfl
  | findComponentsBy properties order set =>
    obtain ⟨hne, hnodup, horders⟩ := hwf
    obtain ⟨m, hfirst, hrest⟩ := takes_cons_iff.1 htakes
    obtain ⟨m', horder, hset, -⟩ := run_orderBy_flag_eq_ok_iff.2 ⟨hrest, horders, hend⟩
    simp only [operation, reader, run_bind_eq_ok_iff, run_pure_eq_ok_iff]
    exact ⟨properties, m, run_paths_eq_ok_iff.2 ⟨hfirst, hne, hnodup⟩, order, m', horder, set, c',
      hset, rfl, rfl⟩
  | findComponentsByJoinTable search order set =>
    obtain ⟨⟨hs, ht, hj, hjoins, hsNodup, htNodup⟩, horders⟩ := hwf
    obtain ⟨m₁, hsource, htakes⟩ := takes_cons_iff.1 htakes
    obtain ⟨m₂, hsources, htakes⟩ := takes_cons_iff.1 htakes
    obtain ⟨m₃, htargets, htakes⟩ := takes_cons_iff.1 htakes
    obtain ⟨m₄, hjoin, hrest⟩ := takes_cons_iff.1 htakes
    obtain ⟨m₅, horder, hset, -⟩ := run_orderBy_flag_eq_ok_iff.2 ⟨hrest, horders, hend⟩
    simp only [operation, reader, run_bind_eq_ok_iff, run_pure_eq_ok_iff, run_value_eq_ok_iff,
      run_lift_eq_ok_iff, ComponentType.parse_eq_ok_iff, run_paths_eq_ok_iff,
      JoinStep.parseList_eq_ok_iff]
    exact ⟨_, m₁, hsource, search.source, m₁, ⟨rfl, rfl⟩,
      search.sourceProperties, m₂, ⟨hsources, hs, hsNodup⟩,
      search.targetProperties, m₃, ⟨htargets, ht, htNodup⟩,
      _, m₄, hjoin, search.joins, m₄, ⟨⟨rfl, hj, hjoins⟩, rfl⟩,
      order, m₅, horder, set, c', hset, rfl, rfl⟩
  | update nls =>
    simp only [operation, reader, run_bind_eq_ok_iff, run_pure_eq_ok_iff]
    refine ⟨nls, c', run_nlsProperties_eq_ok_iff.2 ⟨htakes, hwf, ?_⟩, rfl, rfl⟩
    rintro rfl
    rw [← takes_nil_iff.1 htakes]
    exact not_isNext_of_left_eq_nil hend
  | deleteComponentsBy properties =>
    simp only [operation, reader, run_bind_eq_ok_iff, run_pure_eq_ok_iff]
    exact ⟨properties, c', run_paths_eq_ok_iff.2 ⟨htakes, hwf⟩, rfl, rfl⟩
  | findNlsColumn id =>
    simp only [operation, reader, run_bind_eq_ok_iff, run_pure_eq_ok_iff]
    exact ⟨id, c', run_property_eq_ok_iff.2 htakes, rfl, rfl⟩

/-- The request of an operation is read from its own parameters and from no others. -/
theorem ofParams_eq_ok_iff {params : List KeyParam} :
    ofParams op params = .ok request ↔
      request.operation = op ∧ request.WellFormed ∧ params = request.params := by
  have hrun : ofParams op params = .ok request ↔
      ∃ c', (reader op).run ⟨[], params⟩ = .ok (request, c') ∧ c'.left = [] := by
    simp only [ofParams, bind_eq_ok_iff, Prod.exists]
    constructor
    · rintro ⟨read, c', hread, _, _, hleft, h⟩
      cases h
      exact ⟨c', hread, (run_expectEnd_eq_ok_iff.1 hleft).1⟩
    · rintro ⟨c', hread, hend⟩
      exact ⟨request, c', hread, (), c', run_expectEnd_eq_ok_iff.2 ⟨hend, rfl⟩, rfl⟩
  rw [hrun]
  constructor
  · rintro ⟨c', hread, hend⟩
    obtain ⟨hop, hwf, htakes⟩ := takes_params_of_run_reader hread hend
    refine ⟨hop, hwf, ?_⟩
    simpa [hend] using htakes.left_eq
  · rintro ⟨rfl, hwf, rfl⟩
    refine ⟨⟨(request.params.map (·.name)).reverse, []⟩, ?_, rfl⟩
    exact run_reader_of_takes_params hwf ⟨by simp, by simp⟩ rfl

end Request

end KeyedSql

import KeyedSql.Proofs.Compile.Statements
import KeyedSql.Proofs.Key.RoundTrip

/-!
# Which factory compiles a key, and with what outcome

Among the factories of the library, the head of a key alone decides which one compiles it. Whatever
that factory is, it reads the key as one of the operation that the head names and compiles what it
has read; so a key that is refused for its text is refused in every environment, and an environment
can only add configuration errors.
-/

namespace KeyedSql

open Outcome

theorem Operation.ofKey?_eq_some_iff {key : String} {op : Operation} :
    ofKey? key = some op ↔
      ∃ head, KeyHead.parse key = .ok head ∧ head.operation.text = op.name := by
  unfold ofKey?
  split
  · rename_i head hhead
    rw [ofName?_eq_some_iff, eq_comm]
    exact ⟨fun h => ⟨head, hhead, h⟩, fun ⟨head', hhead', h⟩ => by
      obtain rfl := Except.ok.inj (hhead.symm.trans hhead')
      exact h⟩
  · rename_i e he
    simp [he]

theorem liftM_grammar {α : Type} (x : Except GrammarError α) :
    (liftM x : Except Error α) = x.mapError .grammar := by
  cases x <;> rfl

theorem liftM_configuration {α : Type} (x : Except ConfigError α) :
    (liftM x : Except Error α) = x.mapError .configuration := by
  cases x <;> rfl

/-- The key of a text, as the factories of the library read it: no environment has a say in it. -/
def StatementKey.ofText (key : String) : Except Error StatementKey :=
  match KeyHead.parse key with
  | .error e => .error (.grammar e)
  | .ok head =>
    match Operation.ofName? head.operation.text with
    | some op => (parseAs op key).mapError .grammar
    | none => .error (.notFound key)

namespace StatementKey

variable {key : String} {k : StatementKey}

theorem ofText_of_parse_eq_error {e : GrammarError} (h : KeyHead.parse key = .error e) :
    ofText key = .error (.grammar e) := by
  unfold ofText
  rw [h]

theorem ofText_of_unknown {head : KeyHead} (hhead : KeyHead.parse key = .ok head)
    (hop : ∀ op : Operation, head.operation.text ≠ op.name) :
    ofText key = .error (.notFound key) := by
  have hnone : Operation.ofName? head.operation.text = none :=
    Operation.ofName?_eq_none_iff.2 fun op h => hop op h.symm
  unfold ofText
  simp only [hhead, hnone]

theorem ofText_of_known {head : KeyHead} {op : Operation} (hhead : KeyHead.parse key = .ok head)
    (hop : head.operation.text = op.name) : ofText key = (parseAs op key).mapError .grammar := by
  have hsome : Operation.ofName? head.operation.text = some op :=
    Operation.ofName?_eq_some_iff.2 hop.symm
  unfold ofText
  simp only [hhead, hsome]

/-- The head of a key cannot be read, or it names no operation, or it names one. -/
theorem head_cases (key : String) :
    (∃ e, KeyHead.parse key = .error e) ∨
      ∃ head, KeyHead.parse key = .ok head ∧
        ((∀ op : Operation, head.operation.text ≠ op.name) ∨
          ∃ op : Operation, head.operation.text = op.name) := by
  cases hhead : KeyHead.parse key with
  | error e => exact .inl ⟨e, rfl⟩
  | ok head =>
    refine .inr ⟨head, rfl, ?_⟩
    rw [or_iff_not_imp_right, not_exists]
    exact id

theorem ofText_eq_ok_iff : ofText key = .ok k ↔ k.WellFormed ∧ k.text = key := by
  constructor
  · intro h
    rcases head_cases key with ⟨e, he⟩ | ⟨head, hhead, hop | ⟨op, hop⟩⟩
    · rw [ofText_of_parse_eq_error he] at h
      cases h
    · rw [ofText_of_unknown hhead hop] at h
      cases h
    · rw [ofText_of_known hhead hop, mapError_eq_ok_iff] at h
      exact (parseAs_eq_ok_iff.1 h).2
  · rintro ⟨hwf, rfl⟩
    rw [ofText_of_known k.parse_text rfl, mapError_eq_ok_iff]
    exact parseAs_eq_ok_iff.2 ⟨rfl, hwf, rfl⟩

theorem ofText_eq_grammar_iff {e : GrammarError} :
    ofText key = .error (.grammar e) ↔
      KeyHead.parse key = .error e ∨
        ∃ head op, KeyHead.parse key = .ok head ∧ head.operation.text = Operation.name op ∧
          parseAs op key = .error e := by
  constructor
  · intro h
    rcases head_cases key with ⟨e', he⟩ | ⟨head, hhead, hop | ⟨op, hop⟩⟩
    · rw [ofText_of_parse_eq_error he] at h
      cases h
      exact .inl he
    · rw [ofText_of_unknown hhead hop] at h
      cases h
    · rw [ofText_of_known hhead hop, mapError_eq_error_iff] at h
      obtain ⟨e', hparse, he⟩ := h
      cases he
      exact .inr ⟨head, op, hhead, hop, hparse⟩
  · rintro (h | ⟨head, op, hhead, hop, h⟩)
    · exact ofText_of_parse_eq_error h
    · rw [ofText_of_known hhead hop, h]
      rfl

theorem ofText_eq_notFound_iff {id : String} :
    ofText key = .error (.notFound id) ↔
      id = key ∧ ∃ head, KeyHead.parse key = .ok head ∧
        ∀ op : Operation, head.operation.text ≠ op.name := by
  constructor
  · intro h
    rcases head_cases key with ⟨e, he⟩ | ⟨head, hhead, hop | ⟨op, hop⟩⟩
    · rw [ofText_of_parse_eq_error he] at h
      cases h
    · rw [ofText_of_unknown hhead hop] at h
      cases h
      exact ⟨rfl, head, hhead, hop⟩
    · rw [ofText_of_known hhead hop, mapError_eq_error_iff] at h
      obtain ⟨e, -, he⟩ := h
      cases he
  · rintro ⟨rfl, head, hhead, hop⟩
    exact ofText_of_unknown hhead hop

theorem eq_of_ofText_eq_error {error : Error} (h : ofText key = .error error) :
    (∃ e, error = .grammar e) ∨ error = .notFound key := by
  rcases head_cases key with ⟨e, he⟩ | ⟨head, hhead, hop | ⟨op, hop⟩⟩
  · rw [ofText_of_parse_eq_error he] at h
    cases h
    exact .inl ⟨e, rfl⟩
  · rw [ofText_of_unknown hhead hop] at h
    cases h
    exact .inr rfl
  · rw [ofText_of_known hhead hop, mapError_eq_error_iff] at h
    obtain ⟨e, -, rfl⟩ := h
    exact .inl ⟨e, rfl⟩

end StatementKey

namespace StatementFactory

variable {f : StatementFactory} {env : Environment} {key id : String} {op : Operation}

theorem accepts_iff :
    f.accepts key = true ↔ ∃ op ∈ f.operations, Operation.ofKey? key = some op := by
  unfold accepts
  split
  · rename_i op hop
    simp [hop]
  · rename_i hnone
    simp [hnone]

theorem read_of_mem_operations (hkey : Operation.ofKey? key = some op) (hop : op ∈ f.operations) :
    f.read key = (StatementKey.parseAs op key).mapError .grammar := by
  simp only [read, hkey]
  rw [if_pos (List.contains_iff_mem.2 hop), liftM_grammar]

theorem read_of_not_accepts (h : f.accepts key = false) : f.read key = .error (.notFound key) := by
  cases hkey : Operation.ofKey? key with
  | none => simp only [read, hkey]
  | some op =>
    have hop : op ∉ f.operations := by
      intro hop
      rw [accepts_iff.2 ⟨op, hop, hkey⟩] at h
      cases h
    simp only [read, hkey]
    exact if_neg (mt List.contains_iff_mem.1 hop)

/-- A factory of the library compiles each request of its operations. -/
theorem compile_of_mem_defaults (hf : f ∈ defaults) {k : StatementKey}
    (hop : k.operation ∈ f.operations) :
    f.compile env id k = (env.statementOf id k).mapError .configuration := by
  obtain ⟨type, request⟩ := k
  simp only [defaults, List.mem_cons, List.not_mem_nil, or_false] at hf
  -- Each factory with each request: its own ones are compiled, the others contradict `hop`.
  rcases hf with rfl | rfl | rfl | rfl | rfl <;> cases request <;>
    first
    | exact liftM_configuration _
    | simp [StatementKey.operation, Request.operation, insert, update, delete, find,
        findNlsColumn] at hop

theorem create_of_mem_defaults (hf : f ∈ defaults) (hkey : Operation.ofKey? key = some op)
    (hop : op ∈ f.operations) :
    f.create env key = (StatementKey.parseAs op key).mapError .grammar >>= fun k =>
      (env.statementOf key k).mapError .configuration := by
  unfold create
  rw [read_of_mem_operations hkey hop]
  cases h : StatementKey.parseAs op key with
  | error e => rfl
  | ok k =>
    have hk : k.operation = op := (StatementKey.parseAs_eq_ok_iff.1 h).1
    exact compile_of_mem_defaults hf (hk ▸ hop)

theorem exists_mem_defaults (op : Operation) : ∃ f ∈ defaults, op ∈ f.operations := by
  cases op
  case insert => exact ⟨insert, by simp [defaults], by decide⟩
  case update => exact ⟨update, by simp [defaults], by decide⟩
  case delete | deleteEntityById | deleteComponentsBy =>
    exact ⟨delete, by simp [defaults], by decide⟩
  case findEntityById | findComponentsBy | findComponentsByJoinTable =>
    exact ⟨find, by simp [defaults], by decide⟩
  case findNlsColumn => exact ⟨findNlsColumn, by simp [defaults], by decide⟩

theorem exists_find?_defaults (hkey : Operation.ofKey? key = some op) :
    ∃ f ∈ defaults, find? defaults key = some f ∧ op ∈ f.operations := by
  cases hfind : find? defaults key with
  | none =>
    obtain ⟨f, hf, hop⟩ := exists_mem_defaults op
    exact absurd (accepts_iff.2 ⟨op, hop, hkey⟩) (List.find?_eq_none.1 hfind f hf)
  | some f =>
    have haccepts : f.accepts key = true :=
      @List.find?_some StatementFactory (·.accepts key) f defaults hfind
    obtain ⟨op', hop', hkey'⟩ := accepts_iff.1 haccepts
    obtain rfl := Option.some.inj (hkey.symm.trans hkey')
    exact ⟨f, List.mem_of_find?_eq_some hfind, rfl, hop'⟩

theorem find?_defaults_eq_none (hkey : Operation.ofKey? key = none) :
    find? defaults key = none := by
  refine List.find?_eq_none.2 fun f _ haccepts => ?_
  obtain ⟨op, -, hop⟩ := accepts_iff.1 haccepts
  rw [hkey] at hop
  cases hop

/-- A key is compiled as it is read, and what the environment adds are configuration errors. -/
theorem dispatch_defaults (env : Environment) (key : String) :
    dispatch defaults env key = StatementKey.ofText key >>= fun k =>
      (env.statementOf key k).mapError .configuration := by
  -- Both sides read the head first, and then look for the operation that it names.
  unfold dispatch StatementKey.ofText
  rw [liftM_grammar]
  cases hhead : KeyHead.parse key with
  | error e => rfl
  | ok head =>
    have hkey : Operation.ofKey? key = Operation.ofName? head.operation.text := by
      simp only [Operation.ofKey?, hhead]
    cases hop : Operation.ofName? head.operation.text with
    | none =>
      rw [hop] at hkey
      simp only [find?_defaults_eq_none hkey, hop]
      rfl
    | some op =>
      rw [hop] at hkey
      obtain ⟨f, hf, hfind, hmem⟩ := exists_find?_defaults hkey
      simp only [hfind, hop]
      exact create_of_mem_defaults hf hkey hmem

theorem dispatch_defaults_eq_ok_iff {s : Statement} :
    dispatch defaults env key = .ok s ↔
      ∃ k : StatementKey, k.WellFormed ∧ k.text = key ∧ env.statementOf key k = .ok s := by
  simp only [dispatch_defaults, bind_eq_ok_iff, StatementKey.ofText_eq_ok_iff, mapError_eq_ok_iff,
    and_assoc]

/-- The text of a well-formed key is compiled to the statement of the key. -/
theorem dispatch_text_eq_ok_iff {k : StatementKey} {s : Statement} :
    dispatch defaults env k.text = .ok s ↔ k.WellFormed ∧ env.statementOf k.text k = .ok s := by
  rw [dispatch_defaults_eq_ok_iff]
  constructor
  · rintro ⟨k', hwf, htext, h⟩
    obtain rfl := StatementKey.text_injective htext
    exact ⟨hwf, h⟩
  · rintro ⟨hwf, h⟩
    exact ⟨k, hwf, rfl, h⟩

/-- An error is one of the text, or a configuration error of a key that is read. -/
theorem dispatch_defaults_eq_error_iff {error : Error} :
    dispatch defaults env key = .error error ↔
      StatementKey.ofText key = .error error ∨
        ∃ k e, StatementKey.ofText key = .ok k ∧ env.statementOf key k = .error e ∧
          error = .configuration e := by
  rw [dispatch_defaults]
  cases hread : StatementKey.ofText key with
  | error e => simp [bind, Except.bind]
  | ok k =>
    cases hstatement : env.statementOf key k with
    | error e => simp [bind, Except.bind, Except.mapError, hstatement, eq_comm]
    | ok s => simp [bind, Except.bind, Except.mapError, hstatement]

/-- The errors of a text are the same in every environment. -/
theorem dispatch_defaults_eq_error_iff_of_ne {error : Error}
    (h : ∀ e, error ≠ .configuration e) :
    dispatch defaults env key = .error error ↔ StatementKey.ofText key = .error error := by
  rw [dispatch_defaults_eq_error_iff]
  exact or_iff_left fun ⟨_, e, _, _, he⟩ => h e he

theorem eq_of_dispatch_defaults_eq_error {error : Error}
    (h : dispatch defaults env key = .error error) :
    (∃ e, error = .grammar e) ∨ error = .notFound key ∨ ∃ e, error = .configuration e := by
  rcases dispatch_defaults_eq_error_iff.1 h with h | ⟨k, e, -, -, rfl⟩
  · exact (StatementKey.eq_of_ofText_eq_error h).imp_right .inl
  · exact .inr (.inr ⟨e, rfl⟩)

theorem create_eq_notFound_iff (hf : f ∈ defaults) :
    (∃ id, f.create env key = .error (.notFound id)) ↔ f.accepts key = false := by
  cases haccepts : f.accepts key with
  | false =>
    refine iff_of_true ⟨key, ?_⟩ rfl
    rw [create, read_of_not_accepts haccepts]
    rfl
  | true =>
    obtain ⟨op, hop, hkey⟩ := accepts_iff.1 haccepts
    refine iff_of_false ?_ Bool.noConfusion
    rintro ⟨id, h⟩
    rw [create_of_mem_defaults hf hkey hop] at h
    cases hread : StatementKey.parseAs op key with
    | error e => simp [hread, bind, Except.bind, Except.mapError] at h
    | ok k =>
      obtain ⟨e, -, he⟩ := mapError_eq_error_iff.1 (hread ▸ h)
      cases he

/-- A key that is read has no statement where one of its tables is missing. -/
theorem dispatch_defaults_of_not_hasTable {k : StatementKey} {type : ComponentType}
    (hread : StatementKey.parseAs op key = .ok k) (htype : type ∈ k.types)
    (htable : ¬ env.registry.HasTable type) :
    ∃ e, dispatch defaults env key = .error (.configuration e) := by
  have hkey : StatementKey.ofText key = .ok k :=
    StatementKey.ofText_eq_ok_iff.2 (StatementKey.parseAs_eq_ok_iff.1 hread).2
  cases h : env.statementOf key k with
  | ok s => exact absurd (Environment.hasTable_of_statementOf h type htype) htable
  | error e => exact ⟨e, dispatch_defaults_eq_error_iff.2 (.inr ⟨k, e, hkey, h, rfl⟩)⟩

/-! ## Outcomes -/

/-- Grammar errors and unknown operations are faults of the key alone; all others are configuration
errors. -/
theorem dispatch_outcomes (env : Environment) (key : String) :
    (∀ e, dispatch defaults env key = .error (.grammar e) ↔
      KeyHead.parse key = .error e ∨
        ∃ head op, KeyHead.parse key = .ok head ∧ head.operation.text = Operation.name op ∧
          StatementKey.parseAs op key = .error e) ∧
    (∀ id, dispatch defaults env key = .error (.notFound id) ↔
      id = key ∧ ∃ head, KeyHead.parse key = .ok head ∧
        ∀ op : Operation, head.operation.text ≠ op.name) ∧
    (∀ error, dispatch defaults env key = .error error →
      (∃ e, error = .grammar e) ∨ error = .notFound key ∨ ∃ e, error = .configuration e) ∧
    (∀ env' error, (∀ e, error ≠ .configuration e) →
      (dispatch defaults env key = .error error ↔ dispatch defaults env' key = .error error)) ∧
    (∀ op k, StatementKey.parseAs op key = .ok k →
      ∀ type ∈ k.types, ¬ env.registry.HasTable type →
        ∃ e, dispatch defaults env key = .error (.configuration e)) ∧
    ∀ f ∈ defaults, (∃ id, f.create env key = .error (.notFound id)) ↔ f.accepts key = false := by
  refine ⟨fun e => ?_, fun id => ?_, fun error => eq_of_dispatch_defaults_eq_error, ?_, ?_, ?_⟩
  · rw [dispatch_defaults_eq_error_iff_of_ne, StatementKey.ofText_eq_grammar_iff]
    exact nofun
  · rw [dispatch_defaults_eq_error_iff_of_ne, StatementKey.ofText_eq_notFound_iff]
    exact nofun
  · intro env' error h
    rw [dispatch_defaults_eq_error_iff_of_ne h, dispatch_defaults_eq_error_iff_of_ne h]
  · intro op k hread type htype htable
    exact dispatch_defaults_of_not_hasTable hread htype htable
  · exact fun f hf => create_eq_notFound_iff hf

end StatementFactory

/-! ## A registry with a join -/

/-- Trains, which have a localized label and count their changes. -/
def Component.train : Component where
  name := ⟨"a.Train", by decide⟩
  table := some "TRAIN"
  cacheLinks := []
  properties := [
    { Property.ofType "id" (.scalar .int64) with
      column := some (.ofName "ID"), identity := some ⟨none, none⟩ },
    { Property.ofType "code" (.scalar .text) with column := some (.ofName "CODE") },
    { Property.ofType "label" (.scalar .text) with localizedColumn := some (.ofName "LABEL") },
    { Property.ofType "version" (.scalar .int32) with
      column := some (.ofName "VERSION"), version := true }]

/-- Wagons, which join tables connect with trains. -/
def Component.wagon : Component where
  name := ⟨"a.Wagon", by decide⟩
  table := some "WAGON"
  cacheLinks := []
  properties := [
    { Property.ofType "id" (.scalar .int64) with
      column := some (.ofName "ID"), identity := some ⟨none, none⟩ }]

/-- Trains and wagons, without caches or generators. -/
def Environment.railway : Environment :=
  .ofRegistry ⟨[.train, .wagon], by decide⟩

end KeyedSql

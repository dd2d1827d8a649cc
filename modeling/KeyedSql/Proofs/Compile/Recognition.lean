import KeyedSql.Proofs.Compile.Dispatch

/-!
# Which operation a key is of

The operation of a text can be told in several ways: by its head alone, by reading it as a key of
any operation or of a given one, and by the factories that accept it. They look at more or less of
the text, but where the head names an operation they all mean that one, and where it names none they
all refuse the text.
-/

namespace KeyedSql

open Outcome

namespace StatementKey

variable {op : Operation} {key : String} {k : StatementKey}

theorem isKeyOf_eq_true_iff : isKeyOf op key = true ↔ ∃ k, parseAs op key = .ok k := by
  unfold isKeyOf
  cases parseAs op key with
  | error e => exact iff_of_false Bool.noConfusion nofun
  | ok k => exact iff_of_true rfl ⟨k, rfl⟩

/-- A key of one operation is refused as a key of any other. -/
theorem parseAs_of_ne {head : KeyHead} (hhead : KeyHead.parse key = .ok head)
    (hop : head.operation.text ≠ op.name) :
    parseAs op key = .error (.wrongOperation op head.operation.text) := by
  rw [parseAs, hhead]
  exact if_pos hop

theorem ofKey?_of_parseAs (h : parseAs op key = .ok k) : Operation.ofKey? key = some op := by
  obtain ⟨rfl, -, rfl⟩ := parseAs_eq_ok_iff.1 h
  exact Operation.ofKey?_eq_some_iff.2 ⟨k.head, k.parse_text, rfl⟩

theorem ofKey?_of_isKeyOf (h : isKeyOf op key = true) : Operation.ofKey? key = some op := by
  obtain ⟨k, hk⟩ := isKeyOf_eq_true_iff.1 h
  exact ofKey?_of_parseAs hk

theorem parse_of_ofKey? (h : Operation.ofKey? key = some op) : parse key = parseAs op key := by
  obtain ⟨head, hhead, hop⟩ := Operation.ofKey?_eq_some_iff.1 h
  have hsome : Operation.ofName? head.operation.text = some op :=
    Operation.ofName?_eq_some_iff.2 hop.symm
  unfold parse
  simp only [hhead, bind, Except.bind, hsome]

theorem parseAs_of_ofKey?_ne {op' : Operation} (h : Operation.ofKey? key = some op)
    (hne : op' ≠ op) : parseAs op' key = .error (.wrongOperation op' op.name) := by
  obtain ⟨head, hhead, hop⟩ := Operation.ofKey?_eq_some_iff.1 h
  rw [← hop]
  refine parseAs_of_ne hhead fun hop' => hne ?_
  exact Operation.name_injective (hop'.symm.trans hop)

theorem parse_of_ofKey?_eq_none (h : Operation.ofKey? key = none) : ∃ e, parse key = .error e := by
  unfold Operation.ofKey? at h
  unfold parse
  cases hhead : KeyHead.parse key with
  | error e => exact ⟨e, rfl⟩
  | ok head =>
    simp only [hhead] at h
    simp only [bind, Except.bind, h]
    exact ⟨.unknownOperation head.operation.text, rfl⟩

theorem isKeyOf_iff_parse :
    isKeyOf op key = true ↔ ∃ k, parse key = .ok k ∧ k.operation = op := by
  rw [isKeyOf_eq_true_iff]
  constructor
  · rintro ⟨k, hk⟩
    exact ⟨k, (parse_of_ofKey? (ofKey?_of_parseAs hk)).trans hk, (parseAs_eq_ok_iff.1 hk).1⟩
  · rintro ⟨k, hk, hop⟩
    cases hkey : Operation.ofKey? key with
    | none =>
      obtain ⟨e, he⟩ := parse_of_ofKey?_eq_none hkey
      rw [he] at hk
      cases hk
    | some op' =>
      rw [parse_of_ofKey? hkey] at hk
      obtain rfl : op' = op := (parseAs_eq_ok_iff.1 hk).1.symm.trans hop
      exact ⟨k, hk⟩

end StatementKey

namespace StatementFactory

open StatementKey

variable {op : Operation} {key : String} {factories : List StatementFactory}

theorem accepts_eq_contains {f : StatementFactory} (hkey : Operation.ofKey? key = some op) :
    f.accepts key = f.operations.contains op := by
  rw [Bool.eq_iff_iff, accepts_iff, List.contains_iff_mem, hkey]
  simp only [Option.some.injEq, exists_eq_right']

theorem filter_accepts (hkey : Operation.ofKey? key = some op) :
    factories.filter (·.accepts key) = factories.filter (·.operations.contains op) :=
  List.filter_congr fun _ _ => accepts_eq_contains hkey

theorem filter_accepts_eq_nil (hkey : Operation.ofKey? key = none) :
    factories.filter (·.accepts key) = [] := by
  refine List.filter_eq_nil_iff.2 fun f _ haccepts => ?_
  obtain ⟨op, -, hop⟩ := accepts_iff.1 haccepts
  rw [hkey] at hop
  cases hop

theorem find?_eq_head?_filter : find? factories key = (factories.filter (·.accepts key)).head? :=
  List.head?_filter.symm

/-- Each operation is one of exactly one factory of the library. -/
theorem exists_filter_operations_eq (op : Operation) :
    ∃ f, defaults.filter (·.operations.contains op) = [f] := by
  cases op <;> exact ⟨_, rfl⟩

/-- All ways of telling the operation of a key agree. -/
theorem recognitions_agree (key : String) :
    (∀ op op', isKeyOf op key = true → isKeyOf op' key = true → op = op') ∧
    (∀ op, Operation.ofKey? key = some op →
      parse key = parseAs op key ∧
      (∀ op', op' ≠ op → parseAs op' key = .error (.wrongOperation op' op.name)) ∧
      ∃ f, defaults.filter (·.accepts key) = [f] ∧
        defaults.filter (·.operations.contains op) = [f] ∧ find? defaults key = some f) ∧
    (Operation.ofKey? key = none →
      (∀ op, isKeyOf op key = false) ∧ (∃ e, parse key = .error e) ∧
        defaults.filter (·.accepts key) = [] ∧ find? defaults key = none) ∧
    ∀ op, isKeyOf op key = true ↔ ∃ k, parse key = .ok k ∧ k.operation = op := by
  refine ⟨fun op op' h h' => ?_, fun op hkey => ?_, fun hkey => ?_, fun op => isKeyOf_iff_parse⟩
  · exact Option.some.inj ((ofKey?_of_isKeyOf h).symm.trans (ofKey?_of_isKeyOf h'))
  · refine ⟨parse_of_ofKey? hkey, fun op' => parseAs_of_ofKey?_ne hkey, ?_⟩
    obtain ⟨f, hf⟩ := exists_filter_operations_eq op
    have haccepts : defaults.filter (·.accepts key) = [f] := (filter_accepts hkey).trans hf
    refine ⟨f, haccepts, hf, ?_⟩
    rw [find?_eq_head?_filter, haccepts]
    rfl
  · refine ⟨fun op => ?_, parse_of_ofKey?_eq_none hkey, filter_accepts_eq_nil hkey,
      find?_defaults_eq_none hkey⟩
    rw [← Bool.not_eq_true]
    intro h
    rw [ofKey?_of_isKeyOf h] at hkey
    cases hkey

end StatementFactory

end KeyedSql

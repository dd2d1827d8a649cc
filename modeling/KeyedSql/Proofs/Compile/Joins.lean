import KeyedSql.Proofs.Compile.Dispatch
import Mathlib.Data.List.Nodup

/-!
# Chains of joins

A chain goes from the table of the source through the join tables to the table of the target. Every
table offers columns to the one behind it, which meets them with columns of its own. The chain holds
exactly if as many columns meet as are offered, at each of its places; then every column is compared
with the one that is offered at its position, and every table has an alias of its own.
-/

namespace KeyedSql

open Outcome

/-! ## Aliases -/

theorem joinAlias_injective : Function.Injective joinAlias := by
  intro m n h
  have hdigits : Nat.toDigits 10 m = Nat.toDigits 10 n :=
    String.ofList_injective ((String.append_right_inj _).1 h)
  calc
    m = Nat.ofDigitChars 10 (Nat.toDigits 10 m) 0 := Nat.ofDigitChars_ten_toDigits.symm
    _ = Nat.ofDigitChars 10 (Nat.toDigits 10 n) 0 := by rw [hdigits]
    _ = n := Nat.ofDigitChars_ten_toDigits

/-- The aliases of join tables begin with a letter that no other alias begins with. -/
theorem joinAlias_ne {name : String} (h : name.toList.head? ≠ some 'j') (number : Nat) :
    joinAlias number ≠ name := by
  rintro rfl
  exact h (by rw [joinAlias, String.toList_append, List.head?_append]; rfl)

/-- The aliases behind the source: those of the join tables, numbered from `number`, and that of the
target. -/
def aliasesFrom (number count : Nat) : List String :=
  (List.range' number count).map joinAlias ++ [readAlias]

/-- The aliases of the tables of a chain in their order. -/
def chainAliases (count : Nat) : List String :=
  startAlias :: aliasesFrom 1 count

theorem aliasesFrom_succ (number count : Nat) :
    aliasesFrom number (count + 1) = joinAlias number :: aliasesFrom (number + 1) count := by
  rw [aliasesFrom, List.range'_succ]
  rfl

theorem nodup_chainAliases (count : Nat) : (chainAliases count).Nodup := by
  have hjoins : ((List.range' 1 count).map joinAlias).Nodup :=
    (List.nodup_range').map joinAlias_injective
  have hread : readAlias ∉ (List.range' 1 count).map joinAlias := by
    intro hmem
    obtain ⟨number, -, hname⟩ := List.mem_map.1 hmem
    exact joinAlias_ne (by decide) number hname
  have hstart : startAlias ∉ aliasesFrom 1 count := by
    intro hmem
    rcases List.mem_append.1 hmem with hmem | hmem
    · obtain ⟨number, -, hname⟩ := List.mem_map.1 hmem
      exact joinAlias_ne (by decide) number hname
    · exact absurd (List.mem_singleton.1 hmem) (by decide)
  refine List.nodup_cons.2 ⟨hstart, ?_⟩
  exact hjoins.append (List.nodup_singleton _) (List.disjoint_singleton.2 hread)

/-! ## Columns that meet -/

/-- The columns of some names under an alias. -/
def ColumnName.allUnder (qualifier : String) (names : List String) : List ColumnName :=
  names.map fun name => ⟨some qualifier, name⟩

/-- Lists of columns, each under an alias of its own. -/
def ColumnName.eachUnder (qualifiers : List String) (names : List (List String)) :
    List (List ColumnName) :=
  List.zipWith ColumnName.allUnder qualifiers names

namespace JoinStep

/-- The columns that meet those of the table before. -/
def meets (step : JoinStep) : List String :=
  step.sourceColumns.map (·.text)

/-- The columns that are offered to the table behind. -/
def offers (step : JoinStep) : List String :=
  step.targetColumns.map (·.text)

end JoinStep

/-- At every place as many columns meet as the table before offers. -/
def JoinSearch.Chains (search : JoinSearch) : Prop :=
  search.sourceProperties.length :: search.joins.map (·.targetColumns.length) =
    search.joins.map (·.sourceColumns.length) ++ [search.targetProperties.length]

instance (search : JoinSearch) : Decidable search.Chains :=
  inferInstanceAs (Decidable (_ = _))

theorem pairUp_eq_error_iff {place : JoinPlace} {columns previous : List ColumnName}
    {e : ConfigError} :
    pairUp place columns previous = .error e ↔
      columns.length ≠ previous.length ∧
        ConfigError.columnCountMismatch place columns.length previous.length = e := by
  unfold pairUp
  split <;> simp_all

/-! ## One join after the other -/

/-- The tables of the steps and the table at the end, which is joined as they are. -/
def joinChain (number : Nat) (previous : List ColumnName) (steps : List JoinStep)
    (place : JoinPlace) (table : String) (columns : List ColumnName) :
    Except ConfigError (List JoinedTable) := do
  let joined ← joinSteps number previous steps
  let pairs ← pairUp place columns joined.2
  return joined.1 ++ [⟨table, readAlias, pairs⟩]

section Chain

variable {number : Nat} {previous columns : List ColumnName} {step : JoinStep}
  {steps : List JoinStep} {place : JoinPlace} {table : String} {joined : List JoinedTable}

theorem joinChain_nil :
    joinChain number previous [] place table columns =
      (pairUp place columns previous).map fun pairs => [⟨table, readAlias, pairs⟩] := by
  have hend : joinChain number previous [] place table columns = do
      let pairs ← pairUp place columns previous
      return [⟨table, readAlias, pairs⟩] := rfl
  rw [hend]
  cases pairUp place columns previous <;> rfl

theorem joinChain_cons :
    joinChain number previous (step :: steps) place table columns = do
      let pairs ← pairUp (.step number step.table)
        (ColumnName.allUnder (joinAlias number) step.meets) previous
      let rest ← joinChain (number + 1) (ColumnName.allUnder (joinAlias number) step.offers) steps
        place table columns
      return ⟨step.table.text, joinAlias number, pairs⟩ :: rest := by
  simp only [joinChain, joinSteps, ColumnName.allUnder, JoinStep.meets, JoinStep.offers,
    List.map_map, Function.comp_def, bind_assoc, pure_bind, List.cons_append]

/-- A chain holds if the columns meet at its first place and the rest holds. -/
theorem joinChain_cons_eq_ok_iff :
    joinChain number previous (step :: steps) place table columns = .ok joined ↔
      ∃ rest, step.sourceColumns.length = previous.length ∧
        joinChain (number + 1) (ColumnName.allUnder (joinAlias number) step.offers) steps place
          table columns = .ok rest ∧
          ⟨step.table.text, joinAlias number,
            (ColumnName.allUnder (joinAlias number) step.meets).zip previous⟩ :: rest = joined := by
  simp only [joinChain_cons, bind_eq_ok_iff, pure_eq_ok_iff, pairUp_eq_ok_iff]
  simp [ColumnName.allUnder, JoinStep.meets]

theorem exists_joinChain_iff :
    (∃ joined, joinChain number previous steps place table columns = .ok joined) ↔
      previous.length :: steps.map (·.targetColumns.length) =
        steps.map (·.sourceColumns.length) ++ [columns.length] := by
  induction steps generalizing number previous with
  | nil =>
    simp only [joinChain_nil, map_eq_ok_iff, pairUp_eq_ok_iff]
    simp [eq_comm]
  | cons step steps ih =>
    have hlength : (ColumnName.allUnder (joinAlias number) step.offers).length =
        step.targetColumns.length := by
      simp [ColumnName.allUnder, JoinStep.offers]
    have hrest := @ih (number + 1) (ColumnName.allUnder (joinAlias number) step.offers)
    rw [hlength] at hrest
    rw [List.map_cons, List.map_cons, List.cons_append, List.cons.injEq, ← hrest]
    simp only [joinChain_cons_eq_ok_iff]
    constructor
    · rintro ⟨_, rest, hmeets, hrest, rfl⟩
      exact ⟨hmeets.symm, rest, hrest⟩
    · rintro ⟨hmeets, rest, hrest⟩
      exact ⟨_, rest, hmeets.symm, hrest, rfl⟩

theorem exists_mismatch_of_joinChain {e : ConfigError}
    (h : joinChain number previous steps place table columns = .error e) :
    ∃ place k m, k ≠ m ∧ e = .columnCountMismatch place k m := by
  induction steps generalizing number previous with
  | nil =>
    rw [joinChain_nil, map_eq_error_iff, pairUp_eq_error_iff] at h
    obtain ⟨hne, rfl⟩ := h
    exact ⟨_, _, _, hne, rfl⟩
  | cons step steps ih =>
    rw [joinChain_cons] at h
    rcases bind_eq_error_iff.1 h with hpairs | ⟨pairs, -, h⟩
    · obtain ⟨hne, rfl⟩ := pairUp_eq_error_iff.1 hpairs
      exact ⟨_, _, _, hne, rfl⟩
    · rcases bind_eq_error_iff.1 h with hrest | ⟨rest, -, h⟩
      · exact ih hrest
      · cases h

end Chain

/-! ## What is joined -/

/-- The tables are joined in their order under the aliases, each on as many columns as the table
before offers, position by position. -/
structure JoinsInOrder (joined : List JoinedTable) (start : String) (aliases tables : List String)
    (meets offers : List (List String)) : Prop where
  table_eq : joined.map (·.table) = tables
  qualifier_eq : joined.map (·.qualifier) = aliases
  own_eq : joined.map (fun t => t.pairs.map (·.1)) = ColumnName.eachUnder aliases meets
  previous_eq : joined.map (fun t => t.pairs.map (·.2)) =
    ColumnName.eachUnder (start :: aliases) offers

namespace JoinsInOrder

variable {joined : List JoinedTable} {start qualifier table : String}
  {aliases tables names previous : List String} {meets offers : List (List String)}

theorem nil : JoinsInOrder [] start [] [] [] [] :=
  ⟨rfl, rfl, rfl, rfl⟩

theorem cons (h : JoinsInOrder joined qualifier aliases tables meets offers)
    (hlength : names.length = previous.length) :
    JoinsInOrder (⟨table, qualifier, (ColumnName.allUnder qualifier names).zip
      (ColumnName.allUnder start previous)⟩ :: joined) start (qualifier :: aliases)
        (table :: tables) (names :: meets) (previous :: offers) := by
  have hunder : (ColumnName.allUnder qualifier names).length =
      (ColumnName.allUnder start previous).length := by
    simpa [ColumnName.allUnder] using hlength
  refine ⟨?_, ?_, ?_, ?_⟩
  · rw [List.map_cons, h.table_eq]
  · rw [List.map_cons, h.qualifier_eq]
  · rw [List.map_cons, h.own_eq, List.map_fst_zip (Nat.le_of_eq hunder)]
    rfl
  · rw [List.map_cons, h.previous_eq, List.map_snd_zip (Nat.le_of_eq hunder.symm)]
    rfl

end JoinsInOrder

theorem joinsInOrder_of_joinChain {number : Nat} {start table : String} {place : JoinPlace}
    {previous last : List String} {steps : List JoinStep} {joined : List JoinedTable}
    (h : joinChain number (ColumnName.allUnder start previous) steps place table
      (ColumnName.allUnder readAlias last) = .ok joined) :
    JoinsInOrder joined start (aliasesFrom number steps.length)
      (steps.map (·.table.text) ++ [table]) (steps.map (·.meets) ++ [last])
        (previous :: steps.map (·.offers)) := by
  -- The table of a step stands before the rest of the chain, so its alias and the columns that it
  -- offers take the place of `start` and `previous` there.
  induction steps generalizing number start previous joined with
  | nil =>
    simp only [joinChain_nil, map_eq_ok_iff, pairUp_eq_ok_iff] at h
    obtain ⟨_, ⟨hlength, rfl⟩, rfl⟩ := h
    exact JoinsInOrder.nil.cons (by simpa [ColumnName.allUnder] using hlength)
  | cons step steps ih =>
    obtain ⟨rest, hlength, hrest, rfl⟩ := joinChain_cons_eq_ok_iff.1 h
    rw [List.length_cons, aliasesFrom_succ]
    exact (ih hrest).cons (by simpa [ColumnName.allUnder, JoinStep.meets] using hlength)

/-! ## Whole chains -/

namespace Registry

variable {r : Registry} {target source : Component} {search : JoinSearch}
  {sourceTable targetTable : String} {start last : List MappedColumn}

theorem pathColumns_eq_ok_of_mapM {type : ComponentType} {paths : List PropertyPath}
    {columns : List MappedColumn} (qualifier : String)
    (h : paths.mapM (r.columnAt type) = .ok columns) :
    r.pathColumns type qualifier paths =
      .ok (ColumnName.allUnder qualifier (columns.map (·.name))) := by
  refine mapM_return_eq_ok_iff.2 ⟨columns, h, ?_⟩
  rw [ColumnName.allUnder, List.map_map]
  refine zipWith_eq_map_right (fun _ _ => ?_) (length_eq_of_mapM_eq_ok h)
  rfl

theorem joinSource_eq_joinChain (hsource : r.find? search.source = some source)
    (hsourceTable : source.tableName = .ok sourceTable)
    (htargetTable : target.tableName = .ok targetTable)
    (hstart : search.sourceProperties.mapM (r.columnAt search.source) = .ok start)
    (hlast : search.targetProperties.mapM (r.columnAt target.name) = .ok last) :
    r.joinSource target search =
      (joinChain 1 (ColumnName.allUnder startAlias (start.map (·.name))) search.joins
        (.target target.name) targetTable
          (ColumnName.allUnder readAlias (last.map (·.name)))).map
            fun joined => ⟨sourceTable, startAlias, joined⟩ := by
  simp only [joinSource, joinChain, component_eq_ok_iff.2 hsource, hsourceTable, htargetTable,
    pathColumns_eq_ok_of_mapM _ hstart, pathColumns_eq_ok_of_mapM _ hlast, bind, Except.bind]
  cases joinSteps 1 (ColumnName.allUnder startAlias (start.map (·.name))) search.joins with
  | error e => rfl
  | ok joined =>
    dsimp only
    cases pairUp (.target target.name) (ColumnName.allUnder readAlias (last.map (·.name)))
      joined.2 <;> rfl

/-- A chain of joins is built exactly if as many columns meet at each place as are offered. -/
theorem joinSource_exact (hsource : r.find? search.source = some source)
    (hsourceTable : source.tableName = .ok sourceTable)
    (htargetTable : target.tableName = .ok targetTable)
    (hstart : search.sourceProperties.mapM (r.columnAt search.source) = .ok start)
    (hlast : search.targetProperties.mapM (r.columnAt target.name) = .ok last) :
    ((∃ s, r.joinSource target search = .ok s) ↔ search.Chains) ∧
      (¬ search.Chains → ∃ place columns previous, columns ≠ previous ∧
        r.joinSource target search = .error (.columnCountMismatch place columns previous)) ∧
      (chainAliases search.joins.length).Nodup ∧
      ∀ s, r.joinSource target search = .ok s →
        s.table = sourceTable ∧ s.qualifier = startAlias ∧
        JoinsInOrder s.joins startAlias (aliasesFrom 1 search.joins.length)
          (search.joins.map (·.table.text) ++ [targetTable])
          (search.joins.map (·.meets) ++ [last.map (·.name)])
          (start.map (·.name) :: search.joins.map (·.offers)) ∧
        s.text = " ".intercalate ((sourceTable ++ " " ++ startAlias) :: s.joins.map fun t =>
          "INNER JOIN " ++ t.table ++ " " ++ t.qualifier ++ " ON " ++
            " AND ".intercalate (t.pairs.map fun p => p.1.text ++ " = " ++ p.2.text)) := by
  have hchains : search.Chains ↔
      ∃ joined, joinChain 1 (ColumnName.allUnder startAlias (start.map (·.name))) search.joins
        (.target target.name) targetTable (ColumnName.allUnder readAlias (last.map (·.name))) =
          .ok joined := by
    rw [exists_joinChain_iff, JoinSearch.Chains, ← length_eq_of_mapM_eq_ok hstart,
      ← length_eq_of_mapM_eq_ok hlast]
    simp only [ColumnName.allUnder, List.length_map]
  rw [joinSource_eq_joinChain hsource hsourceTable htargetTable hstart hlast, hchains]
  simp only [map_eq_ok_iff, map_eq_error_iff]
  refine ⟨⟨?_, ?_⟩, ?_, nodup_chainAliases _, ?_⟩
  · rintro ⟨_, joined, hjoined, -⟩
    exact ⟨joined, hjoined⟩
  · rintro ⟨joined, hjoined⟩
    exact ⟨_, joined, hjoined, rfl⟩
  · intro hbroken
    rw [exists_eq_ok_iff, not_not] at hbroken
    obtain ⟨e, he⟩ := hbroken
    obtain ⟨place, columns, previous, hne, rfl⟩ := exists_mismatch_of_joinChain he
    exact ⟨place, columns, previous, hne, he⟩
  · rintro s ⟨joined, hjoined, rfl⟩
    exact ⟨rfl, rfl, joinsInOrder_of_joinChain hjoined, rfl⟩

end Registry

/-- Wagons and those that are coupled two places behind them. The table of couplings is joined
twice, and the chain ends in the table where it begins. -/
def JoinSearch.couplings : JoinSearch :=
  let id : PropertyPath := .ofIdentifier ⟨"id", by decide⟩
  let coupling : JoinStep :=
    ⟨⟨"COUPLING", by decide⟩, [⟨"FRONT", by decide⟩], [⟨"BACK", by decide⟩]⟩
  ⟨Component.wagon.name, [id], [id], [coupling, coupling]⟩

theorem Registry.joinSource_exact_couplings :
    JoinSearch.couplings.Chains ∧
      ∃ s, Environment.railway.registry.joinSource .wagon .couplings = .ok s ∧
        s.text = "WAGON s INNER JOIN COUPLING j1 ON j1.FRONT = s.ID " ++
          "INNER JOIN COUPLING j2 ON j2.FRONT = j1.BACK INNER JOIN WAGON t ON t.ID = j2.BACK" ∧
        JoinsInOrder s.joins "s" ["j1", "j2", "t"] ["COUPLING", "COUPLING", "WAGON"]
          [["FRONT"], ["FRONT"], ["ID"]] [["ID"], ["BACK"], ["BACK"]] := by
  have hnames : (JoinSearch.couplings.sourceProperties.mapM
      (Environment.railway.registry.columnAt Component.wagon.name)).map (·.map (·.name)) =
        .ok ["ID"] := by
    decide +kernel
  obtain ⟨columns, hcolumns, hcolumn⟩ := map_eq_ok_iff.1 hnames
  have hsource : Environment.railway.registry.find? JoinSearch.couplings.source = some .wagon := by
    decide
  have htable : Component.wagon.tableName = .ok "WAGON" := by decide
  have hexact := Registry.joinSource_exact hsource htable htable hcolumns hcolumns
  have htext : (Environment.railway.registry.joinSource .wagon .couplings).map (·.text) =
      .ok ("WAGON s INNER JOIN COUPLING j1 ON j1.FRONT = s.ID " ++
        "INNER JOIN COUPLING j2 ON j2.FRONT = j1.BACK INNER JOIN WAGON t ON t.ID = j2.BACK") := by
    decide +kernel
  obtain ⟨s, hs, htext⟩ := map_eq_ok_iff.1 htext
  obtain ⟨-, -, horder, -⟩ := hexact.2.2.2 s hs
  rw [hcolumn] at horder
  exact ⟨by decide, s, hs, htext, horder⟩

end KeyedSql

import KeyedSql.Proofs.Compile.Generators
import KeyedSql.Session
import Mathlib.Algebra.Ring.Nat
import Mathlib.Data.List.Nodup

/-!
# Keys of whole runs

A run is any sequence of compilations and draws over one environment. Each step keeps that the
statements are those that their keys compile to, and that the keys drawn from a generator so far are
its first keys in order, whichever statements they were drawn for and whatever happened in between.

Generators are told apart by the instance: one that is registered by two names is counted once, for
the statements that ask for either. Which instance a statement draws from can be seen from its key.
-/

namespace KeyedSql

open Outcome

/-! ## Counting keys -/

/-- Every key is the integer of its place, wrapped to signed 64 bits, and the first `2 ^ 64` keys
differ from each other. -/
structure CountsFrom (first : Int64) (keys : List KeyValue) : Prop where
  key_eq : ∀ (k : Nat) (key : KeyValue), keys[k]? = some key →
    ∃ value : Int64, key = .int value ∧ value.toInt = (first.toInt + k).bmod (2 ^ 64)
  nodup_take : (keys.take (2 ^ 64)).Nodup

theorem toInt_add_ofNat (first : Int64) (k : Nat) :
    (first + Int64.ofNat k).toInt = (first.toInt + k).bmod (2 ^ 64) := by
  rw [Int64.toInt_add, Int64.toInt_ofNat']
  exact Int.add_bmod_bmod

theorem eq_of_add_ofNat_eq {first : Int64} {i j : Nat} (hi : i < 2 ^ 64) (hj : j < 2 ^ 64)
    (h : first + Int64.ofNat i = first + Int64.ofNat j) : i = j := by
  have hbits := congrArg Int64.toBitVec ((Int64.add_right_inj first).1 h)
  rw [Int64.toBitVec_ofNat', Int64.toBitVec_ofNat'] at hbits
  have hmod := congrArg BitVec.toNat hbits
  rwa [BitVec.toNat_ofNat, BitVec.toNat_ofNat, Nat.mod_eq_of_lt hi, Nat.mod_eq_of_lt hj] at hmod

theorem countsFrom_map_key (first : Int64) (n : Nat) :
    CountsFrom first ((List.range n).map (KeySource.counting first).key) where
  key_eq k key hkey := by
    obtain ⟨i, hi, rfl⟩ := Option.map_eq_some_iff.1 (List.getElem?_map ▸ hkey)
    obtain ⟨-, rfl⟩ := List.getElem?_eq_some_iff.1 hi
    rw [List.getElem_range]
    exact ⟨_, rfl, toInt_add_ofNat first k⟩
  nodup_take := by
    rw [← List.map_take, List.take_range]
    refine List.Nodup.map_on (fun i hi j hj h => ?_) List.nodup_range
    have hbound : ∀ i ∈ List.range (min (2 ^ 64) n), i < 2 ^ 64 := fun i hi =>
      Nat.lt_of_lt_of_le (List.mem_range.1 hi) (Nat.min_le_left ..)
    exact eq_of_add_ofNat_eq (hbound i hi) (hbound j hj) (KeyValue.int.inj h)

namespace Session

variable {env : Environment} {s : Session}

/-- A key that was drawn for a statement. -/
structure Draw where
  /-- The number of the statement. -/
  number : Nat
  key : KeyValue

/-- The sessions that compilations and draws lead to, with the draws in their order. Compilations
may succeed or fail; a draw is made for a statement that has a generator. -/
inductive Run (env : Environment) : List Draw → Session → Prop where
  | start : Run env [] (.start env StatementFactory.defaults)
  | compile {draws : List Draw} {s : Session} (hrun : Run env draws s) (key : String) :
      Run env draws (s.compile key).2
  | draw {draws : List Draw} {s : Session} {number : Nat} {g : GeneratorInstance × KeyGenerator}
      (hrun : Run env draws s) (hg : s.generatorOf? number = some g) :
      Run env (draws ++ [⟨number, (s.draw g).1⟩]) (s.draw g).2

/-- What a statement of the session asks for, as its key says. -/
def generatorRef? (s : Session) (number : Nat) : Option GeneratorRef := do
  let statement ← s.statements[number]?
  let key ← (StatementKey.ofText statement.id).toOption
  s.environment.generatorRef? key

/-- The generator that is drawn from for a statement of the session. -/
def instanceOf? (s : Session) (number : Nat) : Option GeneratorInstance :=
  (s.generatorOf? number).map (·.1)

/-- The keys that were drawn from a generator, in their order. -/
def keysFrom (s : Session) (draws : List Draw) (i : GeneratorInstance) : List KeyValue :=
  (draws.filter fun d => s.instanceOf? d.number = some i).map (·.key)

/-- What every step of a run keeps. -/
structure Inv (env : Environment) (draws : List Draw) (s : Session) : Prop where
  environment_eq : s.environment = env
  factories_eq : s.factories = StatementFactory.defaults
  compiled : ∀ statement ∈ s.statements,
    StatementFactory.dispatch StatementFactory.defaults env statement.id = .ok statement
  drawn : ∀ d ∈ draws, ∃ g, s.generatorOf? d.number = some g
  /-- Where all statements know an instance as one generator, its keys were drawn in order. -/
  keysFrom_eq : ∀ i g, (∀ number g', s.generatorOf? number = some (i, g') → g' = g) →
    s.keysFrom draws i = (List.range (s.draws.count i)).map g.key

/-! ## Generators of statements -/

theorem generatorOf?_eq_some_iff {number : Nat} {i : GeneratorInstance} {g : KeyGenerator} :
    s.generatorOf? number = some (i, g) ↔
      ∃ statement held, s.statements[number]? = some statement ∧
        statement.generator? = some held ∧ held.instanceFor number = i ∧ held.generator = g := by
  unfold generatorOf? Statement.generator?
  cases s.statements[number]? with
  | none => simp
  | some statement =>
    cases hgenerated : statement.generatedKey with
    | none => simp [hgenerated]
    | some generated => simp [hgenerated]

theorem generator_eq_of_shared {number : Nat} {shared : SharedGenerator} {g : KeyGenerator}
    (hg : s.generatorOf? number = some (.shared shared, g)) : g = shared.generator := by
  obtain ⟨statement, held, -, -, hinstance, rfl⟩ := generatorOf?_eq_some_iff.1 hg
  cases held with
  | new => cases hinstance
  | shared shared =>
    cases hinstance
    rfl

/-- No other statement draws from a generator that was built for a statement. -/
theorem number_eq_of_statement {number number' : Nat} {g : KeyGenerator}
    (hg : s.generatorOf? number' = some (.statement number, g)) : number' = number := by
  obtain ⟨statement, held, -, -, hinstance, -⟩ := generatorOf?_eq_some_iff.1 hg
  cases held with
  | new => exact GeneratorInstance.statement.inj hinstance
  | shared => cases hinstance

/-- Statements that draw from one instance know it as one generator. -/
theorem generator_unique {number number' : Nat} {i : GeneratorInstance} {g g' : KeyGenerator}
    (hg : s.generatorOf? number = some (i, g)) (hg' : s.generatorOf? number' = some (i, g')) :
    g' = g := by
  cases i with
  | shared shared => rw [generator_eq_of_shared hg, generator_eq_of_shared hg']
  | statement n =>
    obtain rfl := number_eq_of_statement hg
    obtain rfl := number_eq_of_statement hg'
    exact (Prod.mk.inj (Option.some.inj (hg'.symm.trans hg))).2

/-- What the statements of a session have is what their keys ask for. -/
theorem Inv.grants {draws : List Draw} (h : Inv env draws s) {number : Nat} {statement : Statement}
    (hstatement : s.statements[number]? = some statement) :
    env.Grants (s.generatorRef? number) statement.generator? := by
  obtain ⟨k, hwf, htext, hcompiled⟩ := StatementFactory.dispatch_defaults_eq_ok_iff.1
    (h.compiled statement (List.mem_of_getElem? hstatement))
  have hread := StatementKey.ofText_eq_ok_iff.2 ⟨hwf, htext⟩
  have href : s.generatorRef? number = env.generatorRef? k := by
    unfold generatorRef?
    rw [hstatement, h.environment_eq]
    simp [hread, Except.toOption]
  rw [href]
  exact (Environment.grants_of_statementOf hcompiled).2

/-- A statement was given its generator by a name or by a class. -/
theorem Inv.generator_cases {draws : List Draw} (h : Inv env draws s) {number : Nat}
    {i : GeneratorInstance} {g : KeyGenerator} (hg : s.generatorOf? number = some (i, g)) :
    (∃ id named, s.generatorRef? number = some (.named id) ∧ env.generator? id = some named ∧
      i = .shared named.toSharedGenerator ∧ g = named.generator) ∨
    ∃ name c site held, s.generatorRef? number = some (.ofClass name) ∧
      GeneratorClass.find? env.classes name = some c ∧ c.build site = .ok held ∧
        i = held.instanceFor number ∧ g = held.generator := by
  obtain ⟨statement, held, hstatement, hgenerator, rfl, rfl⟩ := generatorOf?_eq_some_iff.1 hg
  have hgrants := h.grants hstatement
  rw [hgenerator] at hgrants
  generalize href : s.generatorRef? number = ref at hgrants
  cases hgrants with
  | named hnamed => exact .inl ⟨_, _, rfl, hnamed, rfl, rfl⟩
  | ofClass hclass hbuild => exact .inr ⟨_, _, _, _, rfl, hclass, hbuild, rfl, rfl⟩

theorem Inv.exists_generator {draws : List Draw} (h : Inv env draws s) {number : Nat}
    {ref : GeneratorRef} (href : s.generatorRef? number = some ref) :
    ∃ i g, s.generatorOf? number = some (i, g) := by
  cases hstatement : s.statements[number]? with
  | none => simp [generatorRef?, hstatement] at href
  | some statement =>
    have hgrants := h.grants hstatement
    rw [href] at hgrants
    generalize hgenerator : statement.generator? = generator at hgrants
    cases hgrants with
    | named => exact ⟨_, _, generatorOf?_eq_some_iff.2 ⟨_, _, hstatement, hgenerator, rfl, rfl⟩⟩
    | ofClass => exact ⟨_, _, generatorOf?_eq_some_iff.2 ⟨_, _, hstatement, hgenerator, rfl, rfl⟩⟩

/-! ## Compilations -/

/-- A compilation keeps a statement, or changes nothing. -/
theorem compile_cases (s : Session) (key : String) :
    (∃ statement, StatementFactory.dispatch s.factories s.environment key = .ok statement ∧
      (s.compile key).2 = { s with statements := s.statements ++ [statement] }) ∨
      (s.compile key).2 = s := by
  unfold compile
  cases h : StatementFactory.dispatch s.factories s.environment key with
  | ok statement => exact .inl ⟨statement, rfl, rfl⟩
  | error e => exact .inr rfl

/-- A compilation leaves the generators of all statements as they are. -/
theorem generatorOf?_compile {number : Nat} {g : GeneratorInstance × KeyGenerator}
    (hg : s.generatorOf? number = some g) (key : String) :
    (s.compile key).2.generatorOf? number = some g := by
  rcases compile_cases s key with ⟨statement, -, h⟩ | h
  · obtain ⟨kept, held, hkept, hheld⟩ := generatorOf?_eq_some_iff.1 hg
    obtain ⟨hlt, -⟩ := List.getElem?_eq_some_iff.1 hkept
    have hkept' : (s.statements ++ [statement])[number]? = some kept := by
      rwa [List.getElem?_append_left hlt]
    rw [h]
    exact generatorOf?_eq_some_iff.2 ⟨kept, held, hkept', hheld⟩
  · rw [h]
    exact hg

theorem environment_compile (s : Session) (key : String) :
    (s.compile key).2.environment = s.environment := by
  rcases compile_cases s key with ⟨statement, -, h⟩ | h <;> rw [h]

theorem factories_compile (s : Session) (key : String) :
    (s.compile key).2.factories = s.factories := by
  rcases compile_cases s key with ⟨statement, -, h⟩ | h <;> rw [h]

/-- A compilation draws nothing. -/
theorem draws_compile (s : Session) (key : String) : (s.compile key).2.draws = s.draws := by
  rcases compile_cases s key with ⟨statement, -, h⟩ | h <;> rw [h]

theorem keysFrom_compile {draws : List Draw}
    (hdrawn : ∀ d ∈ draws, ∃ g, s.generatorOf? d.number = some g) (key : String)
    (i : GeneratorInstance) : (s.compile key).2.keysFrom draws i = s.keysFrom draws i := by
  unfold keysFrom
  refine congrArg (List.map _) (List.filter_congr fun d hd => ?_)
  obtain ⟨g, hg⟩ := hdrawn d hd
  rw [instanceOf?, instanceOf?, hg, generatorOf?_compile hg]

/-! ## Draws -/

theorem generatorOf?_draw {number : Nat} {g : GeneratorInstance × KeyGenerator} :
    (s.draw g).2.generatorOf? number = s.generatorOf? number :=
  rfl

theorem generatorRef?_draw {number : Nat} {g : GeneratorInstance × KeyGenerator} :
    (s.draw g).2.generatorRef? number = s.generatorRef? number :=
  rfl

theorem keysFrom_draw {draws : List Draw} {number : Nat} {g : GeneratorInstance × KeyGenerator}
    (hg : s.generatorOf? number = some g) (key : KeyValue) (i : GeneratorInstance) :
    (s.draw g).2.keysFrom (draws ++ [⟨number, key⟩]) i =
      s.keysFrom draws i ++ if g.1 = i then [key] else [] := by
  have hinstance : ∀ n, (s.draw g).2.instanceOf? n = s.instanceOf? n := fun _ => rfl
  have hown : s.instanceOf? number = some g.1 := by rw [instanceOf?, hg]; rfl
  unfold keysFrom
  simp only [hinstance, List.filter_append, List.map_append, List.filter_singleton, hown,
    Option.some.injEq]
  by_cases hi : g.1 = i <;> simp [hi]

/-! ## The invariant -/

theorem Inv.start : Inv env [] (.start env StatementFactory.defaults) where
  environment_eq := rfl
  factories_eq := rfl
  compiled _ hstatement := absurd hstatement List.not_mem_nil
  drawn _ hd := absurd hd List.not_mem_nil
  keysFrom_eq _ _ _ := rfl

theorem Inv.compile {draws : List Draw} (h : Inv env draws s) (key : String) :
    Inv env draws (s.compile key).2 where
  environment_eq := (environment_compile s key).trans h.environment_eq
  factories_eq := (factories_compile s key).trans h.factories_eq
  compiled := by
    rcases compile_cases s key with ⟨statement, hstatement, h'⟩ | h'
    · rw [h.factories_eq, h.environment_eq] at hstatement
      rw [h']
      refine List.forall_mem_append.2 ⟨h.compiled, List.forall_mem_singleton.2 ?_⟩
      rwa [StatementFactory.id_of_dispatch hstatement]
    · rw [h']
      exact h.compiled
  drawn d hd := by
    obtain ⟨g, hg⟩ := h.drawn d hd
    exact ⟨g, generatorOf?_compile hg key⟩
  keysFrom_eq i g hunique := by
    rw [keysFrom_compile h.drawn, draws_compile]
    exact h.keysFrom_eq i g fun number g' hg => hunique number g' (generatorOf?_compile hg key)

/-- A draw takes the key that comes after all those drawn from its generator before. -/
theorem Inv.draw {draws : List Draw} (h : Inv env draws s) {number : Nat}
    {g : GeneratorInstance × KeyGenerator} (hg : s.generatorOf? number = some g) :
    Inv env (draws ++ [⟨number, (s.draw g).1⟩]) (s.draw g).2 where
  environment_eq := h.environment_eq
  factories_eq := h.factories_eq
  compiled := h.compiled
  drawn := List.forall_mem_append.2 ⟨h.drawn, List.forall_mem_singleton.2 ⟨g, hg⟩⟩
  keysFrom_eq i gen hunique := by
    rw [keysFrom_draw hg, h.keysFrom_eq i gen hunique, Session.draw]
    by_cases hi : g.1 = i
    · have hgen : g.2 = gen := hunique number g.2 (hi ▸ hg)
      rw [if_pos hi, hi, List.count_cons_self, List.range_succ, List.map_append, hgen]
      rfl
    · rw [if_neg hi, List.append_nil, List.count_cons_of_ne hi]

theorem Run.inv {draws : List Draw} (hrun : Run env draws s) : Inv env draws s := by
  induction hrun with
  | start => exact .start
  | compile hrun key ih => exact ih.compile key
  | draw hrun hg ih => exact ih.draw hg

/-! ## Keys -/

section Keys

variable {draws : List Draw} {number : Nat}

theorem Inv.generatorOf?_of_named (h : Inv env draws s) {id : String} {named : NamedGenerator}
    (hnamed : env.generator? id = some named)
    (href : s.generatorRef? number = some (.named id)) :
    s.generatorOf? number = some (.shared named.toSharedGenerator, named.generator) := by
  obtain ⟨i, g, hg⟩ := h.exists_generator href
  rcases h.generator_cases hg with
    ⟨id', named', href', hnamed', rfl, rfl⟩ | ⟨name, c, site, held, href', -⟩
  · cases href.symm.trans href'
    cases hnamed.symm.trans hnamed'
    exact hg
  · cases href.symm.trans href'

/-- A shared generator was asked for by a name of it, or handed out by a class. -/
theorem Inv.source_of_shared (h : Inv env draws s) {shared : SharedGenerator}
    (hinstance : s.instanceOf? number = some (.shared shared)) :
    (∃ id named, s.generatorRef? number = some (.named id) ∧ env.generator? id = some named ∧
      named.toSharedGenerator = shared) ∨
    ∃ name c, s.generatorRef? number = some (.ofClass name) ∧
      GeneratorClass.find? env.classes name = some c ∧ c.HandsOut shared := by
  obtain ⟨⟨i, g⟩, hg, rfl⟩ := Option.map_eq_some_iff.1 hinstance
  rcases h.generator_cases hg with
    ⟨id, named, href, hnamed, hi, -⟩ | ⟨name, c, site, held, href, hclass, hbuild, hi, -⟩
  · exact .inl ⟨id, named, href, hnamed, (GeneratorInstance.shared.inj hi).symm⟩
  · cases held with
    | new => cases hi
    | shared shared =>
      cases hi
      exact .inr ⟨name, c, href, hclass, site, hbuild⟩

/-- The statements that draw from a generator of one name alone are those that ask for it. -/
theorem Inv.instanceOf?_eq_shared_iff (h : Inv env draws s) {id : String} {named : NamedGenerator}
    (hnamed : env.generator? id = some named)
    (honly : env.KnowsOnlyAs id named.toSharedGenerator) :
    s.instanceOf? number = some (.shared named.toSharedGenerator) ↔
      s.generatorRef? number = some (.named id) := by
  constructor
  · intro hinstance
    rcases h.source_of_shared hinstance with
      ⟨id', named', href, hnamed', hshared⟩ | ⟨name, c, -, hclass, hhands⟩
    · rwa [← honly.id_eq id' named' hnamed' hshared]
    · exact absurd hhands (honly.not_handsOut c (List.mem_of_find?_eq_some hclass))
  · intro href
    rw [instanceOf?, h.generatorOf?_of_named hnamed href]
    rfl

theorem Inv.generatorOf?_of_builtin (h : Inv env draws s) {name : String} {c : GeneratorClass}
    (hclass : GeneratorClass.find? env.classes name = some c) (hc : c ∈ GeneratorClass.builtins)
    (href : s.generatorRef? number = some (.ofClass name)) :
    ∃ g, g.source = .counting 1 ∧ s.generatorOf? number = some (.statement number, g) := by
  obtain ⟨i, g, hg⟩ := h.exists_generator href
  rcases h.generator_cases hg with
    ⟨id, named, href', -⟩ | ⟨name', c', site, held, href', hclass', hbuild, rfl, rfl⟩
  · cases href.symm.trans href'
  · cases href.symm.trans href'
    cases hclass.symm.trans hclass'
    obtain ⟨g, rfl, hsource⟩ := GeneratorClass.exists_new_of_build_of_mem_builtins hc hbuild
    exact ⟨g, hsource, hg⟩

theorem instanceOf?_eq_statement_iff {g : KeyGenerator}
    (hg : s.generatorOf? number = some (.statement number, g)) {number' : Nat} :
    s.instanceOf? number' = some (.statement number) ↔ number' = number := by
  constructor
  · intro hinstance
    obtain ⟨⟨i, g'⟩, hg', rfl⟩ := Option.map_eq_some_iff.1 hinstance
    exact number_eq_of_statement hg'
  · rintro rfl
    rw [instanceOf?, hg]
    rfl

theorem Inv.countsFrom (h : Inv env draws s) {i : GeneratorInstance} {g : KeyGenerator}
    {first : Int64} (hunique : ∀ number g', s.generatorOf? number = some (i, g') → g' = g)
    (hsource : g.source = .counting first) : CountsFrom first (s.keysFrom draws i) := by
  rw [h.keysFrom_eq i g hunique]
  unfold KeyGenerator.key
  rw [hsource]
  exact countsFrom_map_key first _

/-- The keys of each counting generator count from its first one, over all statements that share it.
-/
theorem countsFrom_of_run (hrun : Run env draws s) :
    -- Whatever statements draw from an instance, together they get its keys in order.
    (∀ number i g first, s.generatorOf? number = some (i, g) → g.source = .counting first →
      CountsFrom first (s.keysFrom draws i)) ∧
    -- All statements that ask for a name share what is registered by it.
    (∀ id named, env.generator? id = some named →
      (∀ number, s.generatorRef? number = some (.named id) →
        s.generatorOf? number = some (.shared named.toSharedGenerator, named.generator)) ∧
      ∀ first, named.generator.source = .counting first →
        CountsFrom first (s.keysFrom draws (.shared named.toSharedGenerator)) ∧
        (env.KnowsOnlyAs id named.toSharedGenerator → CountsFrom first
          ((draws.filter fun d => s.generatorRef? d.number = some (.named id)).map (·.key)))) ∧
    -- Who else shares it has asked for another name of it, or for a class that hands it out.
    (∀ number shared, s.instanceOf? number = some (.shared shared) →
      (∃ id named, s.generatorRef? number = some (.named id) ∧ env.generator? id = some named ∧
        named.toSharedGenerator = shared) ∨
      ∃ name c, s.generatorRef? number = some (.ofClass name) ∧
        GeneratorClass.find? env.classes name = some c ∧ c.HandsOut shared) ∧
    -- What is built by a class that is always there belongs to one statement.
    (∀ number name c, s.generatorRef? number = some (.ofClass name) →
      GeneratorClass.find? env.classes name = some c → c ∈ GeneratorClass.builtins →
        (∃ g, s.generatorOf? number = some (.statement number, g)) ∧
        (∀ number' g, s.generatorOf? number' = some (.statement number, g) → number' = number) ∧
        CountsFrom 1 ((draws.filter (·.number = number)).map (·.key))) ∧
    -- A compilation leaves every statement its generator and every generator its next key.
    ∀ key,
      (∀ number g, s.generatorOf? number = some g →
        (s.compile key).2.generatorOf? number = some g) ∧
      ∀ g, ((s.compile key).2.draw g).1 = (s.draw g).1 := by
  have h := hrun.inv
  refine ⟨fun number i g first hg hsource => ?_, fun id named hnamed => ⟨fun number =>
    h.generatorOf?_of_named hnamed, fun first hsource => ?_⟩, fun number shared =>
    h.source_of_shared, fun number name c href hclass hc => ?_, fun key => ⟨fun number g hg => ?_,
    fun g => ?_⟩⟩
  · exact h.countsFrom (fun _ _ => generator_unique hg) hsource
  · have hcounts := h.countsFrom (fun _ _ => generator_eq_of_shared) hsource
    refine ⟨hcounts, fun honly => ?_⟩
    simpa only [keysFrom, h.instanceOf?_eq_shared_iff hnamed honly] using hcounts
  · obtain ⟨g, hsource, hg⟩ := h.generatorOf?_of_builtin hclass hc href
    have hcounts := h.countsFrom (fun _ _ => generator_unique hg) hsource
    refine ⟨⟨g, hg⟩, fun _ _ => number_eq_of_statement, ?_⟩
    simpa only [keysFrom, instanceOf?_eq_statement_iff hg] using hcounts
  · exact generatorOf?_compile hg key
  · rw [Session.draw, Session.draw, draws_compile]

end Keys

end Session

/-! ## A run past the largest integer -/

/-- Tickets, whose keys come from a generator by name. -/
def Component.ticket : Component where
  name := ⟨"a.Ticket", by decide⟩
  table := some "TICKET"
  cacheLinks := []
  properties := [
    { Property.ofType "id" (.scalar .int64) with
      column := some (.ofName "ID"), identity := some ⟨some "tickets", none⟩ }]

/-- Vouchers, whose keys come from a generator by another name. -/
def Component.voucher : Component where
  name := ⟨"a.Voucher", by decide⟩
  table := some "VOUCHER"
  cacheLinks := []
  properties := [
    { Property.ofType "id" (.scalar .int64) with
      column := some (.ofName "ID"), identity := some ⟨some "vouchers", none⟩ }]

/-- Seats, each insert of which has a counter of its own. -/
def Component.seat : Component where
  name := ⟨"a.Seat", by decide⟩
  table := some "SEAT"
  cacheLinks := []
  properties := [
    { Property.ofType "id" (.scalar .int64) with
      column := some (.ofName "ID"), identity := some ⟨none, some KeyGenerator.counterClass⟩ }]

/-- A counter that is about to wrap around. -/
def SharedGenerator.lastNumber : SharedGenerator :=
  ⟨.counter Int64.maxValue, 0⟩

/-- Tickets and vouchers with one counter between them, and seats. -/
def Environment.counters : Environment :=
  ((Environment.ofRegistry ⟨[.ticket, .voucher, .seat], by decide⟩).addGenerator "tickets"
    .lastNumber).addGenerator "vouchers" .lastNumber

namespace Session

/-- A session with an insert of each. -/
def counters : Session :=
  let s := Session.start .counters StatementFactory.defaults
  (((s.compile "a.Ticket/insert").2.compile "a.Voucher/insert").2.compile "a.Seat/insert").2

/-- Keys are drawn for the ticket, the seat, the voucher and the seat again. -/
theorem countsFrom_of_run_counters :
    ∃ draws s, Run .counters draws s ∧
      s.generatorRef? 0 = some (.named "tickets") ∧ s.generatorRef? 1 = some (.named "vouchers") ∧
      s.generatorRef? 2 = some (.ofClass "counter") ∧
      draws.map (·.key) = [.int Int64.maxValue, .int 1, .int Int64.minValue, .int 2] ∧
      s.keysFrom draws (.shared .lastNumber) = [.int Int64.maxValue, .int Int64.minValue] ∧
      CountsFrom Int64.maxValue (s.keysFrom draws (.shared .lastNumber)) ∧
      CountsFrom 1 ((draws.filter (·.number = 2)).map (·.key)) := by
  have hrun : Run .counters [] counters := ((Run.start.compile _).compile _).compile _
  have hticket : counters.generatorOf? 0 = some (.shared .lastNumber, .counter Int64.maxValue) := by
    decide +kernel
  have hvoucher : counters.generatorOf? 1 =
      some (.shared .lastNumber, .counter Int64.maxValue) := by
    decide +kernel
  have hseat : counters.generatorOf? 2 = some (.statement 2, .counter 1) := by decide +kernel
  have hrefTicket : counters.generatorRef? 0 = some (.named "tickets") := by decide +kernel
  have hrefVoucher : counters.generatorRef? 1 = some (.named "vouchers") := by decide +kernel
  have hrefSeat : counters.generatorRef? 2 = some (.ofClass "counter") := by decide +kernel
  have hdrawn := hrun.draw hticket
  have hdrawn := hdrawn.draw (generatorOf?_draw.trans hseat)
  have hdrawn := hdrawn.draw (generatorOf?_draw.trans (generatorOf?_draw.trans hvoucher))
  have hdrawn := hdrawn.draw (generatorOf?_draw.trans (generatorOf?_draw.trans hseat))
  obtain ⟨hinstance, -, -, hown, -⟩ := countsFrom_of_run hdrawn
  simp only [generatorRef?_draw] at hown
  refine ⟨_, _, hdrawn, hrefTicket, hrefVoucher, hrefSeat, ?_, ?_, ?_, ?_⟩
  · decide +kernel
  · decide +kernel
  · exact hinstance 0 _ _ Int64.maxValue hticket rfl
  · exact (hown 2 "counter" .counter hrefSeat rfl (List.mem_cons_self ..)).2.2

end Session

end KeyedSql

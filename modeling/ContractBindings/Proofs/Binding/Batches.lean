import ContractBindings.Binding.Binder
import ContractBindings.Proofs.Binding.Entries
import Mathlib.Logic.Relation
import Mathlib.Order.WellFounded

/-!
# Batches of contracts

In a batch every contract has the outcome that it has alone. Neither the contracts beside it nor
the customizations for them matter, and with one task for each contract the order in which the tasks
are completed does not matter either (`bindDeployments_outcome`).

`bindConcurrently` is given that order. `TaskPool.Step` says where the order comes from: tasks are
started one by one, a task that is running may be completed at any time, and once all are started,
the outcomes that are there are collected. Every run of a pool comes to an end, and it cannot stop
before each contract has its outcome among the results (`TaskPool.results_of_run`). No task is
cancelled.
-/

namespace ContractBindings

/-! ### Maps with the same entries -/

namespace TextMap

variable {α : Type} {map other : TextMap α} {key : String} {value : α}

/-- Maps with the same entries in any order are equal. -/
theorem eq_of_perm (h : map.entries.Perm other.entries) : map = other := by
  refine ext_get? fun key => Option.ext fun value => ?_
  rw [get?_eq_some_iff, get?_eq_some_iff, h.mem_iff]

/-- The map of pairs that are the entries of a map in any order is that map. -/
theorem ofList_of_perm {pairs : List (String × α)} (h : pairs.Perm map.entries) :
    ofList pairs = map := by
  have hdistinct : pairs.Pairwise fun a b => a.1 ≠ b.1 :=
    h.symm.pairwise map.distinct_keys Ne.symm
  exact eq_of_perm ((perm_entries_ofList hdistinct).trans h)

/-- A key that is not there yet gets an entry beside the others. -/
theorem perm_insertEntry {entries : List (String × α)} (h : ∀ entry ∈ entries, entry.1 ≠ key) :
    (insertEntry key value entries).Perm ((key, value) :: entries) := by
  induction entries with
  | nil => exact .refl _
  | cons head tail ih =>
    obtain ⟨hhead, htail⟩ := List.forall_mem_cons.mp h
    rw [insertEntry]
    split
    · exact .refl _
    · rename_i hnotBelow
      have hne : head.1 < key := by
        refine Decidable.byContradiction fun hnotAbove => hhead ?_
        exact String.le_antisymm (String.not_lt.mp hnotBelow) (String.not_lt.mp hnotAbove)
      rw [if_pos hne]
      exact ((ih htail).cons head).trans (.swap _ _ _)

theorem perm_insert (h : ∀ entry ∈ map.entries, entry.1 ≠ key) :
    (map.insert key value).entries.Perm ((key, value) :: map.entries) :=
  perm_insertEntry h

@[simp]
theorem keys_map {β : Type} (f : String → α → β) (m : TextMap α) : (m.map f).keys = m.keys := by
  rw [keys, map, List.map_map]
  rfl

end TextMap

/-! ### Configurations -/

section Configurations

variable {config other : BindConfig} {name : String}

/-- Configurations that **agree on a contract**: they differ in the customizations of other
contracts at most. -/
structure BindConfig.AgreesOn (config other : BindConfig) (name : String) : Prop where
  /-- The languages are the same. -/
  language : config.language = other.language
  /-- The platforms are the same. -/
  platform : config.platform = other.platform
  /-- The contract's own customizations are the same. -/
  own : config.customs.get? name = other.customs.get? name
  /-- The customizations for every contract are the same. -/
  shared : config.customs.get? BindConfig.defaultName = other.customs.get? BindConfig.defaultName

/-- The customizations in effect for a contract are made from its own and those for every one. -/
theorem BindConfig.AgreesOn.customsFor (h : config.AgreesOn other name) :
    config.customsFor name = other.customsFor name := by
  rw [BindConfig.customsFor, BindConfig.customsFor, h.own, h.shared]

theorem BindConfig.validate_eq_ok_iff : config.validate = .ok () ↔ config.fault? = none := by
  rw [validate]
  cases config.fault? <;> simp

/-- A configuration makes a binder unless it is refused. -/
theorem Binder.ofConfig_eq_error_iff {fault : BindError} :
    Binder.ofConfig config = .error fault ↔ config.validate = .error fault := by
  rw [ofConfig]
  split
  · rename_i hvalid
    simp [BindConfig.validate_eq_ok_iff.mpr hvalid]
  · rename_i cause hfault
    rw [BindConfig.validate, hfault]
    simp

theorem Binder.ofConfig_eq_ok_iff {binder : Binder} :
    Binder.ofConfig config = .ok binder ↔ binder.config = config := by
  rw [ofConfig]
  split
  · rename_i hvalid
    rw [Except.ok.injEq]
    constructor
    · rintro rfl
      rfl
    · rintro rfl
      rfl
  · rename_i fault hfault
    refine iff_of_false (fun h => nomatch h) ?_
    rintro rfl
    rw [binder.valid] at hfault
    cases hfault

/-- **A contract is bound alone**: binding looks at the configuration only for the language, the
platform and the customizations in effect for the contract. -/
theorem Binder.bind_congr {binder second : Binder} (h : binder.config.AgreesOn second.config name)
    (deployment : Deployment) : binder.bind name deployment = second.bind name deployment := by
  simp only [bind, assemble, h.language, h.platform, h.customsFor]

end Configurations

/-! ### Task pools -/

/-- **Pool of tasks** that bind the contracts of a batch. -/
structure TaskPool where
  /-- The contracts that have no task yet, in the order in which they get one. -/
  waiting : List (String × Deployment)
  /-- The tasks that have been started and not been completed. -/
  running : List (String × Deployment)
  /-- The outcomes of completed tasks that have not been collected. -/
  completed : List (String × Except BindError ContractModel)
  /-- The results collected so far. -/
  results : BindResults

namespace TaskPool

/-- The pool at the start of a batch. -/
def start (deployments : TextMap Deployment) : TaskPool :=
  ⟨deployments.entries, [], [], .empty⟩

/-- What a task gives: the outcome for its contract under the contract's name. -/
def outcome (binder : Binder) (task : String × Deployment) :
    String × Except BindError ContractModel :=
  (task.1, binder.bind task.1 task.2)

/-- **Step** of a pool. Nothing says which of several possible steps comes next. -/
inductive Step (binder : Binder) : TaskPool → TaskPool → Prop where
  /-- The next contract gets a task. -/
  | start {task : String × Deployment} {waiting running completed results} :
      Step binder ⟨task :: waiting, running, completed, results⟩
        ⟨waiting, task :: running, completed, results⟩
  /-- Any of the running tasks is completed. -/
  | complete (before : List (String × Deployment)) {task after waiting completed results} :
      Step binder ⟨waiting, before ++ task :: after, completed, results⟩
        ⟨waiting, before ++ after, outcome binder task :: completed, results⟩
  /-- When all tasks are started, any of the outcomes that are there is collected. -/
  | collect (before : List (String × Except BindError ContractModel))
      {entry after running results} :
      Step binder ⟨[], running, before ++ entry :: after, results⟩
        ⟨[], running, before ++ after, results.insert entry.1 entry.2⟩

section Pools

variable {binder : Binder} {deployments : TextMap Deployment} {pool next : TaskPool}

/-- The results that a pool has and those that it is going to have. -/
def expected (binder : Binder) (pool : TaskPool) : List (String × Except BindError ContractModel) :=
  pool.results.entries ++ (pool.completed ++ (pool.running ++ pool.waiting).map (outcome binder))

/-- **Invariant** of a pool: each contract of the batch waits, runs, is completed or is among the
results, and nowhere else. -/
def Accounts (binder : Binder) (deployments : TextMap Deployment) (pool : TaskPool) : Prop :=
  (pool.expected binder).Perm (deployments.map binder.bind).entries

theorem accounts_start : (start deployments).Accounts binder deployments := .refl _

/-- An outcome that is there to be collected is the first one for its contract. -/
theorem Accounts.key_ne {running waiting : List (String × Deployment)}
    {entry : String × Except BindError ContractModel} {before after results}
    (h : Accounts binder deployments ⟨waiting, running, before ++ entry :: after, results⟩) :
    ∀ other ∈ results.entries, other.1 ≠ entry.1 := by
  have hdistinct := h.symm.pairwise (deployments.map binder.bind).distinct_keys Ne.symm
  have hentry : entry ∈ before ++ entry :: after := List.mem_append_right before List.mem_cons_self
  intro other hother
  exact (List.pairwise_append.mp hdistinct).2.2 other hother entry (List.mem_append_left _ hentry)

/-- **A step keeps the invariant**: it moves one contract to its next place. -/
theorem Accounts.step (h : pool.Accounts binder deployments) (hstep : Step binder pool next) :
    next.Accounts binder deployments := by
  refine .trans ?_ h
  cases hstep with
  | start =>
    refine .append_left _ (.append_left _ (.map _ ?_))
    exact List.perm_middle.symm
  | complete =>
    refine .append_left _ ?_
    simp only [List.cons_append, List.append_assoc, List.map_append, List.map_cons]
    refine List.perm_middle.symm.trans (.append_left _ ?_)
    exact List.perm_middle.symm
  | @collect _ entry _ _ results =>
    have hfirst : (results.insert entry.1 entry.2).entries.Perm (entry :: results.entries) :=
      TextMap.perm_insert h.key_ne
    refine (List.Perm.append_right _ hfirst).trans ?_
    simp only [expected, List.append_assoc, List.cons_append]
    refine List.perm_middle.symm.trans (.append_left _ ?_)
    exact List.perm_middle.symm

theorem Accounts.run (h : pool.Accounts binder deployments)
    (hrun : Relation.ReflTransGen (Step binder) pool next) : next.Accounts binder deployments := by
  induction hrun with
  | refl => exact h
  | tail _ hstep ih => exact ih.step hstep

/-- The number of steps that are left to a pool. -/
def stepsLeft (pool : TaskPool) : ℕ :=
  3 * pool.waiting.length + 2 * pool.running.length + pool.completed.length

theorem stepsLeft_of_step (h : Step binder pool next) : pool.stepsLeft = next.stepsLeft + 1 := by
  cases h <;> simp only [stepsLeft, List.length_cons, List.length_append, List.length_nil] <;> omega

/-- Every run of a pool comes to an end. -/
theorem wellFounded_step (binder : Binder) :
    WellFounded fun next pool => Step binder pool next := by
  refine Subrelation.wf (fun {next pool} hstep => ?_) (InvImage.wf stepsLeft Nat.lt_wfRel.wf)
  have hleft := stepsLeft_of_step hstep
  change next.stepsLeft < pool.stepsLeft
  omega

/-- A pool in which no step is possible has nothing left but its results. -/
theorem exists_step_or_done (binder : Binder) (pool : TaskPool) :
    (∃ next, Step binder pool next) ∨
      pool.waiting = [] ∧ pool.running = [] ∧ pool.completed = [] := by
  obtain ⟨waiting, running, completed, results⟩ := pool
  cases waiting with
  | cons task waiting => exact .inl ⟨_, .start⟩
  | nil =>
    cases running with
    | cons task running => exact .inl ⟨_, .complete []⟩
    | nil =>
      cases completed with
      | cons entry completed => exact .inl ⟨_, .collect []⟩
      | nil => exact .inr ⟨rfl, rfl, rfl⟩

/-- **Results of a run**: whatever the order of its steps was, a run that has stopped leaves the
outcome of every contract. -/
theorem results_of_run (hrun : Relation.ReflTransGen (Step binder) (start deployments) pool) :
    (∃ next, Step binder pool next) ∨ pool.results = deployments.map binder.bind := by
  refine (exists_step_or_done binder pool).imp_right fun ⟨hwaiting, hrunning, hcompleted⟩ => ?_
  have haccounts := accounts_start.run hrun
  rw [Accounts, expected, hwaiting, hrunning, hcompleted] at haccounts
  refine TextMap.eq_of_perm ?_
  simpa using haccounts

end Pools

end TaskPool

/-! ### Batches -/

section Batches

variable {config : BindConfig} {deployments : TextMap Deployment}

theorem bindDeployments_of_ofConfig {binder : Binder} (h : Binder.ofConfig config = .ok binder) :
    bindDeployments config deployments = .ok (deployments.map binder.bind) := by
  rw [bindDeployments, h]
  rfl

/-- Every order of completion gives the same results. -/
theorem bindConcurrently_eq (completion : Completion deployments) :
    bindConcurrently config deployments completion = bindDeployments config deployments := by
  rw [bindConcurrently, bindDeployments]
  cases Binder.ofConfig config with
  | error fault => rfl
  | ok binder =>
    have hperm : (completion.val.map fun task => (task.1, binder.bind task.1 task.2)).Perm
        (deployments.map binder.bind).entries :=
      completion.property.map _
    exact congrArg Except.ok (TextMap.ofList_of_perm hperm)

/-- A contract that two batches have in common has the same outcome in both, if their
configurations agree on it. -/
theorem get?_congr_of_bindDeployments {other : BindConfig} {others : TextMap Deployment}
    {results otherResults : BindResults} {name : String}
    (h : bindDeployments config deployments = .ok results)
    (hother : bindDeployments other others = .ok otherResults)
    (hagrees : config.AgreesOn other name)
    (hsame : deployments.get? name = others.get? name) :
    results.get? name = otherResults.get? name := by
  obtain ⟨binder, hbinder, hresults⟩ := except_bind_eq_ok_iff.mp h
  obtain ⟨second, hsecond, hotherResults⟩ := except_bind_eq_ok_iff.mp hother
  obtain rfl := Except.ok.inj hresults
  obtain rfl := Except.ok.inj hotherResults
  obtain rfl := Binder.ofConfig_eq_ok_iff.mp hbinder
  obtain rfl := Binder.ofConfig_eq_ok_iff.mp hsecond
  have hbind : binder.bind name = second.bind name := funext (Binder.bind_congr hagrees)
  rw [TextMap.get?_map, TextMap.get?_map, hsame, hbind]

end Batches

/-- **Outcome of a batch**: only the configuration can make it fail as a whole. Otherwise each of
its contracts has the outcome that it has alone. With tasks the results are the same in every order
of completion: no run goes on for ever, and one that has stopped leaves these results. A contract
has the same outcome in any other batch whose configuration agrees on it. -/
theorem bindDeployments_outcome (config : BindConfig) (deployments : TextMap Deployment) :
    (∀ fault, bindDeployments config deployments = .error fault ↔
      config.validate = .error fault) ∧
    (∀ completion, bindConcurrently config deployments completion =
      bindDeployments config deployments) ∧
    (config.validate = .ok () → ∃ binder results, Binder.ofConfig config = .ok binder ∧
      bindDeployments config deployments = .ok results ∧
      results.keys = deployments.keys ∧
      (∀ name, results.get? name = (deployments.get? name).map (binder.bind name)) ∧
      (WellFounded fun next pool => TaskPool.Step binder pool next) ∧
      (∀ pool, Relation.ReflTransGen (TaskPool.Step binder) (.start deployments) pool →
        (∃ next, TaskPool.Step binder pool next) ∨ pool.results = results) ∧
      ∀ other others otherResults name, bindDeployments other others = .ok otherResults →
        config.AgreesOn other name → deployments.get? name = others.get? name →
          results.get? name = otherResults.get? name) := by
  refine ⟨fun fault => ?_, bindConcurrently_eq, fun hvalid => ?_⟩
  · rw [← Binder.ofConfig_eq_error_iff, bindDeployments]
    cases Binder.ofConfig config <;> simp [bind, Except.bind, pure, Except.pure]
  · have hbinder : Binder.ofConfig config =
        .ok ⟨config, BindConfig.validate_eq_ok_iff.mp hvalid⟩ := Binder.ofConfig_eq_ok_iff.mpr rfl
    have hresults : bindDeployments config deployments = _ := bindDeployments_of_ofConfig hbinder
    refine ⟨_, _, hbinder, hresults, TextMap.keys_map _ _, TextMap.get?_map _ _,
      TaskPool.wellFounded_step _, fun pool => TaskPool.results_of_run, ?_⟩
    intro other others otherResults name hother hagrees hsame
    exact get?_congr_of_bindDeployments hresults hother hagrees hsame

/-- The deployment of a contract with one function. -/
private def ping : Deployment := .ofAbi (.array [.object [("name", .string "ping")]])

/-- A batch in which one contract cannot be bound. -/
private def halfBroken : TextMap Deployment :=
  .ofList [("Ping", ping), ("Broken", .ofAbi .null)]

/-- A batch that has a contract in common with it. -/
private def twice : TextMap Deployment := .ofList [("Ping", ping), ("Pong", ping)]

/-- The configuration for Go in which none but the listed functions of a contract are bound. -/
private def binding (contract : String) (methods : List (String × Bool)) : BindConfig :=
  ⟨.golang, .ethereum, .ofList [(contract, ⟨.empty, .ofList methods, .empty⟩)]⟩

/-- The contract that comes last in the order of the names may be completed first, and in another
batch under another configuration it has the same outcome. -/
theorem bindDeployments_outcome_halfBroken :
    (binding "Broken" [("f", true)]).validate = .ok () ∧
      (binding "Broken" [("f", true)]).AgreesOn (binding "Pong" []) "Ping" ∧
      ∃ binder results others pool,
        bindDeployments (binding "Broken" [("f", true)]) halfBroken = .ok results ∧
        bindDeployments (binding "Pong" []) twice = .ok others ∧
        Relation.ReflTransGen (TaskPool.Step binder) (.start halfBroken) pool ∧
        pool.results = results ∧
        results.get? "Broken" = some (.error (.invalidAbi .notArray)) ∧
        results.get? "Ping" = others.get? "Ping" := by
  have hagrees : (binding "Broken" [("f", true)]).AgreesOn (binding "Pong" []) "Ping" :=
    ⟨rfl, rfl, rfl, rfl⟩
  obtain ⟨binder, results, -, hresults, -, halone, -, hpool, hindependent⟩ :=
    (bindDeployments_outcome (binding "Broken" [("f", true)]) halfBroken).2.2 rfl
  obtain ⟨_, others, -, hothers, -⟩ :=
    (bindDeployments_outcome (binding "Pong" []) twice).2.2 rfl
  have hstart : TaskPool.start halfBroken =
      ⟨[("Broken", .ofAbi .null), ("Ping", ping)], [], [], .empty⟩ := rfl
  -- both tasks are started, and the second one is completed and collected before the first
  obtain ⟨collected, hrun⟩ : ∃ collected, Relation.ReflTransGen (TaskPool.Step binder)
      (.start halfBroken) ⟨[], [], [], collected⟩ := by
    rw [hstart]
    exact ⟨_, .head .start <| .head .start <| .head (.complete []) <| .head (.complete []) <|
      .head (.collect [_]) <| .single (.collect [])⟩
  have hdone : ¬∃ next, TaskPool.Step binder ⟨[], [], [], collected⟩ next := by
    rintro ⟨next, hstep⟩
    cases TaskPool.stepsLeft_of_step hstep
  refine ⟨rfl, hagrees, binder, results, others, _, hresults, hothers, hrun,
    (hpool _ hrun).resolve_left hdone, (halone "Broken").trans rfl, ?_⟩
  exact hindependent _ _ _ "Ping" hothers hagrees rfl

end ContractBindings

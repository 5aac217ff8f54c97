import Mathlib.Tactic

/-!
# Tasks that interleave

Tasks take turns over shared data, in an environment that changes between the
turns.  A turn reads the environment and the shared data; it updates the shared
data, and the task goes on or is done with an answer.

An `Invariant` has one part for the shared data, one for every task that is
under way, and says which answers are right.  It is kept by every step of a
run, so each answer is right in the environment in which it is given.
-/

namespace PartnerChains.Verified.Interleaving

/-- The outcome of a turn. -/
inductive Turn (Shared Task Answer : Type*) where
  | goOn (task : Task) (shared : Shared)
  | done (answer : Answer) (shared : Shared)

/-- What holds after a turn: one thing if the task goes on, another if it is
done. -/
def Turn.Leaves {Shared Task Answer : Type*} (P : Task → Shared → Prop)
    (Q : Answer → Shared → Prop) : Turn Shared Task Answer → Prop
  | .goOn task shared => P task shared
  | .done answer shared => Q answer shared

section Turn

variable {Shared Task Answer : Type*} {P : Task → Shared → Prop} {Q : Answer → Shared → Prop}
  {turn : Turn Shared Task Answer} {shared : Shared}

/-- A turn that goes on leaves what its task needs. -/
theorem Turn.leaves_of_goOn {task : Task} (h : turn = .goOn task shared) (hp : P task shared) :
    turn.Leaves P Q := by
  rw [h]
  exact hp

theorem Turn.leaves_of_done {answer : Answer} (h : turn = .done answer shared)
    (hq : Q answer shared) : turn.Leaves P Q := by
  rw [h]
  exact hq

end Turn

/-- The environment, the shared state and the tasks that are running. -/
structure Config (Env Shared Task : Type*) where
  env : Env
  shared : Shared
  tasks : List Task

/-- Tasks that take turns on a shared state, in an environment that changes by
itself. -/
structure System (Env Shared Task Answer : Type*) where
  /-- How tasks start. -/
  Starts : Task → Prop
  turn : Env → Shared → Task → Turn Shared Task Answer
  /-- How the environment can change. -/
  Changes : Config Env Shared Task → Env → Prop

section Runs

variable {Env Shared Task Answer : Type*} (sys : System Env Shared Task Answer)

/-- The system in which the environment changes only under a condition. -/
def System.provided (P : Config Env Shared Task → Env → Prop) :
    System Env Shared Task Answer :=
  { sys with Changes := fun c env => sys.Changes c env ∧ P c env }

/-- One step, with the answer that is given in it. -/
inductive Step (c : Config Env Shared Task) :
    Option (Task × Answer) → Config Env Shared Task → Prop where
  | change {env : Env} (h : sys.Changes c env) : Step c none { c with env := env }
  | start {task : Task} (h : sys.Starts task) : Step c none { c with tasks := task :: c.tasks }
  | goOn {before after : List Task} {task task' : Task} {shared : Shared}
      (htasks : c.tasks = before ++ task :: after)
      (h : sys.turn c.env c.shared task = .goOn task' shared) :
      Step c none { c with shared := shared, tasks := before ++ task' :: after }
  | done {before after : List Task} {task : Task} {answer : Answer} {shared : Shared}
      (htasks : c.tasks = before ++ task :: after)
      (h : sys.turn c.env c.shared task = .done answer shared) :
      Step c (some (task, answer)) { c with shared := shared, tasks := before ++ after }

/-- The configurations that are reached from `start`. -/
inductive Run (start : Config Env Shared Task) : Config Env Shared Task → Prop where
  | refl : Run start start
  | step {c c' : Config Env Shared Task} {given : Option (Task × Answer)} (run : Run start c)
      (h : Step sys c given c') : Run start c'

/-- A task that is left alone for a number of turns, in one environment. -/
def alone (env : Env) : Nat → Shared → Task → Option (Answer × Shared)
  | 0, _, _ => none
  | fuel + 1, shared, task =>
      match sys.turn env shared task with
      | .goOn task' shared' => alone env fuel shared' task'
      | .done answer shared' => some (answer, shared')

section Alone

variable {sys} {env : Env} {shared shared' : Shared} {task task' : Task} {answer : Answer}

/-- A task that runs alone takes its turns one after the other. -/
theorem alone_of_goOn (fuel : Nat) (h : sys.turn env shared task = .goOn task' shared') :
    alone sys env (fuel + 1) shared task = alone sys env fuel shared' task' := by
  rw [alone, h]

theorem alone_of_done (fuel : Nat) (h : sys.turn env shared task = .done answer shared') :
    alone sys env (fuel + 1) shared task = some (answer, shared') := by
  rw [alone, h]

end Alone

/-- What has to be checked of each step for the tasks to end in right answers. -/
structure Invariant (Sound : Env → Shared → Prop) (Fine : Env → Task → Prop)
    (Right : Env → Task → Answer → Prop) : Prop where
  starts : ∀ env task, sys.Starts task → Fine env task
  changes : ∀ c env, sys.Changes c env → Sound c.env c.shared → (∀ t ∈ c.tasks, Fine c.env t) →
    Sound env c.shared ∧ ∀ t ∈ c.tasks, Fine env t
  turn : ∀ env shared task, Sound env shared → Fine env task →
    (sys.turn env shared task).Leaves (fun task' shared' => Sound env shared' ∧ Fine env task')
      fun answer shared' => Sound env shared' ∧ Right env task answer

variable {sys} in
/-- Answers do not depend on how the environment changes. -/
theorem Step.provided {P : Config Env Shared Task → Env → Prop} {c c' : Config Env Shared Task}
    {given : Task × Answer} (h : Step sys c (some given) c') :
    Step (sys.provided P) c (some given) c' := by
  cases h with
  | done htasks hturn => exact .done htasks hturn

variable {sys} in

/-- A step under a condition is a step. -/
theorem Step.weaken {P : Config Env Shared Task → Env → Prop} {c c' : Config Env Shared Task}
    {given : Option (Task × Answer)} (h : Step (sys.provided P) c given c') :
    Step sys c given c' := by
  cases h with
  | change hchange => exact .change hchange.1
  | start hstart => exact .start hstart
  | goOn htasks hturn => exact .goOn htasks hturn
  | done htasks hturn => exact .done htasks hturn

variable {sys} in
/-- A run under a condition is a run. -/
theorem Run.weaken {P : Config Env Shared Task → Env → Prop} {start c : Config Env Shared Task}
    (h : Run (sys.provided P) start c) : Run sys start c := by
  induction h with
  | refl => exact .refl
  | step _ hstep ih => exact ih.step hstep.weaken

variable {sys} in
/-- The turn of a single task. -/
theorem Run.goOn {start : Config Env Shared Task} {env : Env} {shared shared' : Shared}
    {task task' : Task} (run : Run sys start ⟨env, shared, [task]⟩)
    (h : sys.turn env shared task = .goOn task' shared') :
    Run sys start ⟨env, shared', [task']⟩ :=
  run.step (@Step.goOn _ _ _ _ sys ⟨env, shared, [task]⟩ [] [] task task' shared' rfl h)

/-- The last turn of a single task. -/
theorem Step.ofDone {env : Env} {shared shared' : Shared} {task : Task} {answer : Answer}
    (h : sys.turn env shared task = .done answer shared') :
    Step sys ⟨env, shared, [task]⟩ (some (task, answer)) ⟨env, shared', []⟩ :=
  @Step.done _ _ _ _ sys ⟨env, shared, [task]⟩ [] [] task answer shared' rfl h

end Runs

section Invariant

variable {Env Shared Task Answer : Type*} {sys : System Env Shared Task Answer}
  {Sound : Env → Shared → Prop} {Fine : Env → Task → Prop} {Right : Env → Task → Answer → Prop}

/-- A step keeps both parts. -/
theorem Invariant.step (inv : Invariant sys Sound Fine Right) {c c' : Config Env Shared Task}
    {given : Option (Task × Answer)} (h : Step sys c given c') (hsound : Sound c.env c.shared)
    (hfine : ∀ t ∈ c.tasks, Fine c.env t) :
    Sound c'.env c'.shared ∧ ∀ t ∈ c'.tasks, Fine c'.env t := by
  cases h with
  | change hchange => exact inv.changes c _ hchange hsound hfine
  | start hstart =>
      refine ⟨hsound, ?_⟩
      intro t ht
      rcases List.mem_cons.mp ht with rfl | ht
      · exact inv.starts c.env t hstart
      · exact hfine t ht
  | @goOn before after task task' shared htasks hturn =>
      have hleaves := inv.turn c.env c.shared task hsound (hfine task (by simp [htasks]))
      rw [hturn] at hleaves
      obtain ⟨hsound', hfine'⟩ := hleaves
      refine ⟨hsound', ?_⟩
      intro t ht
      rcases List.mem_append.mp ht with ht | ht
      · exact hfine t (by simp [htasks, ht])
      · rcases List.mem_cons.mp ht with rfl | ht
        · exact hfine'
        · exact hfine t (by simp [htasks, ht])
  | @done before after task answer shared htasks hturn =>
      have hleaves := inv.turn c.env c.shared task hsound (hfine task (by simp [htasks]))
      rw [hturn] at hleaves
      refine ⟨hleaves.1, ?_⟩
      intro t ht
      rcases List.mem_append.mp ht with ht | ht
      · exact hfine t (by simp [htasks, ht])
      · exact hfine t (by simp [htasks, ht])

/-- The invariant holds along every run. -/
theorem Invariant.run (inv : Invariant sys Sound Fine Right) {start c : Config Env Shared Task}
    (hsound : Sound start.env start.shared) (hfine : ∀ t ∈ start.tasks, Fine start.env t)
    (h : Run sys start c) : Sound c.env c.shared ∧ ∀ t ∈ c.tasks, Fine c.env t := by
  induction h with
  | refl => exact ⟨hsound, hfine⟩
  | step _ hstep ih => exact inv.step hstep ih.1 ih.2

/-- The answers that are given after a run are right. -/
theorem Invariant.right (inv : Invariant sys Sound Fine Right)
    {start c c' : Config Env Shared Task} (hsound : Sound start.env start.shared)
    (hfine : ∀ t ∈ start.tasks, Fine start.env t) (h : Run sys start c) {task : Task}
    {answer : Answer} (hstep : Step sys c (some (task, answer)) c') : Right c.env task answer := by
  obtain ⟨hsound, hfine⟩ := inv.run hsound hfine h
  cases hstep with
  | @done before after _ _ shared htasks hturn =>
      have hleaves := inv.turn c.env c.shared task hsound (hfine task (by simp [htasks]))
      rw [hturn] at hleaves
      exact hleaves.2

end Invariant

end PartnerChains.Verified.Interleaving

import BenchCampaign.Configuration

/-!
# The option space

The configurations of a campaign are drawn from three lists of options.  Their
product is enumerated with the task counts outermost and the workloads
innermost, less the combinations that would take hours: every task count but
the smallest is run at high concurrency only.

* `Space.ofOptions`: the space of three lists of options, or what is wrong with them.
* `Space.configurations`: the allowed part of the product, in product order.
-/

namespace BenchCampaign

/-- Why three lists of options span no space. -/
inductive SpaceFault where
  | emptyOptions
  | zeroTasks
  | zeroConcurrency
deriving DecidableEq, Repr

/-- What is told of a fault. -/
def SpaceFault.reason : SpaceFault → String
  | .emptyOptions => "tasks, concurrency and workloads must not be empty"
  | .zeroTasks => "task counts must be positive"
  | .zeroConcurrency => "concurrency levels must be positive"

/-- Lists of options that a campaign's configurations are drawn from. -/
structure Space where
  tasks : List UInt64
  concurrency : List UInt32
  workloads : List Workload
  /-- Below this concurrency only the smallest task count is run. -/
  largeTaskMinConcurrency : UInt32
deriving Repr

namespace Space

/-- The space of the given options: no list may be empty, no number zero. -/
def ofOptions (tasks : List UInt64) (concurrency : List UInt32) (workloads : List Workload)
    (threshold : UInt32) : Except SpaceFault Space :=
  if tasks.isEmpty || concurrency.isEmpty || workloads.isEmpty then .error .emptyOptions
  else if tasks.contains 0 then .error .zeroTasks
  else if concurrency.contains 0 then .error .zeroConcurrency
  else .ok ⟨tasks, concurrency, workloads, threshold⟩

/-- The smallest task count of the space. -/
def smallestTasks (s : Space) : UInt64 :=
  s.tasks.min?.getD 0

/-- A large task count at low concurrency takes hours and is left out. -/
def isExcluded (s : Space) (c : Configuration) : Bool :=
  decide (s.smallestTasks < c.tasks) && decide (c.concurrency < s.largeTaskMinConcurrency)

/-- Every combination of the options: task counts outermost, workloads innermost. -/
def combinations (s : Space) : List Configuration :=
  s.tasks.flatMap fun t =>
    s.concurrency.flatMap fun c =>
      s.workloads.map fun w => ⟨t, c, w⟩

/-- The combinations that are run, in the order of the product. -/
def configurations (s : Space) : List Configuration :=
  s.combinations.filter fun c => !s.isExcluded c

end Space

end BenchCampaign

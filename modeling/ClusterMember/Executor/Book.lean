import ClusterMember.Executor.Session

/-!
# Named work

A book gives names to the tasks of a session.  A name that is used again stands for the newer task;
what has begun under it is counted for all its tasks together.
-/

namespace ClusterMember

/-- A session whose tasks go by names. -/
structure Book (α : Type) where
  session : Session α
  handles : List (String × Nat) := []
  /-- All tasks that were ever submitted. -/
  tasks : List (String × Nat) := []
  schedules : List (String × Nat) := []

namespace Book

variable {α : Type}

/-- The task under a name. -/
def task? (book : Book α) (name : String) : Option Nat := List.lookup name book.handles

/-- The periodic task under a name. -/
def schedule? (book : Book α) (name : String) : Option Nat := List.lookup name book.schedules

/-- Give a name to a task. -/
def keep (book : Book α) (name : String) (id : Nat) : Book α :=
  { session := book.session.settle
    handles := (name, id) :: book.handles.filter (·.1 ≠ name)
    tasks := (name, id) :: book.tasks
    schedules := book.schedules }

/-- Give a name to a periodic task. -/
def keepSchedule (book : Book α) (name : String) (id : Nat) : Book α :=
  { book with session := book.session.settle, schedules := (name, id) :: book.schedules }

/-- A task has been awaited. -/
def forget (book : Book α) (name : String) : Book α :=
  { book with handles := book.handles.filter (·.1 ≠ name) }

/-- How often the body of a task began. -/
def startsOf (session : Session α) (id : Nat) : Nat := (session.task? id).elim 0 Task.starts

/-- How often bodies under a name have begun by a state of the session; the second stages of chains
`a` count under `a.then`. -/
def startsBy (book : Book α) (name : String) (session : Session α) : Nat :=
  book.tasks.foldl (fun total (label, id) =>
    match (session.task? id).map Task.site with
    | some (.chain _ first _ _ second) =>
      total + (if label = name then startsOf session first else 0) +
        if label ++ ".then" = name then second.elim 0 (startsOf session) else 0
    | _ => total + if label = name then startsOf session id else 0) 0

/-- How often bodies under a name have begun. -/
def starts (book : Book α) (name : String) : Nat := book.startsBy name book.session

/-- The result of a task by a state of the session. -/
def result? (session : Session α) (id : Nat) : Option (Except Error α) :=
  (session.task? id).bind Task.result

end Book
end ClusterMember

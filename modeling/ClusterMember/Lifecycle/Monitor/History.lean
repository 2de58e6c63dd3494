import ClusterMember.Lifecycle.Monitor

/-!
# The history of a monitor

Activities begin, are told of through their guards and lose their guards, and now and then someone
looks at all of them.  The story of an activity keeps everything that was done through its guard,
also after the monitor has forgotten the activity.
-/

namespace ClusterMember

/-- The state that an action puts an activity into. -/
def GuardAction.target? : GuardAction → Option ActivityState
  | .setStatus | .setDescription => none
  | .complete => some .complete
  | .pause => some .waiting
  | .resume => some .running
  | .abort => some .aborted

/-- Something that is done through a guard. -/
structure GuardDeed where
  action : GuardAction
  text : String
  now : Nat

/-- What a monitor is given. -/
inductive MonitorEvent where
  | create (description : String) (now : Nat)
  | act (id : Nat) (deed : GuardDeed)
  | drop (id : Nat) (now : Nat)
  | snapshot (now : Nat)

/-- The time of an event. -/
def MonitorEvent.now : MonitorEvent → Nat
  | .create _ now | .drop _ now | .snapshot now => now
  | .act _ deed => deed.now

/-- What was done with an activity from its beginning on. -/
structure ActivityStory where
  id : Nat
  /-- What it was said to be when it began. -/
  title : String
  began : Nat
  /-- What was done through its guard, oldest first. -/
  deeds : List GuardDeed
  /-- When its guard went. -/
  dropped : Option Nat

namespace ActivityStory

/-- Its guard has not gone. -/
def isHeld (story : ActivityStory) : Bool := story.dropped.isNone

/-- The last deed of some kind. -/
def last? (story : ActivityStory) (kind : GuardAction → Bool) : Option GuardDeed :=
  story.deeds.reverse.find? fun deed => kind deed.action

/-- The last deed that said what it is. -/
def renamed? (story : ActivityStory) : Option GuardDeed := story.last? (· = .setDescription)

/-- The last deed that set its status. -/
def reported? (story : ActivityStory) : Option GuardDeed := story.last? (· ≠ .setDescription)

/-- The last deed that put it into a state. -/
def moved? (story : ActivityStory) : Option GuardDeed := story.last? (·.target?.isSome)

/-- What it was last said to be. -/
def description (story : ActivityStory) : String :=
  (story.renamed?.map (·.text)).getD story.title

/-- The status that was last set. -/
def status (story : ActivityStory) : String := (story.reported?.map (·.text)).getD ""

/-- The state that it was last put into through its guard. -/
def heldState (story : ActivityStory) : ActivityState :=
  (story.moved?.bind (·.action.target?)).getD .running

/-- Its guard went while it was unfinished. -/
def isLeaked (story : ActivityStory) : Bool := !story.isHeld && !story.heldState.isFinished

/-- The state that it was last put into, through its guard or when its guard went. -/
def state (story : ActivityStory) : ActivityState :=
  if story.isLeaked then .aborted else story.heldState

/-- When it was last put into a state. -/
def stateTime (story : ActivityStory) : Nat :=
  if story.isLeaked then story.dropped.getD 0 else (story.moved?.map (·.now)).getD story.began

/-- Since when it is finished, if it is. -/
def finishedSince? (story : ActivityStory) : Option Nat :=
  if story.state.isFinished then some story.stateTime else none

/-- It is finished for so many milliseconds at least. -/
def isOver (story : ActivityStory) (expiration now : Nat) : Bool :=
  story.finishedSince?.any fun since => expiration ≤ now - since

/-- The entry that tells all this. -/
def activity (story : ActivityStory) : Activity where
  id := story.id
  description := story.description
  status := story.status
  state := story.state
  startTime := story.began
  statusTime := (story.reported?.map (·.now)).getD story.began
  stateTime := story.stateTime
  finishedAt := story.finishedSince?

/-- The guard that it has, or had. -/
def guard (story : ActivityStory) : ActivityGuard := ⟨story.id, story.description⟩

/-- One more deed is done through its guard. -/
def act (story : ActivityStory) (deed : GuardDeed) : ActivityStory :=
  { story with deeds := story.deeds ++ [deed] }

/-- Its guard goes. -/
def drop (story : ActivityStory) (now : Nat) : ActivityStory := { story with dropped := some now }

end ActivityStory

/-- A monitor with the stories of all activities that ever began, oldest first. -/
structure MonitorHistory where
  monitor : Monitor
  stories : List ActivityStory

namespace MonitorHistory

/-- One more event.  Without a guard nothing is done through it, and it cannot go. -/
def step (history : MonitorHistory) : MonitorEvent → MonitorHistory
  | .create description now =>
    match history.monitor.create description now with
    | (monitor, id, _) => ⟨monitor, history.stories ++ [⟨id, description, now, [], none⟩]⟩
  | .act id deed =>
    if (history.monitor.guard? id).isSome then
      ⟨(history.monitor.act id deed.action deed.text deed.now).1,
        history.stories.map fun story => if story.id = id then story.act deed else story⟩
    else history
  | .drop id now =>
    if (history.monitor.guard? id).isSome then
      ⟨(history.monitor.drop id now).1,
        history.stories.map fun story => if story.id = id then story.drop now else story⟩
    else history
  | .snapshot now => { history with monitor := (history.monitor.snapshot now).1 }

/-- A new monitor after a row of events. -/
def run (capacity expiration : Nat) (events : List MonitorEvent) : MonitorHistory :=
  events.foldl step ⟨.withLimits capacity expiration, []⟩

end MonitorHistory

/-- Whether entries that have been finished for long enough go at an event. -/
def Monitor.purges (monitor : Monitor) : MonitorEvent → Bool
  | .create _ _ => monitor.capacity ≤ monitor.entries.length
  | .snapshot _ => true
  | .act _ _ | .drop _ _ => false

end ClusterMember

import ClusterMember.Heartbeat.Service

/-!
# The course of a heartbeat

What a heartbeat does by itself over a network, as long as nothing but the resolver interferes: the
resolver is asked when it is needed, and what happens besides while it is asked, happens before it
answers.
-/

namespace ClusterMember
namespace Heartbeat

/-- One time that the resolver is asked. -/
structure Resolution where
  answer : Option Identity
  meanwhile : List Slave.Event := []

/-- A heartbeat with the resolver that it asks. -/
structure Course where
  slave : Slave
  /-- What the resolver answers, one time after the other; the last answer repeats for ever. -/
  answers : List Resolution
  /-- How often the resolver was asked. -/
  asked : Nat

namespace Course

/-- The resolver is asked: what happens meanwhile, and its answer. -/
def ask (course : Course) : Course × Option Identity :=
  match course.answers with
  | [] => ({ course with asked := course.asked + 1 }, none)
  | resolution :: rest =>
    ({ slave := course.slave.run resolution.meanwhile
       answers := if rest.isEmpty then [resolution] else rest
       asked := course.asked + 1 },
      resolution.answer)

/-- Start the heartbeat. -/
def start (course : Course) (scheduler : Scheduler) (task : Nat) :
    Course × Scheduler × Except Error Unit :=
  match course.ask with
  | (course, answer) =>
    match course.slave.start scheduler task answer with
    | (slave, scheduler, result) => ({ course with slave }, scheduler, result)

/-- The next thing that the heartbeat does, if it is within a beat. -/
def advance (course : Course) (network : Network) (now : UInt64) : Option Course :=
  match course.slave.service.phase with
  | .idle => none
  | .reporting =>
    match course.slave.report network now with
    | .ok () => some { course with slave := course.slave.step .reportAcknowledged }
    | .error _ =>
      match course.ask with
      | (course, answer) =>
        some { course with slave := course.slave.step (.reportFailed answer) }
  | .waiting _ =>
    match course.ask with
    | (course, answer) => some { course with slave := course.slave.step (.checkDue answer) }

/-- Carry on with a beat to its end, in at most so many things that it does. -/
def finish (network : Network) (now : UInt64) : (fuel : Nat) → Course → Course
  | 0, course => course
  | fuel + 1, course =>
    match course.advance network now with
    | none => course
    | some course => finish network now fuel course

/-- A whole beat: a report, and one check after the other. -/
def beat (course : Course) (network : Network) (now : UInt64) : Course :=
  finish network now (course.slave.service.config.maxRestartChecks + 2)
    { course with slave := course.slave.step .beatDue }

/-- Beat until the node is to stop, at most so many times. -/
def beatUntilStopped (network : Network) (now : UInt64) : (beats : Nat) → Course → Course
  | 0, course => course
  | beats + 1, course =>
    if course.slave.control.flags.stopped then course
    else beatUntilStopped network now beats (course.beat network now)

end Course
end Heartbeat
end ClusterMember

import ClusterMember.Heartbeat.Course

/-!
# Heartbeats that leave their node alone

A heartbeat touches the flags of its node only when it aborts it, and it does not abort it as long
as the resolver knows a master.
-/

namespace ClusterMember
namespace Heartbeat
namespace Slave

/-- A slave with other flags. -/
def withControl (slave : Slave) (control : Control) : Slave := { slave with control }

@[simp]
theorem control_withControl (slave : Slave) (control : Control) :
    (slave.withControl control).control = control := rfl

@[simp]
theorem service_withControl (slave : Slave) (control : Control) :
    (slave.withControl control).service = slave.service := rfl

/-- Building a stub neither reads nor sets flags. -/
theorem buildStub_withControl (slave : Slave) (control : Control) (master : Identity) :
    (slave.withControl control).buildStub master =
      ((slave.buildStub master).1.withControl control, (slave.buildStub master).2) := by
  unfold buildStub
  rw [withControl]
  split
  next clients fault built => rw [built]; rfl
  next clients stub built => rw [built]; rfl

theorem linkFirst_withControl (slave : Slave) (control : Control) (answer : Option Identity) :
    (slave.withControl control).linkFirst answer =
      ((slave.linkFirst answer).1.withControl control, (slave.linkFirst answer).2) := by
  cases answer with
  | none => rfl
  | some master =>
      simp only [linkFirst, buildStub_withControl]
      rcases slave.buildStub master with ⟨linked, error | stub⟩
      · rfl
      · change (if linked.service.phase ≠ .idle ∨ linked.service.link.isSome then _ else _) =
          (Slave.withControl (Prod.fst (if _ then _ else _)) control, Prod.snd (if _ then _ else _))
        split <;> rfl

/-- Starting a heartbeat neither reads nor sets flags. -/
theorem start_withControl (slave : Slave) (control : Control) (scheduler : Scheduler)
    (task : Nat) (answer : Option Identity) :
    (slave.withControl control).start scheduler task answer =
      ((slave.start scheduler task answer).1.withControl control,
        (slave.start scheduler task answer).2) := by
  simp only [start, linkFirst_withControl]
  rcases slave.linkFirst answer with ⟨linked, error | done⟩
  · rfl
  · simp only [submitBeats, service_withControl]
    split <;> rfl

theorem withControl_self (slave : Slave) : slave.withControl slave.control = slave := rfl

theorem start_control (slave : Slave) (scheduler : Scheduler) (task : Nat)
    (answer : Option Identity) :
    (slave.start scheduler task answer).1.control = slave.control := by
  have kept := start_withControl slave slave.control scheduler task answer
  rw [withControl_self] at kept
  rw [kept]
  rfl

theorem buildStub_control (slave : Slave) (master : Identity) :
    (slave.buildStub master).1.control = slave.control := by
  have kept := buildStub_withControl slave slave.control master
  rw [withControl_self] at kept
  rw [kept]
  rfl

theorem relink_control (slave : Slave) (master : Identity) :
    (slave.relink master).control = slave.control := by
  have built := buildStub_control slave master
  unfold relink
  split
  next => rfl
  next =>
    split
    next linked error eq =>
      rw [eq] at built
      exact built
    next linked stub eq =>
      rw [eq] at built
      exact built

theorem beat_control (slave : Slave) : slave.beat.control = slave.control := by
  unfold beat
  split <;> rfl

/-- A report that fails leaves the flags alone when the resolver knows a master. -/
theorem fail_control (slave : Slave) (master : Identity) :
    (slave.fail (some master)).control = slave.control :=
  relink_control slave.countFailure master

theorem probe_control (slave : Slave) (check : Nat) (master : Identity) :
    (slave.probe check (some master)).control = slave.control :=
  relink_control slave master

end Slave

namespace Course

/-- The resolver answers with the same master for ever. -/
def Steady (course : Course) (master : Identity) : Prop :=
  course.answers = [{ answer := some master }]

variable {course : Course} {master : Identity}

theorem Steady.ask (steady : course.Steady master) :
    course.ask = ({ course with asked := course.asked + 1 }, some master) := by
  rw [Steady] at steady
  simp [Course.ask, steady, Slave.run]

/-- With such a resolver nothing that a heartbeat does touches the flags of its node. -/
theorem Steady.advance (steady : course.Steady master) {network : Network} {now : UInt64}
    {after : Course} (advanced : course.advance network now = some after) :
    after.Steady master ∧ after.slave.control = course.slave.control := by
  unfold Course.advance at advanced
  cases phase_eq : course.slave.service.phase with
  | idle => simp [phase_eq] at advanced
  | reporting =>
      simp only [phase_eq, steady.ask] at advanced
      split at advanced
      next =>
        cases advanced
        refine ⟨steady, ?_⟩
        simp [Slave.step, phase_eq, Slave.acknowledge]
      next =>
        cases advanced
        refine ⟨steady, ?_⟩
        simp only [Slave.step, phase_eq]
        exact Slave.fail_control course.slave master
  | waiting check =>
      simp only [phase_eq, steady.ask] at advanced
      cases advanced
      refine ⟨steady, ?_⟩
      simp only [Slave.step, phase_eq]
      exact Slave.probe_control course.slave check master

theorem Steady.finish (steady : course.Steady master) (network : Network) (now : UInt64)
    (fuel : Nat) :
    (Course.finish network now fuel course).slave.control = course.slave.control := by
  induction fuel generalizing course with
  | zero => rfl
  | succ fuel induction =>
      simp only [Course.finish]
      split
      next => rfl
      next after advanced =>
        obtain ⟨after_steady, control_eq⟩ := steady.advance advanced
        exact (induction after_steady).trans control_eq

/-- A whole beat leaves the flags alone. -/
theorem Steady.beat (steady : course.Steady master) (network : Network) (now : UInt64) :
    (course.beat network now).slave.control = course.slave.control := by
  have begun : Steady { course with slave := course.slave.step .beatDue } master := steady
  exact (begun.finish network now _).trans (Slave.beat_control course.slave)

end Course
end Heartbeat
end ClusterMember

import ClusterMember.Proofs.Heartbeat.Counts
import ClusterMember.Proofs.Transport.Targets

/-!
# What a heartbeat is linked to

A slave that was started is always linked, by a stub that leads to where its master is.  It follows
each master that the resolver answers and that a stub can be had for, and nothing else touches its
link, whatever others do with the clients meanwhile.  A heartbeat in turn leaves to the others all
channels that there are.
-/

namespace ClusterMember
namespace Heartbeat
namespace Slave

/-- A slave is linked to a master, by a stub that leads to where the master is. -/
def LeadsTo (slave : Slave) (master : Identity) : Prop :=
  ∃ link, slave.service.link = some link ∧ (link.master == master) = true ∧
    ∃ channel, slave.clients.channel? link.stub.channel = some channel ∧
      channel.target =
        "http://" ++ link.master.host ++ ":" ++ Decimal.write link.master.port.toNat

/-- What a slave's link gets to by the master that it is linked to anew, if there is one. -/
structure Follows (before : Slave) (linked : Option Identity) (after : Slave) : Prop where
  grows : before.clients.Grows after.clients
  /-- Without such a master the link is as it was. -/
  link_eq : linked = none → after.service.link = before.service.link
  leadsTo : before.clients.Sound →
    ∀ current, before.LeadsTo current → after.LeadsTo (linked.getD current)

/-- A slave that keeps its link goes on to lead to its master. -/
theorem follows_of_link_eq {before after : Slave}
    (link_eq : after.service.link = before.service.link)
    (grows : before.clients.Grows after.clients) : before.Follows none after where
  grows := grows
  link_eq _ := link_eq
  leadsTo _ current leads := by
    obtain ⟨link, there, master_eq, channel, channel_there, target_eq⟩ := leads
    obtain ⟨still, still_there, still_target_eq⟩ := grows.target_eq channel_there
    exact ⟨link, link_eq.trans there, master_eq, still, still_there,
      still_target_eq.trans target_eq⟩

theorem follows_beat (slave : Slave) : slave.Follows none slave.beat := by
  unfold beat
  split <;> exact follows_of_link_eq rfl (.refl _)

theorem follows_nextCheck (slave : Slave) (check : Nat) :
    slave.Follows none (slave.nextCheck check) := by
  unfold nextCheck
  split
  next => exact follows_of_link_eq rfl (.refl _)
  next => split <;> exact follows_of_link_eq rfl (.refl _)

theorem clients_buildStub (slave : Slave) (master : Identity) :
    (slave.buildStub master).1.clients =
      (slave.clients.getStub serviceName .future master.host master.port .multiThread).1 := by
  unfold buildStub
  split
  next eq => rw [eq]
  next eq => rw [eq]

theorem result_buildStub (slave : Slave) (master : Identity) :
    (slave.buildStub master).2 =
      (slave.clients.getStub serviceName .future master.host master.port .multiThread).2.mapError
        .transport := by
  unfold buildStub
  split
  next eq => rw [eq]; rfl
  next eq => rw [eq]; rfl

theorem grows_buildStub (slave : Slave) (master : Identity) :
    slave.clients.Grows (slave.buildStub master).1.clients := by
  rw [clients_buildStub]
  exact (Clients.grows_getStub _ _ _ _ _ _).1

/-- A stub that is built leads to its master. -/
theorem leadsTo_buildStub {slave : Slave} (sound : slave.clients.Sound) {master : Identity}
    {stub : Stub ChannelRef} (built : (slave.buildStub master).2 = .ok stub) :
    ((slave.buildStub master).1.setLink ⟨master, stub⟩).LeadsTo master := by
  have stub_eq :
      (slave.clients.getStub serviceName .future master.host master.port .multiThread).2 =
        .ok stub := by
    rw [result_buildStub] at built
    cases result :
        (slave.clients.getStub serviceName .future master.host master.port .multiThread).2 with
    | error fault => rw [result] at built; cases built
    | ok made => rw [result] at built; cases built; rfl
  have leads := (Clients.grows_getStub _ _ _ _ _ _).2 stub stub_eq sound
  rw [← clients_buildStub] at leads
  exact ⟨⟨master, stub⟩, rfl, BEq.rfl, leads⟩

/-- A slave follows a master that a stub can be had for. -/
theorem follows_relink (slave : Slave) (master : Identity) :
    slave.Follows (if (slave.find master).isLinked then some master else none)
      (slave.relink master) := by
  rcases slave.relink_cases master with
    ⟨known, same⟩ | ⟨unknown, ⟨error, result, failed⟩ | ⟨stub, result, built⟩⟩
  · have isLinked : (slave.find master).isLinked = true := by simp [find, known]
    rw [same, if_pos isLinked]
    refine ⟨.refl _, nofun, fun _ current leads => ?_⟩
    obtain ⟨link, link_eq, -, target⟩ := leads
    rw [link_eq, Option.any_some] at known
    exact ⟨link, link_eq, known, target⟩
  · have unlinked : ¬(slave.find master).isLinked = true := by
      simp [find, unknown, result, Except.isOk, Except.toBool]
    rw [failed, if_neg unlinked]
    exact follows_of_link_eq (congrArg Service.link (slave.service_buildStub master))
      (slave.grows_buildStub master)
  · have isLinked : (slave.find master).isLinked = true := by
      simp [find, result, Except.isOk, Except.toBool]
    rw [built, if_pos isLinked]
    refine ⟨slave.grows_buildStub master, nofun, fun sound _ _ => ?_⟩
    exact leadsTo_buildStub sound result

/-- The link names the master that it is pointed at, unless no stub can be built for it. -/
theorem linked_relink (slave : Slave) (master : Identity) :
    (∃ link, (slave.relink master).service.link = some link ∧ (link.master == master) = true) ∨
      (∃ error, (slave.buildStub master).2 = .error error) ∧
        (slave.relink master).service.link = slave.service.link := by
  rcases slave.relink_cases master with
    ⟨known, same⟩ | ⟨-, ⟨error, result, failed⟩ | ⟨stub, -, linked⟩⟩
  · obtain ⟨link, there, named⟩ := (Option.any_eq_true _ _).1 known
    exact .inl ⟨link, by rw [same, there], named⟩
  · exact .inr ⟨⟨error, result⟩, by rw [failed, service_buildStub]⟩
  · exact .inl ⟨⟨master, stub⟩, by rw [linked]; rfl, BEq.rfl⟩

/-- Of the answers that a slave finds, it is linked to those that a stub can be had for. -/
theorem linked?_find (slave : Slave) (answer : Option Identity) :
    ((answer.map slave.find).filter (·.isLinked)).map (·.master) =
      answer.bind fun master => if (slave.find master).isLinked then some master else none := by
  cases answer with
  | none => rfl
  | some master =>
      rw [Option.map_some, Option.filter_some, Option.bind_some]
      split <;> rfl

theorem find_countFailure (slave : Slave) : slave.countFailure.find = slave.find := by
  funext master
  simp only [find, result_buildStub, countFailure]

theorem follows_fail (slave : Slave) (answer : Option Identity) :
    slave.Follows (Deed.failed (answer.map slave.find)).linked? (slave.fail answer) := by
  rw [Deed.linked?, linked?_find]
  cases answer with
  | none =>
      have follows := slave.miss.follows_nextCheck 1
      exact ⟨follows.grows, follows.link_eq, follows.leadsTo⟩
  | some master =>
      have follows := slave.countFailure.follows_relink master
      rw [find_countFailure] at follows
      exact ⟨follows.grows, follows.link_eq, follows.leadsTo⟩

theorem follows_probe (slave : Slave) (check : Nat) (answer : Option Identity) :
    slave.Follows (Deed.checked (answer.map slave.find)).linked? (slave.probe check answer) := by
  rw [Deed.linked?, linked?_find]
  cases answer with
  | none => exact slave.follows_nextCheck (check + 1)
  | some master =>
      have follows := slave.follows_relink master
      exact ⟨follows.grows, follows.link_eq, follows.leadsTo⟩

/-- Each event links to what it finds. -/
theorem follows_step (slave : Slave) (event : Event) :
    slave.Follows ((slave.deed? event).bind Deed.linked?) (slave.step event) := by
  have taken := slave.takes_step event
  generalize slave.step event = after at taken
  cases taken with
  | begun => exact slave.follows_beat
  | acknowledged phase_eq =>
      simp only [deed?, phase_eq]
      exact follows_of_link_eq rfl (.refl _)
  | failed phase_eq answer =>
      simpa only [deed?, phase_eq, Option.bind_some] using slave.follows_fail answer
  | probed phase_eq answer =>
      simpa only [deed?, phase_eq, Option.bind_some] using slave.follows_probe _ answer
  | stopRequested | abortRequested =>
      simp only [deed?]
      exact follows_of_link_eq rfl (.refl _)
  | clientsClosed =>
      simp only [deed?]
      exact follows_of_link_eq rfl (Clients.grows_close _)
  | outOfTurn _ not_due =>
      rw [deed?_of_not_isDue not_due]
      exact follows_of_link_eq rfl (.refl _)

theorem grows_run (slave : Slave) (events : List Event) :
    slave.clients.Grows (slave.run events).clients := by
  induction events generalizing slave with
  | nil => exact .refl _
  | cons event rest induction => exact (slave.follows_step event).grows.trans (induction _)

end Slave

namespace Course

/-! ## What a beat leaves to others -/

variable (course : Course) (network : Network) (now : UInt64)

theorem grows_ask : course.slave.clients.Grows course.ask.1.slave.clients := by
  unfold ask
  split
  next => exact .refl _
  next => exact course.slave.grows_run _

theorem grows_advance {course after : Course}
    (advanced : course.advance network now = some after) :
    course.slave.clients.Grows after.slave.clients := by
  have asked := course.grows_ask
  unfold advance at advanced
  split at advanced
  next => cases advanced
  next =>
    split at advanced
    next =>
      cases advanced
      exact (course.slave.follows_step _).grows
    next =>
      cases advanced
      exact asked.trans (Slave.follows_step _ _).grows
  next =>
    cases advanced
    exact asked.trans (Slave.follows_step _ _).grows

theorem grows_finish (fuel : Nat) :
    course.slave.clients.Grows (finish network now fuel course).slave.clients := by
  induction fuel generalizing course with
  | zero => exact .refl _
  | succ fuel induction =>
      rw [finish]
      split
      next => exact .refl _
      next advanced => exact (grows_advance network now advanced).trans (induction _)

theorem grows_beat : course.slave.clients.Grows (course.beat network now).slave.clients := by
  have begun := (course.slave.follows_step .beatDue).grows
  rw [beat]
  exact begun.trans (grows_finish { course with slave := course.slave.step .beatDue } network now _)

end Course
end Heartbeat
end ClusterMember

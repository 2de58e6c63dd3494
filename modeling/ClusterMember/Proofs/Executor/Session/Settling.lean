import ClusterMember.Proofs.Executor.Session.Reach

/-!
# How a session settles

All that can happen to a session by itself, and that a session which settles only makes moves.
-/

namespace ClusterMember
namespace Session

open ClusterMember.Core (Moves)

variable {α : Type} {session after : Session α} {aborted : Nat → Prop}

/-- What can happen to a session by itself. -/
inductive Happens (session after : Session α) : Prop
  | start (place : Nat) (started : session.startIn place = some after)
  | startScheduled (place : Nat) (started : session.startScheduledIn place = some after)
  | giveThread (given : session.giveThread = some after)
  | endWork {work : BlockingWork} (mem : work ∈ session.works)
      (ended : session.endWork work = some after)
  | advance {task : Task α} (mem : task ∈ session.tasks)
      (advanced : session.advanceTask task = some after)
  | advanceSchedule {schedule : Schedule} (mem : schedule ∈ session.schedules)
      (advanced : session.advanceSchedule schedule = some after)

/-- What happens next is something that can happen. -/
theorem happens_of_advance (advanced : session.advance = some after) : Happens session after := by
  simp only [advance, Option.or_eq_some_iff] at advanced
  rcases advanced with
    started | ⟨-, started | ⟨-, given | ⟨-, ended | ⟨-, advanced | ⟨-, advanced⟩⟩⟩⟩⟩
  · obtain ⟨place, -, started⟩ := List.exists_of_findSome?_eq_some started
    exact .start place started
  · obtain ⟨place, -, started⟩ := List.exists_of_findSome?_eq_some started
    exact .startScheduled place started
  · exact .giveThread given
  · obtain ⟨work, mem, ended⟩ := List.exists_of_findSome?_eq_some ended
    exact .endWork mem ended
  · obtain ⟨task, mem, advanced⟩ := List.exists_of_findSome?_eq_some advanced
    exact .advance mem advanced
  · obtain ⟨schedule, mem, advanced⟩ := List.exists_of_findSome?_eq_some advanced
    exact .advanceSchedule mem advanced

/-- As long as something can happen, something does. -/
theorem Happens.exists_advance (happens : Happens session after) :
    ∃ next, session.advance = some next := by
  refine Option.ne_none_iff_exists'.1 fun (still : session.advance = none) => ?_
  simp only [Session.advance, Option.or_eq_none_iff, List.findSome?_eq_none_iff,
    List.mem_range] at still
  obtain ⟨noStart, noScheduled, noThread, noEnd, noTask, noSchedule⟩ := still
  cases happens with
  | start place started =>
      obtain ⟨pool, _, found, -⟩ := startIn_cases started
      cases (noStart place (List.getElem?_eq_some_iff.1 found).1).symm.trans started
  | startScheduled place started =>
      obtain ⟨pool, _, _, found, -⟩ := startScheduledIn_cases started
      cases (noScheduled place (List.getElem?_eq_some_iff.1 found).1).symm.trans started
  | giveThread given => cases noThread.symm.trans given
  | endWork mem ended => cases (noEnd _ mem).symm.trans ended
  | advance mem advanced => cases (noTask _ mem).symm.trans advanced
  | advanceSchedule mem advanced => cases (noSchedule _ mem).symm.trans advanced

/-- A task is known by its number. -/
theorem task?_of_mem (nodup : (session.tasks.map Task.id).Nodup) {task : Task α}
    (mem : task ∈ session.tasks) : session.task? task.id = some task := by
  obtain ⟨found, known⟩ : ∃ found, session.task? task.id = some found := by
    refine Option.isSome_iff_exists.1 (List.find?_isSome.2 ⟨task, mem, ?_⟩)
    simp
  rw [known, List.inj_on_of_nodup_map nodup (List.mem_of_find?_eq_some known) mem
    (id_of_task? known)]

/-- What can happen is a row of moves. -/
theorem Happens.moves (sound : session.core.Sound aborted) (happens : Happens session after) :
    Moves aborted session.core after.core := by
  cases happens with
  | start place started =>
      obtain ⟨pool, id, -, -, started⟩ := startIn_cases started
      exact moves_startTask started
  | startScheduled place started => exact core_of_startScheduledIn started ▸ .refl
  | giveThread given => exact core_of_giveThread given ▸ .refl
  | endWork _ ended => exact core_of_endWork ended ▸ .refl
  | advance mem advanced => exact moves_advanceTask sound (task?_of_mem sound.nodup mem) advanced
  | advanceSchedule _ advanced => exact core_of_advanceSchedule advanced ▸ .refl

/-- A session that settles makes moves. -/
theorem moves_settleWith (sound : session.core.Sound aborted) (fuel : Nat) :
    Moves aborted session.core (settleWith fuel session).core := by
  induction fuel generalizing session with
  | zero => exact .refl
  | succ fuel induction =>
      rw [settleWith]
      split
      next => exact .refl
      next after advanced =>
        have moves := (happens_of_advance advanced).moves sound
        exact moves.trans (induction (moves.sound_and_lasts sound).1)

/-- A session becomes another one when so many things happen one after the other. -/
inductive Advances : Nat → Session α → Session α → Prop
  | refl (session : Session α) : Advances 0 session session
  | next {session middle after : Session α} {count : Nat}
      (advanced : session.advance = some middle) (rest : Advances count middle after) :
      Advances (count + 1) session after

theorem Advances.trans {middle : Session α} {first second : Nat}
    (before : Advances first session middle) (behind : Advances second middle after) :
    Advances (first + second) session after := by
  induction before with
  | refl => rwa [Nat.zero_add]
  | next advanced _ induction =>
      rw [Nat.add_right_comm]
      exact .next advanced (induction behind)

/-- What is known once some things have happened is known when the session has settled, if it lets
that many things happen. -/
theorem Advances.result?_settle {count : Nat} (advances : Advances count session after)
    (sound : after.core.Sound aborted) (bounded : count ≤ session.bound) {id : Nat}
    {result : Except Error α} (known : after.result? id = some result) :
    session.settle.result? id = some result := by
  have settles (fuel : Nat) (le : count ≤ fuel) :
      settleWith fuel session = settleWith (fuel - count) after := by
    clear sound known bounded
    induction advances generalizing fuel with
    | refl => rw [Nat.sub_zero]
    | @next _ _ _ count advanced _ induction =>
        cases fuel with
        | zero => cases le
        | succ fuel =>
            rw [settleWith, advanced, Nat.add_sub_add_right]
            exact induction fuel (Nat.le_of_succ_le_succ le)
  rw [settle, settles session.bound bounded, ← core_result?]
  exact ((moves_settleWith sound _).sound_and_lasts sound).2.result?_eq
    ((after.core_result? id).trans known)

end Session
end ClusterMember

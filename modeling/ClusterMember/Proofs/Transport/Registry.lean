import ClusterMember.Proofs.Keyed
import ClusterMember.Proofs.Text.Utf8
import ClusterMember.Transport.Registry.Course
import Mathlib.Data.List.Induction
import Mathlib.Data.List.Nodup
import Mathlib.Data.String.Basic

/-!
# Names are bound once and for ever

A registry binds each name to the first service that was offered under it, whatever is offered
later, and all that it shows is told by these bindings.  Mount points are apart because names are.
-/

namespace ClusterMember

namespace Registry

variable {σ : Type} {registry after : Registry σ} {name : String} {service : σ}

/-- The names that are taken, in the order in which they were. -/
def taken (registry : Registry σ) : List String := registry.entries.map Prod.fst

theorem has_iff (registry : Registry σ) (name : String) :
    registry.has name = true ↔ name ∈ registry.taken :=
  Keyed.isSome_lookup_iff name registry.entries

theorem register_of_taken (known : name ∈ registry.taken) (service : σ) :
    registry.register name service = .error (duplicateFault name) :=
  if_pos ((registry.has_iff name).2 known)

theorem register_of_free (free : name ∉ registry.taken) (service : σ) :
    registry.register name service = .ok ⟨registry.entries ++ [(name, service)]⟩ :=
  if_neg fun has => free ((registry.has_iff name).1 has)

/-! ## Names in order -/

theorem names_perm (registry : Registry σ) : registry.names.Perm registry.taken :=
  List.mergeSort_perm _ _

theorem length_names (registry : Registry σ) : registry.names.length = registry.count := by
  rw [registry.names_perm.length_eq, taken, List.length_map, count]

/-- Names that are taken once each stand in the strict order of their bytes. -/
theorem names_increase (nodup : registry.taken.Nodup) :
    registry.names.Pairwise fun first second => Utf8.encode first < Utf8.encode second := by
  have ordered : registry.names.Pairwise fun first second => decide (first ≤ second) = true := by
    apply List.pairwise_mergeSort
    · intro first second third
      simp only [decide_eq_true_eq]
      exact String.le_trans
    · intro first second
      simp only [Bool.or_eq_true, decide_eq_true_eq]
      exact String.le_total first second
  have apart : registry.names.Pairwise fun first second => first ≠ second :=
    registry.names_perm.nodup_iff.2 nodup
  refine ordered.imp₂ (fun first second le ne => ?_) apart
  have lt : first < second := lt_of_le_of_ne (of_decide_eq_true le) ne
  exact Utf8.encode_lt_encode lt

/-! ## Mount points -/

theorem servicePath_injective : Function.Injective Transport.servicePath := by
  intro first second eq
  unfold Transport.servicePath at eq
  exact (String.append_right_inj _).1 eq

theorem nodup_mounts (nodup : registry.taken.Nodup) : (registry.mounts.map Prod.fst).Nodup := by
  have paths_eq : registry.mounts.map Prod.fst = registry.taken.map Transport.servicePath := by
    rw [mounts, taken, List.map_map, List.map_map]
    rfl
  rw [paths_eq]
  exact nodup.map servicePath_injective

/-- What is mounted is each service at the path of its name. -/
theorem mem_mounts_iff (nodup : registry.taken.Nodup) (path : String) (service : σ) :
    (path, service) ∈ registry.mounts ↔
      ∃ name, path = Transport.servicePath name ∧ registry.find? name = some service := by
  rw [mounts, List.mem_map]
  constructor
  · rintro ⟨⟨name, kept⟩, mem, eq⟩
    obtain ⟨path_eq, rfl⟩ := Prod.mk.inj eq
    exact ⟨name, path_eq.symm, (Keyed.mem_iff_lookup nodup name kept).1 mem⟩
  · rintro ⟨name, rfl, found⟩
    exact ⟨(name, service), (Keyed.mem_iff_lookup nodup name service).2 found, rfl⟩

end Registry

namespace RegistryCourse

variable {σ : Type} {calls : List (String × σ)} {course : RegistryCourse σ}

/-- What a registry answers to an offer of a name, after other names were offered. -/
def answerTo (offered : List String) (name : String) : Except Error Unit :=
  if name ∈ offered then .error (.duplicateRegistration "rpc service" name) else .ok ()

/-- A registry holds the first service that was offered under each name, and has answered so. -/
structure Reflects (calls : List (String × σ)) (course : RegistryCourse σ) : Prop where
  find?_eq : ∀ name, course.registry.find? name = calls.lookup name
  nodup : course.registry.taken.Nodup
  length_answers : course.answers.length = calls.length
  answered : ∀ place call, calls[place]? = some call →
    course.answers[place]? = some (answerTo ((calls.take place).map Prod.fst) call.1)

namespace Reflects

variable (reflects : course.Reflects calls)
include reflects

theorem mem_taken_iff (name : String) :
    name ∈ course.registry.taken ↔ name ∈ calls.map Prod.fst := by
  rw [← Registry.has_iff, Registry.has, reflects.find?_eq, Keyed.isSome_lookup_iff]

/-- The next answer stands behind those that were given before. -/
theorem answered_append {call : String × σ} {answer : Except Error Unit}
    (answer_eq : answer = answerTo (calls.map Prod.fst) call.1) (place : Nat)
    (next : String × σ) (there : (calls ++ [call])[place]? = some next) :
    (course.answers ++ [answer])[place]? =
      some (answerTo (((calls ++ [call]).take place).map Prod.fst) next.1) := by
  have length_eq := reflects.length_answers
  rcases Nat.lt_trichotomy place calls.length with earlier | rfl | beyond
  · rw [List.getElem?_append_left earlier] at there
    rw [List.getElem?_append_left (by omega), List.take_append_of_le_length (by omega)]
    exact reflects.answered place next there
  · rw [List.getElem?_concat_length, Option.some.injEq] at there
    rw [← length_eq, List.getElem?_concat_length, length_eq, List.take_left, answer_eq, there]
  · rw [List.getElem?_eq_none (by simp; omega)] at there
    cases there

theorem offer (call : String × σ) : (course.offer call).Reflects (calls ++ [call]) := by
  obtain ⟨name, service⟩ := call
  by_cases known : name ∈ course.registry.taken
  · -- The first service of the name is among those offered before.
    have offered : name ∈ calls.map Prod.fst := (reflects.mem_taken_iff name).1 known
    have refused := Registry.register_of_taken known service
    have offer_eq : course.offer (name, service) =
        { course with
          answers := course.answers ++ [.error (Registry.duplicateFault name)] } := by
      rw [RegistryCourse.offer, refused]
    rw [offer_eq]
    refine ⟨fun other => ?_, reflects.nodup, ?_, ?_⟩
    · rw [reflects.find?_eq, List.lookup_append]
      cases found : calls.lookup other with
      | some first => rfl
      | none =>
          have other_ne : other ≠ name := by
            rintro rfl
            rw [← Keyed.isSome_lookup_iff, found] at offered
            cases offered
          simp [List.lookup_cons, beq_eq_false_iff_ne.2 other_ne]
    · simp [reflects.length_answers]
    · apply reflects.answered_append
      rw [answerTo, if_pos offered]
      rfl
  · have fresh : name ∉ calls.map Prod.fst := fun offered =>
      known ((reflects.mem_taken_iff name).2 offered)
    have accepted := Registry.register_of_free known service
    have offer_eq : course.offer (name, service) =
        ⟨⟨course.registry.entries ++ [(name, service)]⟩, course.answers ++ [.ok ()]⟩ := by
      rw [RegistryCourse.offer, accepted]
    rw [offer_eq]
    refine ⟨fun other => ?_, ?_, ?_, ?_⟩
    · rw [Registry.find?, List.lookup_append, List.lookup_append, ← reflects.find?_eq other]
      rfl
    · rw [Registry.taken, List.map_append]
      exact reflects.nodup.append (List.nodup_singleton name) (by simpa using known)
    · simp [reflects.length_answers]
    · apply reflects.answered_append
      rw [answerTo, if_neg fresh]

end Reflects

theorem reflects_empty : (⟨.empty, []⟩ : RegistryCourse σ).Reflects [] where
  find?_eq _ := rfl
  nodup := List.nodup_nil
  length_answers := rfl
  answered _ _ there := nomatch there

theorem reflects_run (calls : List (String × σ)) : (run calls).Reflects calls := by
  induction calls using List.reverseRecOn with
  | nil => exact reflects_empty
  | append_singleton before call induction =>
      rw [run, List.foldl_append]
      exact induction.offer call

/-- All that a registry shows is told by the services that were offered to it. -/
structure Binds (calls : List (String × σ)) (course : RegistryCourse σ) : Prop where
  /-- A name is bound to the first service that was offered under it. -/
  find?_eq : ∀ name, course.registry.find? name = calls.lookup name
  length_answers : course.answers.length = calls.length
  answered : ∀ place call, calls[place]? = some call →
    course.answers[place]? = some (answerTo ((calls.take place).map Prod.fst) call.1)
  /-- A name that was offered is refused from then on, and nothing changes. -/
  refuses : ∀ name service, name ∈ calls.map Prod.fst →
    course.registry.register name service = .error (.duplicateRegistration "rpc service" name) ∧
      (course.offer (name, service)).registry = course.registry
  /-- A name stays bound to its service. -/
  lasts : ∀ later name service, course.registry.find? name = some service →
    (run (calls ++ later)).registry.find? name = some service
  names_increase : course.registry.names.Pairwise fun first second =>
    Utf8.encode first < Utf8.encode second
  mem_names_iff : ∀ name, name ∈ course.registry.names ↔ name ∈ calls.map Prod.fst
  count_eq : course.registry.count = course.registry.names.length
  has_iff : ∀ name, course.registry.has name = true ↔ name ∈ course.registry.names
  /-- No two services are mounted at the same path. -/
  nodup_mounts : (course.registry.mounts.map Prod.fst).Nodup
  /-- The services that are mounted are the first ones of their names. -/
  mem_mounts_iff : ∀ path service, (path, service) ∈ course.registry.mounts ↔
    ∃ name ∈ course.registry.names, path = Transport.servicePath name ∧
      calls.lookup name = some service

/-- A registry binds names once and for ever, whatever is offered to it. -/
theorem run_binds (calls : List (String × σ)) : (run calls).Binds calls := by
  have reflects := reflects_run calls
  have mem_names_iff (name : String) :
      name ∈ (run calls).registry.names ↔ name ∈ (run calls).registry.taken :=
    (run calls).registry.names_perm.mem_iff
  refine
    { find?_eq := reflects.find?_eq
      length_answers := reflects.length_answers
      answered := reflects.answered
      refuses := fun name service offered => ?_
      lasts := fun later name service found => ?_
      names_increase := Registry.names_increase reflects.nodup
      mem_names_iff := fun name => (mem_names_iff name).trans (reflects.mem_taken_iff name)
      count_eq := (run calls).registry.length_names.symm
      has_iff := fun name => ((run calls).registry.has_iff name).trans (mem_names_iff name).symm
      nodup_mounts := Registry.nodup_mounts reflects.nodup
      mem_mounts_iff := fun path service => ?_ }
  · have refused :=
      Registry.register_of_taken ((reflects.mem_taken_iff name).2 offered) service
    refine ⟨refused, ?_⟩
    rw [offer, refused]
  · rw [reflects.find?_eq] at found
    rw [(reflects_run (calls ++ later)).find?_eq, List.lookup_append, found, Option.some_or]
  · rw [Registry.mem_mounts_iff reflects.nodup]
    constructor
    · rintro ⟨name, path_eq, found⟩
      have bound : (run calls).registry.has name = true := by rw [Registry.has, found]; rfl
      have listed := (mem_names_iff name).2 (((run calls).registry.has_iff name).1 bound)
      exact ⟨name, listed, path_eq, by rw [← reflects.find?_eq, found]⟩
    · rintro ⟨name, -, path_eq, found⟩
      exact ⟨name, path_eq, by rw [reflects.find?_eq, found]⟩

end RegistryCourse
end ClusterMember

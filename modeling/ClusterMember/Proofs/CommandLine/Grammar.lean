import ClusterMember.CommandLine.Options
import ClusterMember.Proofs.Text.Numeral

/-!
# The grammar of the command line

Arguments are a row of settings, of two arguments each, in which a role is named.  Reading accepts
these arguments and takes the last setting of each kind; for all others it reports the first pair
that is no setting, a flag without a value, or else the missing role.
-/

namespace ClusterMember

/-- A text names a level: by its rank, or by its name in letters of either case. -/
def LogLevel.NamedBy (level : LogLevel) (text : String) : Prop :=
  Decimal.Numeral word64Max text.toList level.rank ∨ text.toList.map upper = level.name.toList

namespace Options

/-- What two arguments set. -/
inductive Setting where
  | role (role : Role)
  | config (path : String)
  | logLevel (level : LogLevel)
  deriving DecidableEq

namespace Setting

/-- A flag and a value are a setting.  Any text is a path. -/
inductive Spells : String → String → Setting → Prop
  | role {value : String} {role : Role} (named : role.name = value) :
      Spells "--role" value (.role role)
  | config (value : String) : Spells "--config" value (.config value)
  | logLevel {value : String} {level : LogLevel} (named : level.NamedBy value) :
      Spells "--log-level" value (.logLevel level)

/-- The role that is set. -/
def role? : Setting → Option Role
  | .role named => some named
  | _ => none

/-- The path that is set. -/
def config? : Setting → Option String
  | .config named => some named
  | _ => none

/-- The level that is set. -/
def logLevel? : Setting → Option LogLevel
  | .logLevel named => some named
  | _ => none

end Setting

/-- Arguments are a row of settings. -/
inductive Spelled : List String → List Setting → Prop
  | nil : Spelled [] []
  | pair {flag value : String} {setting : Setting} {arguments : List String}
      {settings : List Setting} (spells : Setting.Spells flag value setting)
      (spelled : Spelled arguments settings) :
      Spelled (flag :: value :: arguments) (setting :: settings)

/-- Options hold the last setting of each kind. -/
structure HoldsLast (options : Options) (settings : List Setting) : Prop where
  role : (settings.filterMap Setting.role?).getLast? = some options.role
  config : (settings.filterMap Setting.config?).getLast? = options.config
  logLevel : ((settings.filterMap Setting.logLevel?).getLast?).getD .info = options.logLevel

/-- Arguments do not begin with a setting. -/
inductive Offends : List String → UsageFault → Prop
  /-- A flag, whatever it is, has no value. -/
  | dangling (flag : String) : Offends [flag] (.unexpected flag)
  | flag {flag value : String} {rest : List String}
      (unknown : flag ∉ ["--role", "--config", "--log-level"]) :
      Offends (flag :: value :: rest) (.unexpected flag)
  | role {value : String} {rest : List String} (unknown : ∀ role : Role, role.name ≠ value) :
      Offends ("--role" :: value :: rest) (.role (.unknownRole value))
  | logLevel {value : String} {rest : List String}
      (unknown : ∀ level : LogLevel, ¬level.NamedBy value) :
      Offends ("--log-level" :: value :: rest) (.logLevel value)

/-- The first fault of arguments; a missing role comes behind all others. -/
inductive Refusal (arguments : List String) : UsageFault → Prop
  | offence {front rest : List String} {settings : List Setting} {fault : UsageFault}
      (arguments_eq : arguments = front ++ rest) (spelled : Spelled front settings)
      (offends : Offends rest fault) : Refusal arguments fault
  | noRole {settings : List Setting} (spelled : Spelled arguments settings)
      (missing : settings.filterMap Setting.role? = []) : Refusal arguments .noRole

/-- The loop over arguments goes from the options given so far to its outcome in some turns, each
of which looks at a flag. -/
inductive Loop : Given → List String → Nat → Except UsageFault Given → Prop
  | done (given : Given) : Loop given [] 0 (.ok given)
  | dangling (given : Given) (flag : String) : Loop given [flag] 1 (.error (.unexpected flag))
  | stops {given : Given} {flag value : String} {rest : List String} {fault : UsageFault}
      (refused : given.take flag value = .error fault) :
      Loop given (flag :: value :: rest) 1 (.error fault)
  | goesOn {given after : Given} {flag value : String} {rest : List String} {turns : Nat}
      {outcome : Except UsageFault Given} (taken : given.take flag value = .ok after)
      (loop : Loop after rest turns outcome) :
      Loop given (flag :: value :: rest) (turns + 1) outcome

/-- Arguments are read by their grammar. -/
structure ReadByGrammar (arguments : List String) : Prop where
  ok_iff : ∀ options, ofArguments arguments = .ok options ↔
    ∃ settings, Spelled arguments settings ∧ options.HoldsLast settings
  error_iff : ∀ fault, ofArguments arguments = .error fault ↔ Refusal arguments fault
  /-- The loop comes to its end with half as many turns as there are arguments, or fewer. -/
  ends : ∃ turns, 2 * turns ≤ arguments.length + 1 ∧
    Loop {} arguments turns (({} : Given).takeAll arguments)

end Options

/-! ## Levels and roles -/

namespace LogLevel

theorem mem_all (level : LogLevel) : level ∈ all := by
  cases level <;> decide

theorem eq_of_rank_eq {level other : LogLevel} (same : level.rank = other.rank) :
    level = other := by
  have all_ranks : ∀ level ∈ all, ∀ other ∈ all, level.rank = other.rank → level = other := by
    decide
  exact all_ranks level (mem_all level) other (mem_all other) same

theorem eq_of_name_eq {level other : LogLevel} (same : level.name.toList = other.name.toList) :
    level = other := by
  have all_names : ∀ level ∈ all, ∀ other ∈ all,
      level.name.toList = other.name.toList → level = other := by
    decide
  exact all_names level (mem_all level) other (mem_all other) same

theorem find?_eq_some_iff {test : LogLevel → Bool} {level : LogLevel}
    (unique : ∀ other, test other = true → other = level) :
    all.find? test = some level ↔ test level = true := by
  constructor
  · exact List.find?_some
  · intro holds
    obtain ⟨found, found_eq⟩ : ∃ found, all.find? test = some found :=
      Option.isSome_iff_exists.1 (List.find?_isSome.2 ⟨level, mem_all level, holds⟩)
    rw [found_eq, unique found (List.find?_some found_eq)]

theorem upper_of_isDigit {c : Char} (digit : c.isDigit = true) : upper c = c := by
  have below : c ≤ '9' := by
    simp only [Char.isDigit, Bool.and_eq_true, decide_eq_true_eq] at digit
    exact digit.2
  have not_letter : ¬('a' ≤ c ∧ c ≤ 'z') := fun letter =>
    absurd (Char.le_trans letter.1 below) (by decide)
  rw [upper, if_neg not_letter]

/-- No name has a digit. -/
theorem isDigit_of_mem_name {level : LogLevel} {c : Char} (mem : c ∈ level.name.toList) :
    c.isDigit = false := by
  have no_digit : level.name.toList.any Char.isDigit = false := by cases level <;> rfl
  exact eq_false_of_ne_true fun digit =>
    absurd (List.any_eq_true.2 ⟨c, mem, digit⟩) (ne_true_of_eq_false no_digit)

/-- A numeral has a digit, so it is no name. -/
theorem name_ne_of_numeral {text : List Char} {largest value : Nat}
    (numeral : Decimal.Numeral largest text value) (level : LogLevel) :
    text.map upper ≠ level.name.toList := by
  obtain ⟨digits, text_eq, nonempty, all_digits, -⟩ := numeral.spelled
  obtain ⟨c, c_mem⟩ := List.exists_mem_of_ne_nil digits nonempty
  have c_digit := all_digits c c_mem
  have text_mem : c ∈ text := by
    rcases text_eq with rfl | rfl
    · exact c_mem
    · exact List.mem_cons_of_mem _ c_mem
  intro same
  have name_mem : upper c ∈ level.name.toList := same ▸ List.mem_map_of_mem text_mem
  rw [upper_of_isDigit c_digit] at name_mem
  rw [isDigit_of_mem_name name_mem] at c_digit
  cases c_digit

theorem ofText?_eq_some_iff (text : String) (level : LogLevel) :
    ofText? text = some level ↔ level.NamedBy text := by
  unfold ofText? NamedBy
  cases read_eq : Decimal.read word64Max text.toList with
  | ok value =>
      have numeral := (Decimal.read_eq_ok_iff _ _ _).1 read_eq
      have by_rank (other : LogLevel) :
          Decimal.Numeral word64Max text.toList other.rank ↔ other.rank = value := by
        rw [← Decimal.read_eq_ok_iff, read_eq, Except.ok.injEq, eq_comm]
      simp only [by_rank, name_ne_of_numeral numeral, or_false]
      constructor
      · intro found
        simpa using List.find?_some found
      · rintro rfl
        rw [find?_eq_some_iff fun other same => eq_of_rank_eq (of_decide_eq_true same)]
        exact decide_eq_true rfl
  | error fault =>
      have no_numeral : ¬Decimal.Numeral word64Max text.toList level.rank := by
        rw [← Decimal.read_eq_ok_iff, read_eq]
        exact nofun
      simp only [no_numeral, false_or]
      constructor
      · intro found
        have same := List.find?_some found
        exact (of_decide_eq_true same).symm
      · intro same
        rw [find?_eq_some_iff fun other other_same =>
          eq_of_name_eq ((of_decide_eq_true other_same).trans same)]
        exact decide_eq_true same.symm

theorem ofText?_eq_none_iff (text : String) :
    ofText? text = none ↔ ∀ level : LogLevel, ¬level.NamedBy text := by
  simp only [Option.eq_none_iff_forall_not_mem, Option.mem_def, ofText?_eq_some_iff]

end LogLevel

namespace Role

theorem ofName_eq_ok_iff (name : String) (role : Role) :
    ofName name = .ok role ↔ role.name = name := by
  have found_iff : ofName? name = some role ↔ role.name = name := by
    constructor
    · intro found
      simpa using List.find?_some found
    · rintro rfl
      cases role <;> decide
  rw [← found_iff]
  unfold ofName
  cases ofName? name <;> simp

theorem ofName_eq_error_iff (name : String) (fault : ConfigFault) :
    ofName name = .error fault ↔
      (∀ role : Role, role.name ≠ name) ∧ fault = .unknownRole name := by
  have unnamed_iff : (∀ role : Role, role.name ≠ name) ↔ ofName? name = none := by
    constructor
    · intro unnamed
      exact List.find?_eq_none.2 fun role _ => by simpa using unnamed role
    · intro nothing role named
      have found := (ofName_eq_ok_iff name role).2 named
      rw [ofName, nothing] at found
      cases found
  rw [unnamed_iff]
  unfold ofName
  cases ofName? name <;> simp [eq_comm]

end Role

namespace Options

/-! ## One pair -/

/-- The options given so far with one more setting. -/
def Given.set (given : Given) : Setting → Given
  | .role named => { given with role := some named }
  | .config named => { given with config := some named }
  | .logLevel named => { given with logLevel := named }

namespace Given

variable {given after : Given} {flag value : String} {fault : UsageFault}

theorem take_of_spells {setting : Setting} (spells : Setting.Spells flag value setting)
    (given : Given) : given.take flag value = .ok (given.set setting) := by
  cases spells with
  | role named =>
      have read_eq := (Role.ofName_eq_ok_iff _ _).2 named
      simp [take, read_eq, set]
  | config => rfl
  | logLevel named =>
      have read_eq := (LogLevel.ofText?_eq_some_iff _ _).2 named
      simp [take, read_eq, set]

theorem take_eq_ok_iff : given.take flag value = .ok after ↔
    ∃ setting, Setting.Spells flag value setting ∧ given.set setting = after := by
  constructor
  · intro taken
    unfold take at taken
    split at taken
    next flag_eq =>
      subst flag_eq
      split at taken
      next role read_eq =>
        cases taken
        exact ⟨_, .role ((Role.ofName_eq_ok_iff _ _).1 read_eq), rfl⟩
      next => cases taken
    next =>
      split at taken
      next flag_eq =>
        subst flag_eq
        cases taken
        exact ⟨_, .config value, rfl⟩
      next =>
        split at taken
        next flag_eq =>
          subst flag_eq
          split at taken
          next level read_eq =>
            cases taken
            exact ⟨_, .logLevel ((LogLevel.ofText?_eq_some_iff _ _).1 read_eq), rfl⟩
          next => cases taken
        next => cases taken
  · rintro ⟨setting, spells, rfl⟩
    exact take_of_spells spells given

theorem take_eq_error_iff (given : Given) (rest : List String) :
    given.take flag value = .error fault ↔ Offends (flag :: value :: rest) fault := by
  constructor
  · intro refused
    unfold take at refused
    split at refused
    next flag_eq =>
      subst flag_eq
      split at refused
      next => cases refused
      next cause read_eq =>
        cases refused
        obtain ⟨unnamed, rfl⟩ := (Role.ofName_eq_error_iff _ _).1 read_eq
        exact .role unnamed
    next not_role =>
      split at refused
      next => cases refused
      next not_config =>
        split at refused
        next flag_eq =>
          subst flag_eq
          split at refused
          next => cases refused
          next read_eq =>
            cases refused
            exact .logLevel ((LogLevel.ofText?_eq_none_iff _).1 read_eq)
        next not_level =>
          cases refused
          exact .flag (by simp [not_role, not_config, not_level])
  · intro offends
    cases offends with
    | flag unknown =>
        simp only [List.mem_cons, List.not_mem_nil, or_false, not_or] at unknown
        simp [take, unknown]
    | role unknown =>
        have read_eq := (Role.ofName_eq_error_iff _ _).2 ⟨unknown, rfl⟩
        simp [take, read_eq]
    | logLevel unknown =>
        have read_eq := (LogLevel.ofText?_eq_none_iff _).2 unknown
        simp [take, read_eq]

/-! ## All pairs -/

theorem takeAll_eq_ok_iff (given after : Given) (arguments : List String) :
    given.takeAll arguments = .ok after ↔
      ∃ settings, Spelled arguments settings ∧ settings.foldl set given = after := by
  induction given, arguments using takeAll.induct with
  | case1 given =>
      rw [takeAll, Except.ok.injEq]
      constructor
      · rintro rfl
        exact ⟨[], .nil, rfl⟩
      · rintro ⟨_, spelled, rfl⟩
        cases spelled
        rfl
  | case2 given flag =>
      rw [takeAll]
      refine iff_of_false nofun ?_
      rintro ⟨_, spelled, -⟩
      cases spelled
  | case3 given flag value rest next taken induction =>
      rw [takeAll, taken]
      refine induction.trans ?_
      obtain ⟨setting, spells, rfl⟩ := take_eq_ok_iff.1 taken
      constructor
      · rintro ⟨settings, spelled, rfl⟩
        exact ⟨setting :: settings, .pair spells spelled, rfl⟩
      · rintro ⟨_, spelled, rfl⟩
        cases spelled with
        | pair other_spells spelled =>
            have taken_too := take_of_spells other_spells given
            rw [taken, Except.ok.injEq] at taken_too
            exact ⟨_, spelled, by rw [List.foldl_cons, taken_too]⟩
  | case4 given flag value rest fault refused =>
      rw [takeAll, refused]
      refine iff_of_false nofun ?_
      rintro ⟨_, spelled, -⟩
      cases spelled with
      | pair spells spelled =>
          have taken := take_of_spells spells given
          rw [refused] at taken
          cases taken

/-- Reading stops at the first arguments that are no setting. -/
theorem takeAll_eq_error_iff (given : Given) (arguments : List String) (fault : UsageFault) :
    given.takeAll arguments = .error fault ↔
      ∃ front rest settings, arguments = front ++ rest ∧ Spelled front settings ∧
        Offends rest fault := by
  induction given, arguments using takeAll.induct with
  | case1 given =>
      rw [takeAll]
      refine iff_of_false nofun ?_
      rintro ⟨front, rest, _, nil_eq, -, offends⟩
      obtain ⟨-, rfl⟩ := List.append_eq_nil_iff.1 nil_eq.symm
      cases offends
  | case2 given flag =>
      rw [takeAll, Except.error.injEq]
      constructor
      · rintro rfl
        exact ⟨[], _, [], rfl, .nil, .dangling flag⟩
      · rintro ⟨front, rest, _, arguments_eq, spelled, offends⟩
        cases spelled with
        | nil =>
            cases arguments_eq
            cases offends
            rfl
        | pair => simp at arguments_eq
  | case3 given flag value rest next taken induction =>
      rw [takeAll, taken]
      refine induction.trans ?_
      obtain ⟨setting, spells, -⟩ := take_eq_ok_iff.1 taken
      constructor
      · rintro ⟨front, back, settings, rfl, spelled, offends⟩
        exact ⟨flag :: value :: front, back, setting :: settings, rfl, .pair spells spelled,
          offends⟩
      · rintro ⟨front, back, _, arguments_eq, spelled, offends⟩
        cases spelled with
        | nil =>
            -- The first pair was taken, so it is no offence.
            cases arguments_eq
            rw [← take_eq_error_iff given rest, taken] at offends
            cases offends
        | pair _ spelled =>
            simp only [List.cons_append, List.cons.injEq] at arguments_eq
            obtain ⟨-, -, rest_eq⟩ := arguments_eq
            exact ⟨_, back, _, rest_eq, spelled, offends⟩
  | case4 given flag value rest stopped refused =>
      rw [takeAll, refused, Except.error.injEq]
      constructor
      · rintro rfl
        exact ⟨[], _, [], rfl, .nil, (take_eq_error_iff _ rest).1 refused⟩
      · rintro ⟨front, back, _, arguments_eq, spelled, offends⟩
        cases spelled with
        | nil =>
            cases arguments_eq
            rw [← take_eq_error_iff given rest, refused] at offends
            exact Except.error.inj offends
        | pair spells spelled =>
            simp only [List.cons_append, List.cons.injEq] at arguments_eq
            obtain ⟨rfl, rfl, -⟩ := arguments_eq
            have taken := take_of_spells spells given
            rw [refused] at taken
            cases taken

theorem exists_loop (given : Given) (arguments : List String) :
    ∃ turns, 2 * turns ≤ arguments.length + 1 ∧
      Loop given arguments turns (given.takeAll arguments) := by
  induction given, arguments using takeAll.induct with
  | case1 given => exact ⟨0, by simp, .done given⟩
  | case2 given flag => exact ⟨1, by simp, .dangling given flag⟩
  | case3 given flag value rest next taken induction =>
      obtain ⟨turns, bound, loop⟩ := induction
      rw [takeAll, taken]
      refine ⟨turns + 1, ?_, .goesOn taken loop⟩
      simp only [List.length_cons]
      omega
  | case4 given flag value rest fault refused =>
      rw [takeAll, refused]
      exact ⟨1, by simp, .stops refused⟩

/-! ## The last setting of each kind -/

theorem getLast?_filterMap_cons {α : Type} (kind : Setting → Option α) (setting : Setting)
    (settings : List Setting) :
    ((setting :: settings).filterMap kind).getLast? =
      (settings.filterMap kind).getLast?.or (kind setting) := by
  rw [List.filterMap_cons]
  cases kind setting with
  | none => exact Option.or_none.symm
  | some named => rw [List.getLast?_cons]; cases (settings.filterMap kind).getLast? <;> rfl

theorem foldl_set_eq (given : Given) (settings : List Setting) :
    settings.foldl set given =
      { role := (settings.filterMap Setting.role?).getLast?.or given.role
        config := (settings.filterMap Setting.config?).getLast?.or given.config
        logLevel := (settings.filterMap Setting.logLevel?).getLast?.getD given.logLevel } := by
  induction settings generalizing given with
  | nil => rfl
  | cons setting settings induction =>
      rw [List.foldl_cons, induction]
      simp only [getLast?_filterMap_cons, Option.or_assoc]
      cases setting with
      | role named => simp [set, Setting.role?, Setting.config?, Setting.logLevel?]
      | config named => simp [set, Setting.role?, Setting.config?, Setting.logLevel?]
      | logLevel named => simp [set, Setting.role?, Setting.config?, Setting.logLevel?]

end Given

/-! ## Options -/

variable {arguments : List String}

/-- Settings are taken over into options, unless no role is named. -/
theorem ofArguments_of_spelled {settings : List Setting} (spelled : Spelled arguments settings) :
    ofArguments arguments =
      match (settings.filterMap Setting.role?).getLast? with
      | some named =>
          .ok ⟨named, (settings.filterMap Setting.config?).getLast?,
            (settings.filterMap Setting.logLevel?).getLast?.getD .info⟩
      | none => .error .noRole := by
  have taken := (Given.takeAll_eq_ok_iff {} _ arguments).2 ⟨settings, spelled, rfl⟩
  rw [ofArguments, taken, Given.foldl_set_eq]
  cases (settings.filterMap Setting.role?).getLast? with
  | none => simp only [Option.or_none]
  | some named => simp only [Option.or_none]

theorem ofArguments_eq_ok_iff (options : Options) :
    ofArguments arguments = .ok options ↔
      ∃ settings, Spelled arguments settings ∧ options.HoldsLast settings := by
  constructor
  · intro read
    unfold ofArguments at read
    split at read
    next => cases read
    next given taken =>
      obtain ⟨settings, spelled, rfl⟩ := (Given.takeAll_eq_ok_iff _ _ _).1 taken
      rw [Given.foldl_set_eq] at read
      simp only [Option.or_none] at read
      split at read
      next named role_eq =>
        cases read
        exact ⟨settings, spelled, ⟨role_eq, rfl, rfl⟩⟩
      next => cases read
  · rintro ⟨settings, spelled, holds⟩
    rw [ofArguments_of_spelled spelled, holds.role, holds.config, holds.logLevel]

theorem ofArguments_eq_error_iff (fault : UsageFault) :
    ofArguments arguments = .error fault ↔ Refusal arguments fault := by
  constructor
  · intro read
    unfold ofArguments at read
    split at read
    next stopped refused =>
      cases read
      obtain ⟨front, rest, settings, arguments_eq, spelled, offends⟩ :=
        (Given.takeAll_eq_error_iff _ _ _).1 refused
      exact .offence arguments_eq spelled offends
    next given taken =>
      obtain ⟨settings, spelled, rfl⟩ := (Given.takeAll_eq_ok_iff _ _ _).1 taken
      rw [Given.foldl_set_eq] at read
      simp only [Option.or_none] at read
      split at read
      next => cases read
      next role_eq =>
        cases read
        exact .noRole spelled (List.getLast?_eq_none_iff.1 role_eq)
  · intro refusal
    cases refusal with
    | offence arguments_eq spelled offends =>
        have refused := (Given.takeAll_eq_error_iff {} _ _).2
          ⟨_, _, _, arguments_eq, spelled, offends⟩
        rw [ofArguments, refused]
    | noRole spelled missing => rw [ofArguments_of_spelled spelled, missing]; rfl

/-- Whatever the arguments are, they are read by their grammar. -/
theorem ofArguments_grammatical (arguments : List String) : ReadByGrammar arguments where
  ok_iff := ofArguments_eq_ok_iff
  error_iff := ofArguments_eq_error_iff
  ends := Given.exists_loop {} arguments

/-- A flag may be a value, and the last role counts. -/
example : ofArguments ["--role", "slave", "--config", "--role", "--role", "master"] =
    .ok ⟨.master, some "--role", .info⟩ := by
  decide

end Options
end ClusterMember

import ReviewGate.Proofs.Time.Elapsed
import ReviewGate.Proofs.Trust.Service

/-!
# Ends of windows

A window ends so many hours after it has been opened, or when the window before it ends.  The hours
are a word without a sign that is read as one with a sign, and no check keeps them within the
calendar: where it does not reach the end, the window fails to open or ends elsewhere.  Either way
no window is made shorter.
-/

namespace ReviewGate

/-! ## Sums of hours -/

namespace Instant

variable {instant first second : Instant}

theorem le_addSeconds {seconds : Int} (forward : 0 ≤ seconds) :
    instant ≤ instant.addSeconds seconds := by
  rw [le_iff]
  unfold addSeconds
  split
  · dsimp only
    omega
  · split
    · exact .inl (by dsimp only; omega)
    · omega

theorem left_le_latest : first ≤ first.latest second := by
  unfold latest
  split
  · exact le_of_lt ‹_›
  · exact le_refl first

theorem right_le_latest : second ≤ first.latest second := by
  unfold latest
  split
  · exact le_refl second
  · exact not_lt_iff.mp ‹_›

theorem inCalendar_latest (left : first.inCalendar = true) (right : second.inCalendar = true) :
    (first.latest second).inCalendar = true := by
  unfold latest
  split
  · exact right
  · exact left

theorem inCalendar_iff : instant.inCalendar = true ↔
    -8334601228800 ≤ instant.seconds ∧ instant.seconds < 8210266876800 := by
  have first : (Day.ofDate ⟨-262143, 1, 1⟩).number = -96465292 := by decide
  have last : (Day.ofDate ⟨262142, 12, 31⟩).number = 95026236 := by decide
  unfold inCalendar
  rw [first, last, Bool.and_eq_true, decide_eq_true_eq, decide_eq_true_eq]
  omega

theorem addHours?_eq_some_iff {hours : Int} {moved : Instant} :
    instant.addHours? hours = some moved ↔
      instant.addSeconds (hours * 3600) = moved ∧ moved.inCalendar = true := by
  unfold addHours?
  dsimp only
  split
  · rename_i within
    rw [Option.some_inj]
    exact ⟨fun same => ⟨same, same ▸ within⟩, And.left⟩
  · rename_i beyond
    exact ⟨nofun, fun ⟨same, within⟩ => absurd (same ▸ within) beyond⟩

end Instant

theorem signedWord_eq {value : Nat} (small : value < 9223372036854775808) :
    signedWord value = value := by
  unfold signedWord
  rw [Nat.pow_eq]
  exact Int.bmod_eq_of_le (by omega) (by omega)

namespace CoolingOffPolicy

variable {policy : CoolingOffPolicy} {honesty : Honesty} {now deadline : Instant}
  {open? : Option Instant}

/-- So many hours from now, all of them counted. -/
def requested (policy : CoolingOffPolicy) (honesty : Honesty) (now : Instant) : Instant :=
  now.addSeconds (policy.hours honesty * 3600)

/-- The end that a window should have. -/
def due (policy : CoolingOffPolicy) (honesty : Honesty) (now : Instant)
    (open? : Option Instant) : Instant :=
  (open?.map (policy.requested honesty now).latest).getD (policy.requested honesty now)

theorem le_due : now ≤ policy.due honesty now open? := by
  have forward : now ≤ policy.requested honesty now := Instant.le_addSeconds (by omega)
  unfold due
  cases open? with
  | none => exact forward
  | some earlier => exact Instant.le_trans forward Instant.left_le_latest

/-- Where the calendar reaches that end, the hours are few enough to be read as they are. -/
theorem hours_lt (shown : now.inCalendar = true)
    (within : (policy.requested honesty now).inCalendar = true) :
    policy.hours honesty < 9223372036854775808 := by
  have moved : now.seconds + policy.hours honesty * 3600 ≤
      (policy.requested honesty now).seconds := by
    unfold requested Instant.addSeconds
    repeat' split
    all_goals dsimp only; omega
  rw [Instant.inCalendar_iff] at shown within
  omega

theorem deadline?_eq_ok (shown : now.inCalendar = true)
    (within : (policy.requested honesty now).inCalendar = true) :
    policy.deadline? honesty now open? = .ok (policy.due honesty now open?) := by
  have reached : now.addHours? (policy.hours honesty) = some (policy.requested honesty now) :=
    Instant.addHours?_eq_some_iff.mpr ⟨rfl, within⟩
  unfold deadline?
  rw [signedWord_eq (hours_lt shown within), reached]
  rfl

/-- Whatever the hours, a window that opens is not shorter than the one before it and ends within
the calendar. -/
theorem deadline?_spec (ends : policy.deadline? honesty now open? = .ok deadline) :
    (∀ earlier ∈ open?, earlier ≤ deadline) ∧
      ((∀ earlier ∈ open?, earlier.inCalendar = true) → deadline.inCalendar = true) := by
  unfold deadline? at ends
  split at ends
  · cases ends
  · rename_i requested added
    have within := (Instant.addHours?_eq_some_iff.mp added).2
    cases ends
    cases open? with
    | none => exact ⟨nofun, fun _ => within⟩
    | some earlier =>
        refine ⟨?_, fun shown => Instant.inCalendar_latest within (shown earlier rfl)⟩
        rintro _ ⟨⟩
        exact Instant.right_le_latest

/-- The window that should open is the one that opens exactly where the calendar reaches its end. -/
theorem deadline?_eq_due_iff (shown : now.inCalendar = true)
    (before : ∀ earlier ∈ open?, earlier.inCalendar = true) :
    policy.deadline? honesty now open? = .ok (policy.due honesty now open?) ↔
      (policy.requested honesty now).inCalendar = true := by
  refine ⟨fun ends => ?_, deadline?_eq_ok shown⟩
  -- the end that should be is the requested one or later, and what opens is within the calendar
  have within := (deadline?_spec ends).2 before
  have forward : now ≤ policy.requested honesty now := Instant.le_addSeconds (by omega)
  have ordered : policy.requested honesty now ≤ policy.due honesty now open? := by
    unfold due
    cases open? with
    | none => exact Instant.le_refl _
    | some earlier => exact Instant.left_le_latest
  rw [Instant.inCalendar_iff] at shown within ⊢
  rw [Instant.le_iff] at forward ordered
  omega

end CoolingOffPolicy

/-! ## Windows of identities -/

namespace Engine

variable {R K : Type} [Scalar R] [KeyProvider K] {engine : Engine R K} {identity : String}

omit [Scalar R] [KeyProvider K] in
/-- The end of the newest window of an identity. -/
def windowEnd? (engine : Engine R K) (identity : String) : Option Instant :=
  (engine.record? identity).bind (·.coolingOffUntil)

omit [Scalar R] [KeyProvider K] in
theorem windowEnd?_eq {record : IdentityRecord R} (found : engine.record? identity = some record) :
    engine.windowEnd? identity = record.coolingOffUntil := by
  rw [windowEnd?, found, Option.bind_some]

/-- An operation leaves a window alone, or it opens one in its place. -/
theorem windowEnd?_attempt (rest : engine.AtRest) (now : Instant) (operation : Operation R)
    (identity : String) :
    (engine.attempt now operation).2.windowEnd? identity = engine.windowEnd? identity ∨
      ∃ honesty deadline,
        engine.config.coolingOff.deadline? honesty now (engine.windowEnd? identity) =
          .ok deadline ∧
        (engine.attempt now operation).2.windowEnd? identity = some deadline := by
  rcases attempt_cases now (rest.free operation.identity) with
    ⟨keys, -, same⟩ | ⟨records, record, keys, history, change, same⟩
  · rw [same]
    exact .inl rfl
  · rw [same, windowEnd?, record?_changed]
    split
    · rename_i here
      rw [change.id_eq rest.keyed] at here
      subst here
      rw [Option.bind_some]
      cases change with
      | register role absent =>
          left
          rw [Operation.identity, windowEnd?, absent]
          rfl
      | @commit asked prepared record found ready =>
          rw [Operation.identity, windowEnd?_eq found, coolingOffUntil_settledRecord]
          obtain ⟨same, window, foundAgain, -, ends, -, entered, -⟩ := prepare_cases ready
          obtain rfl : record = same := Option.some.inj (found.symm.trans foundAgain)
          rw [entered]
          cases window with
          | none => exact .inl rfl
          | some window => exact .inr ⟨window.1, window.2, ends _ _ rfl, rfl⟩
      | penalize found | drift found | rotate found => exact .inl (windowEnd?_eq found).symm
    · exact .inl rfl

/-- Nothing makes a window shorter. -/
theorem windowEnd?_run (rest : engine.AtRest) (turns : List (Turn R)) {earlier : Instant}
    (known : engine.windowEnd? identity = some earlier) :
    ∃ later, (engine.run turns).windowEnd? identity = some later ∧ earlier ≤ later := by
  induction turns using List.reverseRecOn with
  | nil => exact ⟨earlier, known, earlier.le_refl⟩
  | append_singleton turns turn inductionHypothesis =>
      obtain ⟨middle, reached, le⟩ := inductionHypothesis
      rw [run_concat]
      cases turn with
      | refusal refusal => exact ⟨middle, reached, le⟩
      | operation now operation =>
          rcases windowEnd?_attempt (rest.run turns) now operation identity with
            same | ⟨honesty, deadline, ends, opened⟩
          · exact ⟨middle, same.trans reached, le⟩
          · have longer := (CoolingOffPolicy.deadline?_spec ends).1 middle reached
            exact ⟨deadline, opened, Instant.le_trans le longer⟩

/-- Windows end within the calendar. -/
theorem inCalendar_windowEnd?_run (rest : engine.AtRest)
    (blank : ∀ identity, engine.windowEnd? identity = none) (turns : List (Turn R))
    {deadline : Instant} (known : (engine.run turns).windowEnd? identity = some deadline) :
    deadline.inCalendar = true := by
  induction turns using List.reverseRecOn generalizing deadline with
  | nil => cases (blank identity).symm.trans known
  | append_singleton turns turn inductionHypothesis =>
      rw [run_concat] at known
      cases turn with
      | refusal refusal => exact inductionHypothesis known
      | operation now operation =>
          rcases windowEnd?_attempt (rest.run turns) now operation identity with
            same | ⟨honesty, opens, ends, opened⟩
          · exact inductionHypothesis (same.symm.trans known)
          · cases opened.symm.trans known
            exact (CoolingOffPolicy.deadline?_spec ends).2 fun _ => inductionHypothesis

omit [KeyProvider K] in
/-- What a commit with a window makes of the window. -/
theorem windowEnd?_commit (keyed : engine.Keyed) {now : Instant} {asked : Commit R}
    {honesty : Honesty} {record : IdentityRecord R} {receipt : Receipt R} {later : Engine R K}
    (found : engine.record? asked.identity = some record)
    (entered : asked.coolingOff = some honesty)
    (done : engine.commit now asked = .ok (receipt, later)) :
    ∃ deadline, engine.config.coolingOff.deadline? honesty now record.coolingOffUntil =
        .ok deadline ∧
      receipt.coolingOffUntil = some deadline ∧
      later.windowEnd? asked.identity = some deadline := by
  obtain ⟨feasible, -, rfl, rfl⟩ := (commit_eq_ok_iff_of_found asked found).mp done
  obtain ⟨deadline, ends⟩ := (CoolingOffPolicy.reaches_iff record.coolingOffUntil).mp
    (feasible.window honesty entered)
  have window : engine.windowFor record now asked = some (honesty, deadline) := by
    rw [windowFor, entered, Option.bind_some, ends]
    rfl
  have opened : (engine.preparedFor record now asked).coolingOffUntil = some deadline := by
    rw [preparedFor, window]
    rfl
  refine ⟨deadline, ends, opened, ?_⟩
  rw [windowEnd?_eq (record?_committed keyed found _), coolingOffUntil_settledRecord, opened,
    Option.some_or]

/-- In every state of an engine over a storage that takes every batch, a commit that enters a window
succeeds and leaves it with the end that it should have, all hours counted and not before the end of
an open window, exactly where the calendar reaches so many hours from now.  That end is not before
now.  Over any run, whatever its hours and whatever is refused, no window is made shorter. -/
theorem windows_of_run {config : TrustConfig R} {keys : K} {engine : Engine R K}
    (started : Engine.start config keys = .ok engine) :
    (∀ (turns : List (Turn R)) (now : Instant) (asked : Commit R) (honesty : Honesty)
      (record : IdentityRecord R), now.inCalendar = true → (engine.run turns).Accepts →
      (engine.run turns).record? asked.identity = some record →
      asked.coolingOff = some honesty → (∀ update ∈ asked.update, Scalar.InUnit update.1) →
      ((∃ receipt later, (engine.run turns).commit now asked = .ok (receipt, later) ∧
        receipt.coolingOffUntil =
          some (config.coolingOff.due honesty now record.coolingOffUntil) ∧
        later.windowEnd? asked.identity =
          some (config.coolingOff.due honesty now record.coolingOffUntil)) ↔
        (config.coolingOff.requested honesty now).inCalendar = true) ∧
      now ≤ config.coolingOff.due honesty now record.coolingOffUntil) ∧
    ∀ (before after : List (Turn R)) (identity : String) (earlier : Instant),
      (engine.run before).windowEnd? identity = some earlier →
      ∃ later, (engine.run (before ++ after)).windowEnd? identity = some later ∧
        earlier ≤ later := by
  have rest := AtRest.of_start started
  constructor
  · intro turns now asked honesty record shown accepts found entered admissible
    have same := config_run_of_start started turns
    have blank : ∀ identity, engine.windowEnd? identity = none := fun identity => by
      rw [windowEnd?, record?_of_start started, Option.bind_none]
    have before : ∀ earlier ∈ record.coolingOffUntil, earlier.inCalendar = true :=
      fun earlier known => inCalendar_windowEnd?_run rest blank turns
        ((windowEnd?_eq found).trans known)
    refine ⟨?_, CoolingOffPolicy.le_due⟩
    rw [← CoolingOffPolicy.deadline?_eq_due_iff shown before]
    constructor
    · rintro ⟨receipt, later, done, told, -⟩
      obtain ⟨deadline, ends, opened, -⟩ :=
        windowEnd?_commit (rest.run turns).keyed found entered done
      cases told.symm.trans opened
      rwa [same] at ends
    · intro ends
      have feasible : asked.IsFeasible (engine.run turns).config now := by
        refine ⟨admissible, fun other wanted => ?_⟩
        cases entered.symm.trans wanted
        exact (CoolingOffPolicy.reaches_iff _).mpr ⟨_, same ▸ ends⟩
      have done := commit_eq_ok accepts found feasible
      obtain ⟨deadline, endsAgain, opened, stored⟩ :=
        windowEnd?_commit (rest.run turns).keyed found entered done
      rw [same] at endsAgain
      cases ends.symm.trans endsAgain
      exact ⟨_, _, done, opened, stored⟩
  · intro before after identity earlier known
    rw [run_append]
    exact windowEnd?_run (rest.run before) after known

/-- A commit of nothing but a window. -/
def opening (honesty : Honesty) : Commit Float := ⟨"ann", [], some honesty, none, none⟩

/-- Two days ago an identity was registered, -/
def registered : List (Turn Float) := asking [(⟨-172800, 0⟩, .register "ann" .judge 0.4)]

/-- and entered the longer window. -/
def opened : List (Turn Float) :=
  asking [(⟨-172800, 0⟩, .register "ann" .judge 0.4),
    (⟨-172800, 0⟩, .commit (opening .malicious))]

/-- The shorter window of today does not end the longer one. -/
theorem windows_opened : ∃ engine : Engine Float LocalKeys,
    Engine.start .default Small.keys = .ok engine ∧
    (∃ receipt later, (engine.run opened).commit Small.now (opening .honest) =
        .ok (receipt, later) ∧ receipt.coolingOffUntil = some ⟨432000, 0⟩) ∧
    ∃ later, (engine.run (opened ++ asking [(Small.now, .commit (opening .honest))])).windowEnd?
        "ann" = some later ∧ ⟨432000, 0⟩ ≤ later := by
  have started : Engine.start .default Small.keys = .ok Small.engine := by rfl
  have accepts : Small.engine.Accepts := fun _ => rfl
  have known : (Small.engine.run opened).windowEnd? "ann" = some ⟨432000, 0⟩ := by decide +kernel
  obtain ⟨record, found, window⟩ := Option.bind_eq_some_iff.mp known
  obtain ⟨opens, longer⟩ := windows_of_run started
  have ends := (opens opened Small.now (opening .honest) .honest record (by decide)
    (accepts.run (AtRest.of_start started) _) found rfl nofun).1.mpr (by decide)
  have due : (TrustConfig.default : TrustConfig Float).coolingOff.due .honest Small.now
      record.coolingOffUntil = ⟨432000, 0⟩ := by
    rw [window]
    decide
  obtain ⟨receipt, later, done, told, -⟩ := ends
  rw [due] at told
  exact ⟨Small.engine, started, ⟨receipt, later, done, told⟩, longer _ _ _ _ known⟩

/-- Windows of more hours than a signed word or the calendar can tell. -/
def boundless : TrustConfig Float :=
  { TrustConfig.default with coolingOff := ⟨18446744073709551615, 9223372036854775807⟩ }

def boundlessEngine : Engine Float LocalKeys :=
  ⟨boundless, [], [], [], fun _ => none, Small.keys, []⟩

/-- Validation takes both lengths.  A window of the one ends an hour before it is opened, a window
of the other does not open. -/
theorem windows_boundless :
    Engine.start boundless Small.keys = .ok boundlessEngine ∧
    (∃ receipt later, (boundlessEngine.run registered).commit Small.now (opening .honest) =
        .ok (receipt, later) ∧
      receipt.coolingOffUntil = some ⟨-3600, 0⟩ ∧ later.windowEnd? "ann" = some ⟨-3600, 0⟩ ∧
      (⟨-3600, 0⟩ : Instant) < Small.now) ∧
    (failure? ((boundlessEngine.run registered).commit Small.now (opening .malicious))).map
      TrustError.code = some "BeyondCalendar" := by
  have started : Engine.start boundless Small.keys = .ok boundlessEngine := by rfl
  have early : (((boundlessEngine.run registered).commit Small.now
      (opening .honest)).toOption.map fun (receipt, later) =>
        (receipt.coolingOffUntil, later.windowEnd? "ann")) =
          some (some ⟨-3600, 0⟩, some ⟨-3600, 0⟩) := by
    decide +kernel
  obtain ⟨⟨receipt, later⟩, done, same⟩ := Option.map_eq_some_iff.mp early
  exact ⟨started, ⟨receipt, later, eq_ok_of_toOption done, congrArg Prod.fst same,
    congrArg Prod.snd same, by decide⟩, by decide +kernel⟩

end Engine

end ReviewGate

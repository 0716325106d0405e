import SessionServer.InteractionProgram
import SessionServer.TransitionSystem
import Mathlib.Logic.Relation

/-!
# Programs among other threads

A program runs one call at a time.  A call may change what the program owns and
what it shares; between two calls the other threads may change what is shared.
`Safe` is partial correctness in that setting: at each call its guard holds,
and the postcondition holds at the end.
-/

namespace InteractionProgram

/-- What the calls do, with any of the replies, and what other threads do. -/
structure Environment {Call : Type} (Answer : Call → Type)
    (Own Shared Interference Reply : Type) where
  interfere : Shared → Interference → Option Shared
  respond : (request : Call) → Own → Shared → Reply → Option (Answer request × Own × Shared)

structure Configuration {Call : Type} (Answer : Call → Type) (Exn α Own Shared : Type) where
  program : InteractionProgram Answer Exn α
  own : Own
  shared : Shared

inductive Move (Interference Reply : Type)
  | interfere (interference : Interference)
  | reply (reply : Reply)

variable {Call : Type} {Answer : Call → Type} {Exn α β σ : Type}
  {Own Shared Interference Reply : Type}

/-! ## Loops and lists -/

/-- Go round until the body leaves the loop; `stuck` when it has not done so
after this many rounds. -/
def iterate (stuck : InteractionProgram Answer Exn α)
    (body : σ → InteractionProgram Answer Exn (σ ⊕ α)) :
    ℕ → σ → InteractionProgram Answer Exn α
  | 0, _ => stuck
  | rounds + 1, state => body state >>= fun
      | .inl next => iterate stuck body rounds next
      | .inr result => pure result

def forEach (body : σ → InteractionProgram Answer Exn Unit) :
    List σ → InteractionProgram Answer Exn Unit
  | [] => pure ()
  | item :: rest => body item >>= fun _ => forEach body rest

namespace Environment

variable (environment : Environment Answer Own Shared Interference Reply)

def step (configuration : Configuration Answer Exn α Own Shared) :
    Move Interference Reply → Option (Configuration Answer Exn α Own Shared)
  | .interfere interference =>
    (environment.interfere configuration.shared interference).map fun shared =>
      { configuration with shared }
  | .reply reply =>
    match configuration.program with
    | .call request next =>
      (environment.respond request configuration.own configuration.shared reply).map
        fun answer => ⟨next answer.1, answer.2.1, answer.2.2⟩
    | _ => none

def Interferes (shared after : Shared) : Prop :=
  ∃ interference, environment.interfere shared interference = some after

/-- What other threads make of the shared state in any number of steps. -/
def Drifts : Shared → Shared → Prop :=
  Relation.ReflTransGen environment.Interferes

/-- Other threads cannot falsify it. -/
def Stable (holds : Shared → Prop) : Prop :=
  ∀ shared after, holds shared → environment.Interferes shared after → holds after

theorem Stable.drifts {environment : Environment Answer Own Shared Interference Reply}
    {holds : Shared → Prop} (hstable : environment.Stable holds) {shared after : Shared}
    (hdrifts : environment.Drifts shared after) (hholds : holds shared) : holds after := by
  induction hdrifts with
  | refl => exact hholds
  | tail _ hstep ih => exact hstable _ _ ih hstep

/-! ## Safety -/

variable (guard : Call → Own → Shared → Prop)

inductive Safe (post : Except Exn α → Own → Shared → Prop) :
    InteractionProgram Answer Exn α → Own → Shared → Prop
  | done {result : α} {own : Own} {shared : Shared} (hpost : post (.ok result) own shared) :
      Safe post (.done result) own shared
  | fail {exception : Exn} {own : Own} {shared : Shared}
      (hpost : post (.error exception) own shared) : Safe post (.fail exception) own shared
  | call {request : Call} {next : Answer request → InteractionProgram Answer Exn α}
      {own : Own} {shared : Shared}
      (hguard : ∀ now, environment.Drifts shared now → guard request own now)
      (hnext : ∀ now reply answer after later, environment.Drifts shared now →
        environment.respond request own now reply = some (answer, after, later) →
        Safe post (next answer) after later) :
      Safe post (.call request next) own shared

variable {environment} {guard}
  {post : Except Exn α → Own → Shared → Prop} {program : InteractionProgram Answer Exn α}
  {own : Own} {shared : Shared}

theorem safe_pure {result : α} (hpost : post (.ok result) own shared) :
    environment.Safe guard post (pure result) own shared :=
  .done hpost

theorem safe_throw {exception : Exn} (hpost : post (.error exception) own shared) :
    environment.Safe guard post (throw exception) own shared :=
  .fail hpost

theorem Safe.mono {weaker : Except Exn α → Own → Shared → Prop}
    (hsafe : environment.Safe guard post program own shared)
    (hweaker : ∀ result own shared, post result own shared → weaker result own shared) :
    environment.Safe guard weaker program own shared := by
  induction hsafe with
  | done hpost => exact .done (hweaker _ _ _ hpost)
  | fail hpost => exact .fail (hweaker _ _ _ hpost)
  | call hguard _ ih => exact .call hguard ih

theorem Safe.bind {rest : α → InteractionProgram Answer Exn β}
    {final : Except Exn β → Own → Shared → Prop}
    (hsafe : environment.Safe guard post program own shared)
    (hrest : ∀ result own shared, post (.ok result) own shared →
      environment.Safe guard final (rest result) own shared)
    (herror : ∀ exception own shared, post (.error exception) own shared →
      final (.error exception) own shared) :
    environment.Safe guard final (program >>= rest) own shared := by
  induction hsafe with
  | done hpost => exact hrest _ _ _ hpost
  | fail hpost => exact .fail (herror _ _ _ hpost)
  | call hguard _ ih => exact .call hguard ih

theorem Safe.tryCatch {handler : Exn → InteractionProgram Answer Exn α}
    {final : Except Exn α → Own → Shared → Prop}
    (hsafe : environment.Safe guard post program own shared)
    (hok : ∀ result own shared, post (.ok result) own shared → final (.ok result) own shared)
    (hhandler : ∀ exception own shared, post (.error exception) own shared →
      environment.Safe guard final (handler exception) own shared) :
    environment.Safe guard final (tryCatch program handler) own shared := by
  induction hsafe with
  | done hpost => exact .done (hok _ _ _ hpost)
  | fail hpost => exact hhandler _ _ _ hpost
  | call hguard _ ih => exact .call hguard ih

theorem safe_perform {request : Call} {rest : Answer request → InteractionProgram Answer Exn α}
    (hguard : ∀ now, environment.Drifts shared now → guard request own now)
    (hrest : ∀ now reply answer after later, environment.Drifts shared now →
      environment.respond request own now reply = some (answer, after, later) →
      environment.Safe guard post (rest answer) after later) :
    environment.Safe guard post (perform request >>= rest) own shared :=
  .call hguard hrest

/-- The rule of the loop: the body keeps an invariant of the loop's state until
it leaves with the postcondition. -/
theorem safe_iterate {stuck : InteractionProgram Answer Exn α}
    {body : σ → InteractionProgram Answer Exn (σ ⊕ α)} (inv : σ → Own → Shared → Prop)
    (hstuck : ∀ state own shared, inv state own shared →
      environment.Safe guard post stuck own shared)
    (hbody : ∀ state own shared, inv state own shared →
      environment.Safe guard
        (fun (result : Except Exn (σ ⊕ α)) own shared => match result with
          | .ok (.inl next) => inv next own shared
          | .ok (.inr result) => post (.ok result) own shared
          | .error exception => post (.error exception) own shared)
        (body state) own shared)
    (rounds : ℕ) {state : σ} (hinv : inv state own shared) :
    environment.Safe guard post (iterate stuck body rounds state) own shared := by
  induction rounds generalizing state own shared with
  | zero => exact hstuck state own shared hinv
  | succ _ ih =>
    apply (hbody state own shared hinv).bind
    · intro result own shared hpost
      cases result with
      | inl => exact ih hpost
      | inr => exact safe_pure hpost
    · intro _ _ _ hpost
      exact hpost

theorem safe_forEach {body : σ → InteractionProgram Answer Exn Unit}
    {post : Except Exn Unit → Own → Shared → Prop}
    (hbody : ∀ item own shared, post (.ok ()) own shared →
      environment.Safe guard post (body item) own shared)
    (items : List σ) (hinv : post (.ok ()) own shared) :
    environment.Safe guard post (forEach body items) own shared := by
  induction items generalizing own shared with
  | nil => exact safe_pure hinv
  | cons item _ ih =>
    apply (hbody item own shared hinv).bind
    · intro _ own shared hpost
      exact ih hpost
    · intro _ _ _ hpost
      exact hpost

/-- Two facts about one program hold together. -/
theorem Safe.and {other : Call → Own → Shared → Prop} {final : Except Exn α → Own → Shared → Prop}
    (hsafe : environment.Safe guard post program own shared)
    (hother : environment.Safe other final program own shared) :
    environment.Safe guard
      (fun result own shared => post result own shared ∧ final result own shared)
      program own shared := by
  induction hsafe with
  | done hpost =>
    cases hother with
    | done hfinal => exact .done ⟨hpost, hfinal⟩
  | fail hpost =>
    cases hother with
    | fail hfinal => exact .fail ⟨hpost, hfinal⟩
  | call hguard _ ih =>
    cases hother with
    | call _ hnext =>
      apply Safe.call hguard
      intro now reply answer after later hdrifts hrespond
      exact ih now reply answer after later hdrifts hrespond
        (hnext now reply answer after later hdrifts hrespond)

/-- What every call and the other threads keep true stays true to the end. -/
theorem Safe.keeps {holds : Shared → Prop} (hstable : environment.Stable holds)
    (hrespond : ∀ request own shared reply answer after later, holds shared →
      environment.respond request own shared reply = some (answer, after, later) → holds later)
    (hsafe : environment.Safe guard post program own shared) (hholds : holds shared) :
    environment.Safe guard
      (fun result own shared => post result own shared ∧ holds shared) program own shared := by
  induction hsafe with
  | done hpost => exact .done ⟨hpost, hholds⟩
  | fail hpost => exact .fail ⟨hpost, hholds⟩
  | call hguard _ ih =>
    apply Safe.call hguard
    intro now reply answer after later hdrifts hanswer
    have hnow := hstable.drifts hdrifts hholds
    exact ih now reply answer after later hdrifts hanswer (hrespond _ _ _ _ _ _ _ hnow hanswer)

/-! ## Runs -/

variable {configuration after : Configuration Answer Exn α Own Shared}

theorem step_interfere {interference : Interference}
    (hstep : environment.step configuration (.interfere interference) = some after) :
    ∃ shared, environment.interfere configuration.shared interference = some shared ∧
      after = { configuration with shared } := by
  simp only [step, Option.map_eq_some_iff] at hstep
  obtain ⟨shared, hshared, hafter⟩ := hstep
  exact ⟨shared, hshared, hafter.symm⟩

theorem step_reply {reply : Reply}
    (hstep : environment.step configuration (.reply reply) = some after) :
    ∃ request next answer own shared, configuration.program = .call request next ∧
      environment.respond request configuration.own configuration.shared reply =
        some (answer, own, shared) ∧ after = ⟨next answer, own, shared⟩ := by
  simp only [step] at hstep
  split at hstep
  · next request next hprogram =>
    simp only [Option.map_eq_some_iff] at hstep
    obtain ⟨⟨answer, own, shared⟩, hanswer, hafter⟩ := hstep
    exact ⟨request, next, answer, own, shared, hprogram, hanswer, hafter.symm⟩
  · simp at hstep

/-- Other threads cannot make a program unsafe whose postcondition is stable. -/
theorem Safe.interfere (hpost : ∀ result own, environment.Stable (post result own))
    (hsafe : environment.Safe guard post program own shared) {later : Shared}
    (hinterferes : environment.Interferes shared later) :
    environment.Safe guard post program own later := by
  cases hsafe with
  | done hdone => exact .done (hpost _ _ _ _ hdone hinterferes)
  | fail hfail => exact .fail (hpost _ _ _ _ hfail hinterferes)
  | call hguard hnext =>
    apply Safe.call
    · intro now hdrifts
      exact hguard now (.head hinterferes hdrifts)
    · intro now reply answer own shared hdrifts hrespond
      exact hnext now reply answer own shared (.head hinterferes hdrifts) hrespond

/-- Every configuration of a run of a safe program is safe. -/
theorem Safe.reaches (hpost : ∀ result own, environment.Stable (post result own))
    (hsafe : environment.Safe guard post configuration.program configuration.own
      configuration.shared)
    (hreach : TransitionSystem.Reaches environment.step (fun _ _ => True) configuration after) :
    environment.Safe guard post after.program after.own after.shared := by
  apply hreach.invariant hsafe
  intro _ move next hbefore _ hstep
  cases move with
  | interfere interference =>
    obtain ⟨shared, hshared, rfl⟩ := step_interfere hstep
    exact hbefore.interfere hpost ⟨interference, hshared⟩
  | reply =>
    obtain ⟨_, _, _, _, _, hprogram, hanswer, rfl⟩ := step_reply hstep
    rw [hprogram] at hbefore
    cases hbefore with
    | call _ hnext => exact hnext _ _ _ _ _ .refl hanswer

/-- Where a safe program makes a call, its guard holds. -/
theorem Safe.guarded {request : Call} {next : Answer request → InteractionProgram Answer Exn α}
    (hsafe : environment.Safe guard post (.call request next) own shared) :
    guard request own shared := by
  cases hsafe with
  | call hguard => exact hguard shared .refl

/-- What holds at every call and at the end holds all the time. -/
theorem Safe.always {holds : Own → Shared → Prop}
    (hsafe : environment.Safe guard post program own shared)
    (hcall : ∀ request own shared, guard request own shared → holds own shared)
    (hend : ∀ result own shared, post result own shared → holds own shared) :
    holds own shared := by
  cases hsafe with
  | done hdone => exact hend _ _ _ hdone
  | fail hfail => exact hend _ _ _ hfail
  | call hguard => exact hcall _ _ _ (hguard shared .refl)

end Environment

end InteractionProgram

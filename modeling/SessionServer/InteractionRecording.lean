import SessionServer.InteractionSafety

/-!
# Recording the calls of a program

What a program asked for and was answered can be noted beside its state.  The
notes change nothing for the program: what is safe without them is safe with
them, and may be assumed where the notes are reasoned about.
-/

namespace InteractionProgram

variable {Call : Type} {Answer : Call → Type} {Exn α : Type}
  {Own Shared Interference Reply Log : Type}

namespace Environment

/-- Every answer is noted in a log. -/
def recording (environment : Environment Answer Own Shared Interference Reply)
    (note : (request : Call) → Answer request → Log → Log) :
    Environment Answer (Own × Log) Shared Interference Reply where
  interfere := environment.interfere
  respond request own shared reply :=
    (environment.respond request own.1 shared reply).map fun answer =>
      (answer.1, (answer.2.1, note request answer.1 own.2), answer.2.2)

open Classical in
/-- Only calls of which something is assumed are answered. -/
noncomputable def restrict (environment : Environment Answer Own Shared Interference Reply)
    (assume : Call → Own → Shared → Prop) :
    Environment Answer Own Shared Interference Reply where
  interfere := environment.interfere
  respond request own shared reply :=
    if assume request own shared then environment.respond request own shared reply else none

variable {environment : Environment Answer Own Shared Interference Reply}
  {note : (request : Call) → Answer request → Log → Log}
  {assume : Call → Own → Shared → Prop} {guard : Call → Own × Log → Shared → Prop}
  {request : Call} {own : Own} {log : Log} {shared : Shared} {reply : Reply}

theorem recording_respond {answer : Answer request} {after : Own × Log} {later : Shared} :
    (environment.recording note).respond request (own, log) shared reply =
        some (answer, after, later) ↔
      environment.respond request own shared reply = some (answer, after.1, later) ∧
        after.2 = note request answer log := by
  simp only [recording, Option.map_eq_some_iff, Prod.mk.injEq]
  constructor
  · rintro ⟨⟨_, _, _⟩, hrespond, rfl, rfl, rfl⟩
    exact ⟨hrespond, rfl⟩
  · rintro ⟨hrespond, hlog⟩
    exact ⟨_, hrespond, rfl, by rw [← hlog], rfl⟩

theorem restrict_respond {answer : Answer request} {after : Own} {later : Shared} :
    (environment.restrict assume).respond request own shared reply = some (answer, after, later) ↔
      assume request own shared ∧
        environment.respond request own shared reply = some (answer, after, later) := by
  simp only [restrict, Option.ite_none_right_eq_some]

/-- What is known at the calls of a program may be assumed where its log is
reasoned about. -/
theorem Safe.recording {program : InteractionProgram Answer Exn α}
    {post : Except Exn α → Own → Shared → Prop} {final : Except Exn α → Own × Log → Shared → Prop}
    (hsafe : environment.Safe assume post program own shared)
    (hlogged : ((environment.recording note).restrict
      fun request own => assume request own.1).Safe guard final program (own, log) shared) :
    (environment.recording note).Safe
      (fun request own shared => assume request own.1 shared ∧ guard request own shared)
      (fun result own shared => post result own.1 shared ∧ final result own shared)
      program (own, log) shared := by
  induction hsafe generalizing log with
  | done hpost =>
    cases hlogged with
    | done hfinal => exact .done ⟨hpost, hfinal⟩
  | fail hpost =>
    cases hlogged with
    | fail hfinal => exact .fail ⟨hpost, hfinal⟩
  | call hassume _ ih =>
    cases hlogged with
    | call hguard hnext =>
      apply Safe.call
      · intro now hdrifts
        exact ⟨hassume now hdrifts, hguard now hdrifts⟩
      · rintro now reply answer ⟨after, _⟩ later hdrifts hrespond
        have hplain := (recording_respond.mp hrespond).1
        apply ih now reply answer after later hdrifts hplain
        exact hnext now reply answer _ later hdrifts
          (restrict_respond.mpr ⟨hassume now hdrifts, hrespond⟩)

end Environment

end InteractionProgram

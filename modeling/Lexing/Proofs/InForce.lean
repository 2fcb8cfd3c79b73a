/-
This file says which settings are in force where. Each block begins with settings of its own: a
context with those that it was made for, a thread with the standard ones. From then on they are
those of the last choice that this very block has made. What happens inside a block is no choice of
the block around it, however the inner one was left, so that contexts and threads leave no trace in
the settings outside.

Loops, attempts and demands are no blocks in this sense. What is done in them is done by the block
that they stand in.
-/

import Lexing.Proofs.Account

namespace Lexing

variable {Caller : Type}

/-! ### Choices -/

/-- The settings that a command puts in force, if it does. -/
def Command.choice? : Command Caller → Option Settings
  | configure draft => draft.settings.toOption
  | reset => some .standard
  | _ => none

namespace Session

/-- A command puts in force what it chooses, and otherwise leaves the settings as they are. -/
theorem active_perform (session : Session Caller) (command : Command Caller) :
    (session.perform command).2.active = command.choice?.getD session.active := by
  cases command with
  | configure draft =>
    cases made : draft.settings with
    | error cause =>
      rw [session.perform_configure_of_error made, Command.choice?, made]
      rfl
    | ok settings =>
      rw [session.perform_configure_of_ok made, Command.choice?, made]
      rfl
  | limit parent lower upper =>
    unfold perform
    dsimp only
    split <;> rfl
  | operate number operation =>
    unfold perform
    dsimp only
    split <;> rfl
  | assign number offset value =>
    unfold perform
    dsimp only
    split <;> rfl
  | transcript handler =>
    unfold perform
    dsimp only
    split <;> rfl
  | _ => rfl

end Session

namespace Account

/-- The settings that something done in a block puts in force for what the block does next. -/
def choice? : Account Caller → Option Settings
  | carried command _ _ => command.choice?
  | inside _ _ => none

/-- The settings in force in a block, from those it began with and from what it has done. -/
def inForce (base : Settings) (earlier : List (Account Caller)) : Settings :=
  (earlier.filterMap choice?).getLast?.getD base

@[simp] theorem inForce_nil (base : Settings) : inForce base ([] : List (Account Caller)) = base :=
  rfl

theorem inForce_concat (base : Settings) (earlier : List (Account Caller))
    (account : Account Caller) :
    inForce base (earlier ++ [account]) = account.choice?.getD (inForce base earlier) := by
  unfold inForce
  rw [List.filterMap_append]
  cases chosen : account.choice? with
  | none =>
    rw [List.filterMap_cons_none chosen, List.filterMap_nil, List.append_nil]
    rfl
  | some settings =>
    rw [List.filterMap_cons_some chosen, List.filterMap_nil, List.getLast?_concat]
    rfl

end Account

/-! ### Places -/

namespace Place

/-- The settings in force at a place. -/
def inForce (place : Place Caller) : Settings := Account.inForce place.base place.earlier

/-- The settings in force show at a place: they are told when they are asked for, a new cursor gets
them, and they stay in force unless others are chosen. -/
structure Sees (place : Place Caller) : Prop where
  told : place.command = .active → place.result = .ok (.settings place.inForce)
  made : ∀ text start lower stop, place.command = .create text start lower stop →
    ∃ number, place.result = .ok (.cursor number) ∧
      place.after.cursors[number]? = some (.ofText text place.inForce start lower stop)
  left : place.after.active = place.command.choice?.getD place.inForce

/-- A command sees the settings of the session that it is carried out in. -/
theorem sees_perform {session : Session Caller} {base : Settings}
    {earlier : List (Account Caller)} (settled : session.active = Account.inForce base earlier)
    (command : Command Caller) :
    Sees ⟨base, earlier, command, (session.perform command).1, (session.perform command).2⟩ where
  told asked := by
    cases (show command = .active from asked)
    exact congrArg (fun settings => Except.ok (Reply.settings settings)) settled
  made text start lower stop creates := by
    cases (show command = .create text start lower stop from creates)
    refine ⟨session.cursors.length, rfl, ?_⟩
    rw [inForce, ← settled]
    exact List.getElem?_concat_length
  left := by
    rw [inForce, ← settled]
    exact session.active_perform command

end Place

namespace Account

/-- If the settings in force are known where an account begins, they are known all through it. -/
theorem Leads.sees {session last : Session Caller} {accounts : List (Account Caller)}
    (leads : Leads session accounts last) {base : Settings} {earlier : List (Account Caller)}
    (settled : session.active = inForce base earlier) :
    last.active = inForce base (earlier ++ accounts) ∧
      ∀ place ∈ placesAll base earlier accounts, place.Sees := by
  induction leads generalizing base earlier with
  | nothing session =>
    rw [List.append_nil]
    exact ⟨settled, fun place listed => absurd listed List.not_mem_nil⟩
  | @carried session last command rest later inductionHypothesis =>
    have next := inForce_concat base earlier
      (.carried command (session.perform command).1 (session.perform command).2)
    rw [← settled] at next
    obtain ⟨reached, seen⟩ :=
      inductionHypothesis ((session.active_perform command).trans next.symm)
    rw [List.append_assoc] at reached
    refine ⟨reached, fun place listed => ?_⟩
    cases List.mem_append.mp listed with
    | inl here =>
      rw [List.mem_singleton.mp here]
      exact Place.sees_perform settled command
    | inr there => exact seen place there
  | @inside session left last settings accounts rest inner later innerHypothesis laterHypothesis =>
    -- What was done inside is no choice of the block around it, so nothing has changed there.
    have next := inForce_concat base earlier (.inside settings accounts)
    obtain ⟨reached, seen⟩ := laterHypothesis (settled.trans next.symm)
    rw [List.append_assoc] at reached
    refine ⟨reached, fun place listed => ?_⟩
    cases List.mem_append.mp listed with
    | inl within => exact (innerHypothesis (inForce_nil settings).symm).2 place within
    | inr there => exact seen place there

end Account

/-! ### What the program says -/

/-- Whether a command is one that puts settings in force. -/
def Command.chooses : Command Caller → Bool
  | configure _ | reset => true
  | _ => false

theorem Command.choice?_of_not_chooses {command : Command Caller}
    (idle : command.chooses = false) : command.choice? = none := by
  cases command with
  | configure | reset => cases idle
  | _ => rfl

/-- What a run of commands puts in force depends on the session by what is in force in it. -/
theorem Session.active_afterAll_congr {first second : Session Caller}
    (same : first.active = second.active) (commands : List (Command Caller)) :
    (first.afterAll commands).active = (second.afterAll commands).active := by
  induction commands generalizing first second with
  | nil => exact same
  | cons command rest inductionHypothesis =>
    refine inductionHypothesis ?_
    rw [active_perform, active_perform, same]

namespace Program

/-- Whether a step is a command or a block with settings of its own, possibly demanded or attempted. -/
def isPlain : Program Caller → Bool
  | command _ | context _ _ | thread _ => true
  | demand step | attempt [step] => step.isPlain
  | _ => false

/-- The commands of a plain step that put settings in force for the block it stands in. -/
def ownChoices : Program Caller → List (Command Caller)
  | command given => if given.chooses then [given] else []
  | demand step | attempt [step] => step.ownChoices
  | _ => []

theorem active_run_of_plain (step : Program Caller) (plain : step.isPlain = true)
    (session : Session Caller) :
    (run step session).session.active = (session.afterAll step.ownChoices).active := by
  match step with
  | .command given =>
    rw [run, ownChoices]
    split
    · rfl
    · rename_i idle
      have chosen := Command.choice?_of_not_chooses (Bool.eq_false_iff.mpr idle)
      have active := session.active_perform given
      rwa [chosen] at active
  | .context draft body =>
    rw [run]
    split <;> rfl
  | .thread body => rfl
  | .demand step =>
    rw [run, ownChoices]
    exact active_run_of_plain step plain session
  | .attempt [step] =>
    -- The attempt ends as the step does, whether it was left for a failure or not.
    have active := active_run_of_plain step plain session
    rw [run, runAll]
    cases raised : (run step session).raised with
    | some cause =>
      rw [Outcome.followedBy_of_raised raised]
      exact active
    | none =>
      rw [Outcome.followedBy_of_finished raised]
      exact active

theorem active_runAll_of_plain (steps : List (Program Caller)) (session : Session Caller)
    (plain : steps.all isPlain = true) (finished : (runAll steps session).raised = none) :
    (runAll steps session).session.active =
      (session.afterAll (steps.flatMap ownChoices)).active := by
  induction steps generalizing session with
  | nil => rfl
  | cons step rest inductionHypothesis =>
    rw [List.all_cons, Bool.and_eq_true] at plain
    rw [runAll] at finished ⊢
    cases raised : (run step session).raised with
    | some cause =>
      rw [Outcome.followedBy_of_raised raised] at finished
      cases finished
    | none =>
      rw [Outcome.followedBy_of_finished raised] at finished ⊢
      rw [List.flatMap_cons, Session.afterAll_append]
      exact (inductionHypothesis _ plain.2 finished).trans
        (Session.active_afterAll_congr (active_run_of_plain step plain.1 session) _)

/-- Contexts and threads leave no trace in the settings in force. A run does what its account says;
it ends with the settings last chosen outside all of its contexts and threads; and every place sees
those last chosen in its own block, or else those that this block began with. What is written shows
in the account: in a straight program every command is at a place, and in one of plain steps that
runs to its end the choices outside are those that are written there. Settings that cannot be made
are put in force by nothing, and no block is run under them. -/
theorem active_runAll (program : List (Program Caller)) (session : Session Caller) :
    let outcome := runAll program session
    let accounts := accountsAll program outcome.result
    Account.Leads session accounts outcome.session ∧
      outcome.session.active = Account.inForce session.active accounts ∧
      (∀ place ∈ places program session, place.Sees) ∧
      (isStraightAll program = true →
        (places program session).map Place.command = writtenAll program) ∧
      (program.all isPlain = true → outcome.raised = none →
        outcome.session.active = (session.afterAll (program.flatMap ownChoices)).active) ∧
      ∀ (draft : Settings.Draft) (cause : Failure), draft.settings = .error cause →
        session.perform (.configure draft) = (.error cause, session) ∧
        ∀ body, run (.context draft body) session =
          ⟨.single (.error cause) session, session, none⟩ := by
  intro outcome accounts
  have leads : Account.Leads session accounts outcome.session := runAll_leads program session
  obtain ⟨reached, seen⟩ := leads.sees (Account.inForce_nil session.active).symm
  refine ⟨leads, reached, seen,
    fun straight => (runAll_of_straight program straight session _ _).2,
    active_runAll_of_plain program session, ?_⟩
  intro draft cause unmade
  refine ⟨session.perform_configure_of_error unmade, fun body => ?_⟩
  rw [run]
  simp only [unmade]

/-- A draft that only names an escape. -/
def escapeDraft (escape : Text) : Settings.Draft := ⟨[("escape", .text escape)], false⟩

/-- A program with a thread and contexts in a context, and with a context in a context that are both
left because of settings that cannot be made. All of them choose settings for themselves. -/
def nested : List (Program Unit) :=
  [.command (.configure (escapeDraft [.ofChar '^'])),
    .context (escapeDraft [.ofChar '%']) [
      .thread [
        .command .active,
        .command (.configure (escapeDraft [.ofChar '$'])),
        .context (escapeDraft [.ofChar '^']) [.command .active]],
      .command (.create "text" 0 0 none),
      .command .reset],
    .attempt [
      .context (escapeDraft [.ofChar '$']) [
        .command .reset,
        .context (escapeDraft [.ofChar '%']) [
          .demand (.context (escapeDraft []) [.command .reset]),
          .command .active],
        .command .active]],
    .demand (.command .active)]

/-- The characters that escape at the places of a program, in order. -/
def escapes (program : List (Program Unit)) : List (Option CodePoint) :=
  (places program (.fresh ())).map fun place => place.inForce.escapeUnit?

theorem active_runAll_nested :
    nested.all isPlain = true ∧
      (runAll nested (.fresh ())).raised = none ∧
      (runAll nested (.fresh ())).session.active =
        ((Session.fresh ()).afterAll [.configure (escapeDraft [.ofChar '^'])]).active ∧
      (∀ place ∈ places nested (.fresh ()), place.Sees) ∧
      escapes nested = ['\\', '\\', '\\', '^', '%', '%', '$', '^'].map (some ∘ .ofChar) ∧
      (Session.fresh ()).perform (.configure (escapeDraft [])) =
        (.error (.escapeLength (Value.text []).display), .fresh ()) := by
  have plain : nested.all isPlain = true := rfl
  have finished : (runAll nested (.fresh ())).raised = none := rfl
  obtain ⟨_, _, seen, _, active, unmade⟩ := active_runAll nested (.fresh ())
  exact ⟨plain, finished, active plain finished, seen, rfl, (unmade (escapeDraft []) _ rfl).1⟩

end Program

end Lexing

/-
This file tells what a run of a program did. An account is read off the events of the run: it names
the commands that were carried out, in order, and sets apart what was done inside a context or a
thread, together with the settings that this began with. How often a loop went round, where a block
was left for a failure and where a run went on behind it all shows in what was carried out, and
nowhere else.

An account explains its run. Carrying out the commands one after the other leads to the session that
the run has left, if on entering a context or a thread the settings it begins with are put in force,
and on leaving it those from before.

A place is a command of an account together with the block that it stands in, as far as that block
has got by then. Of a straight program, which no failure can cut short, every command that is
written in it is at a place.
-/

import Lexing.Proofs.Turn
import Lexing.Session.Program

namespace Lexing

variable {Caller : Type}

/-! ### Going on and leaving -/

section FollowedBy

variable {Result : Type} {first : Outcome Result Caller}
  {rest : Session Caller → Outcome (List Result) Caller}

theorem Outcome.followedBy_of_raised {cause : Failure} (raised : first.raised = some cause) :
    first.followedBy rest = ⟨[first.result], first.session, some cause⟩ := by
  unfold followedBy
  rw [raised]

theorem Outcome.followedBy_of_finished (finished : first.raised = none) :
    first.followedBy rest =
      ⟨first.result :: (rest first.session).result, (rest first.session).session,
        (rest first.session).raised⟩ := by
  unfold followedBy
  rw [finished]

end FollowedBy

/-! ### Accounts -/

/-- What a run did at one place. -/
inductive Account (Caller : Type) where
  /-- It carried out a command. -/
  | carried (command : Command Caller) (result : Except Failure Reply) (after : Session Caller)
  /-- It ran a block that began with settings of its own. -/
  | inside (settings : Settings) (accounts : List (Account Caller))

namespace Program

mutual

/-- What a step did, as its event tells. -/
def accounts : Program Caller → Event Caller → List (Account Caller)
  | command given, .single result after => [.carried given result after]
  | context draft body, .block rounds _ =>
    match draft.settings with
    | .ok settings => [.inside settings (rounds.flatMap (accountsAll body))]
    | .error _ => []
  | thread body, .block rounds _ => [.inside .standard (rounds.flatMap (accountsAll body))]
  | loop _ _ body, .block rounds _ => rounds.flatMap (accountsAll body)
  | attempt body, .block rounds _ => rounds.flatMap (accountsAll body)
  | demand step, event => accounts step event
  | _, _ => []

/-- What the steps of a block did. Behind the last event the block was left. -/
def accountsAll : List (Program Caller) → List (Event Caller) → List (Account Caller)
  | step :: steps, event :: events => accounts step event ++ accountsAll steps events
  | _, _ => []

end

@[simp] theorem accountsAll_nil (steps : List (Program Caller)) : accountsAll steps [] = [] := by
  cases steps <;> rfl

end Program

/-- An account leads from one session to another. -/
inductive Account.Leads : Session Caller → List (Account Caller) → Session Caller → Prop where
  | nothing (session : Session Caller) : Leads session [] session
  | carried {session last : Session Caller} {command : Command Caller}
      {rest : List (Account Caller)} (later : Leads (session.perform command).2 rest last) :
      Leads session
        (.carried command (session.perform command).1 (session.perform command).2 :: rest) last
  | inside {session left last : Session Caller} {settings : Settings}
      {accounts rest : List (Account Caller)}
      (inner : Leads { session with active := settings } accounts left)
      (later : Leads { left with active := session.active } rest last) :
      Leads session (.inside settings accounts :: rest) last

theorem Account.Leads.append {session between last : Session Caller}
    {early late : List (Account Caller)} (first : Leads session early between)
    (second : Leads between late last) : Leads session (early ++ late) last := by
  induction first with
  | nothing session => exact second
  | carried later inductionHypothesis => exact .carried (inductionHypothesis second)
  | inside inner later _ inductionHypothesis => exact .inside inner (inductionHypothesis second)

namespace Program

open Account

/-- Rounds of a block lead on if the block does. -/
theorem rounds_leads {body : List (Program Caller)}
    (each : ∀ session, Leads session (accountsAll body (runAll body session).result)
      (runAll body session).session) (number count : Nat) (session : Session Caller) :
    Leads session
      ((session.rounds (runAll body) number count).result.flatMap (accountsAll body))
      (session.rounds (runAll body) number count).session := by
  induction count generalizing session with
  | zero => exact .nothing session
  | succ count inductionHypothesis =>
    unfold Session.rounds
    split
    · exact .nothing session
    · have first := each session
      cases raised : (runAll body session).raised with
      | some cause =>
        rw [Outcome.followedBy_of_raised raised, List.flatMap_singleton]
        exact first
      | none =>
        rw [Outcome.followedBy_of_finished raised, List.flatMap_cons]
        exact first.append (inductionHypothesis _)

mutual

/-- What a step did leads from the session that it was run in to the one that it left. -/
theorem run_leads (step : Program Caller) (session : Session Caller) :
    Leads session (step.accounts (run step session).result) (run step session).session := by
  match step with
  | .command given => exact .carried (.nothing _)
  | .context draft body =>
    rw [run]
    cases made : draft.settings with
    | error cause => exact .nothing session
    | ok settings =>
      rw [accounts, made]
      dsimp only
      rw [List.flatMap_singleton]
      exact .inside (runAll_leads body { session with active := settings }) (.nothing _)
  | .thread body =>
    rw [run, accounts, List.flatMap_singleton]
    exact .inside (runAll_leads body { session with active := .standard }) (.nothing _)
  | .loop number count body =>
    rw [run]
    exact rounds_leads (runAll_leads body) number count session
  | .demand step =>
    rw [run]
    exact run_leads step session
  | .attempt body =>
    rw [run, accounts, List.flatMap_singleton]
    exact runAll_leads body session

theorem runAll_leads (steps : List (Program Caller)) (session : Session Caller) :
    Leads session (accountsAll steps (runAll steps session).result)
      (runAll steps session).session := by
  match steps with
  | [] => exact .nothing session
  | step :: rest =>
    have first := run_leads step session
    rw [runAll]
    cases raised : (run step session).raised with
    | some cause =>
      -- The block was left behind its first step, so the others did nothing.
      rw [Outcome.followedBy_of_raised raised, accountsAll, accountsAll_nil, List.append_nil]
      exact first
    | none =>
      rw [Outcome.followedBy_of_finished raised]
      exact first.append (runAll_leads rest _)

end

end Program

/-! ### Places -/

/-- A command that a run carried out, as it is seen from the block that it stands in. -/
structure Place (Caller : Type) where
  /-- The settings that the block began with. -/
  base : Settings
  /-- What the block had done before. -/
  earlier : List (Account Caller)
  command : Command Caller
  result : Except Failure Reply
  after : Session Caller

namespace Account

mutual

/-- The places of an account in a block, from the settings that the block began with and from what
it had done before. -/
def places (base : Settings) (earlier : List (Account Caller)) :
    Account Caller → List (Place Caller)
  | carried command result after => [⟨base, earlier, command, result, after⟩]
  | inside settings accounts => placesAll settings [] accounts

def placesAll (base : Settings) (earlier : List (Account Caller)) :
    List (Account Caller) → List (Place Caller)
  | [] => []
  | account :: rest => account.places base earlier ++ placesAll base (earlier ++ [account]) rest

end

theorem placesAll_append (base : Settings) (earlier early late : List (Account Caller)) :
    placesAll base earlier (early ++ late) =
      placesAll base earlier early ++ placesAll base (earlier ++ early) late := by
  induction early generalizing earlier with
  | nil =>
    rw [List.append_nil]
    rfl
  | cons account rest inductionHypothesis =>
    rw [List.cons_append, placesAll, placesAll, inductionHypothesis, List.append_assoc,
      List.append_assoc, List.singleton_append]

theorem placesAll_inside (base settings : Settings) (earlier accounts : List (Account Caller)) :
    placesAll base earlier [.inside settings accounts] = placesAll settings [] accounts :=
  List.append_nil _

end Account

/-- The places of a run, in order. -/
def Program.places (program : List (Program Caller)) (session : Session Caller) :
    List (Place Caller) :=
  Account.placesAll session.active [] (accountsAll program (runAll program session).result)

/-! ### Straight programs -/

namespace Program

mutual

/-- Whether a step is carried out from its beginning to its end, whatever comes of it. -/
def isStraight : Program Caller → Bool
  | command _ => true
  | context draft body => draft.settings.isOk && isStraightAll body
  | thread body | attempt body => isStraightAll body
  | loop _ _ _ | demand _ => false

def isStraightAll : List (Program Caller) → Bool
  | [] => true
  | step :: rest => step.isStraight && isStraightAll rest

end

mutual

/-- The commands that are written in a step, in order. -/
def written : Program Caller → List (Command Caller)
  | command given => [given]
  | context _ body | thread body | attempt body | loop _ _ body => writtenAll body
  | demand step => step.written

def writtenAll : List (Program Caller) → List (Command Caller)
  | [] => []
  | step :: rest => step.written ++ writtenAll rest

end

mutual

theorem run_of_straight (step : Program Caller) (straight : step.isStraight = true)
    (session : Session Caller) (base : Settings) (earlier : List (Account Caller)) :
    (run step session).raised = none ∧
      (Account.placesAll base earlier (step.accounts (run step session).result)).map
        Place.command = step.written := by
  match step with
  | .command given => exact ⟨rfl, rfl⟩
  | .context draft body =>
    rw [isStraight, Bool.and_eq_true] at straight
    rw [run]
    cases made : draft.settings with
    | error cause =>
      rw [made] at straight
      cases straight.1
    | ok settings =>
      obtain ⟨finished, listed⟩ :=
        runAll_of_straight body straight.2 { session with active := settings } settings []
      refine ⟨finished, ?_⟩
      rw [accounts, made]
      dsimp only
      rw [Account.placesAll_inside, List.flatMap_singleton]
      exact listed
  | .thread body =>
    obtain ⟨_, listed⟩ :=
      runAll_of_straight body straight { session with active := .standard } .standard []
    rw [run]
    refine ⟨rfl, ?_⟩
    rw [accounts, Account.placesAll_inside, List.flatMap_singleton]
    exact listed
  | .attempt body =>
    obtain ⟨_, listed⟩ := runAll_of_straight body straight session base earlier
    rw [run]
    refine ⟨rfl, ?_⟩
    rw [accounts, List.flatMap_singleton]
    exact listed

/-- A straight program runs to its end, and carries out what is written in it. -/
theorem runAll_of_straight (steps : List (Program Caller)) (straight : isStraightAll steps = true)
    (session : Session Caller) (base : Settings) (earlier : List (Account Caller)) :
    (runAll steps session).raised = none ∧
      (Account.placesAll base earlier (accountsAll steps (runAll steps session).result)).map
        Place.command = writtenAll steps := by
  match steps with
  | [] => exact ⟨rfl, rfl⟩
  | step :: rest =>
    rw [isStraightAll, Bool.and_eq_true] at straight
    obtain ⟨finished, listed⟩ := run_of_straight step straight.1 session base earlier
    obtain ⟨finishedAll, listedAll⟩ := runAll_of_straight rest straight.2
      (run step session).session base (earlier ++ step.accounts (run step session).result)
    rw [runAll, Outcome.followedBy_of_finished finished]
    refine ⟨finishedAll, ?_⟩
    rw [accountsAll, Account.placesAll_append, List.map_append, listed, listedAll, writtenAll]

end

end Program

end Lexing

/-
This file runs programs: commands, and blocks of them under other settings. Inside a context the
settings of the context are in force, inside a thread the standard ones, and a block may change them
for itself; when it is left, by whatever way, the settings from before it are in force again.
Cursors, journal and the caller's state are shared by all blocks.

A step that fails says so, and the run goes on behind it. If the step was demanded, the blocks
around it are left before their end instead, one after the other, up to the first that goes on all
the same: an attempt, which is made for that, or a thread, whose failures reach nobody outside.
-/
import Lexing.Session.Basic

namespace Lexing

/-- A step of a program. -/
inductive Program (Caller : Type) where
  | command (command : Command Caller)
  /-- Runs a block under the settings of a draft. If they cannot be made, the block does not run. -/
  | context (draft : Settings.Draft) (body : List (Program Caller))
  /-- Runs a block that starts out under the standard settings. -/
  | thread (body : List (Program Caller))
  /-- Runs a block again and again until a cursor is at the end of its range, but not more often
  than a given number of rounds. -/
  | loop (number rounds : Nat) (body : List (Program Caller))
  /-- Runs a step, and leaves the blocks around it if the step fails. -/
  | demand (step : Program Caller)
  /-- Runs a block, and goes on behind it even if the block is left before its end. -/
  | attempt (body : List (Program Caller))

/-- What a step came to, with the session it left. -/
inductive Event (Caller : Type) where
  | single (result : Except Failure Reply) (after : Session Caller)
  | block (rounds : List (List (Event Caller))) (after : Session Caller)

/-- The failure of a step that failed as a whole. -/
def Event.failure? {Caller : Type} : Event Caller → Option Failure
  | single (.error cause) _ => some cause
  | _ => none

/-- What running a part of a program comes to. -/
structure Outcome (Result Caller : Type) where
  result : Result
  /-- The session that it left. -/
  session : Session Caller
  /-- The failure that it was left for, if it was left before its end. -/
  raised : Option Failure

/-- Goes on behind a part that ran to its end. -/
def Outcome.followedBy {Result Caller : Type} (first : Outcome Result Caller)
    (rest : Session Caller → Outcome (List Result) Caller) : Outcome (List Result) Caller :=
  match first.raised with
  | some cause => ⟨[first.result], first.session, some cause⟩
  | none =>
    let others := rest first.session
    ⟨first.result :: others.result, others.session, others.raised⟩

namespace Session

variable {Caller : Type}

/-- Runs a block under other settings and brings the present ones back afterwards, whether the block
ran to its end or not. -/
def under {Result : Type} (session : Session Caller) (settings : Settings)
    (body : Session Caller → Outcome Result Caller) : Outcome Result Caller :=
  let inside := body { session with active := settings }
  ⟨inside.result, { inside.session with active := session.active }, inside.raised⟩

/-- Runs a block as long as a cursor has something left in its range, for at most some rounds. -/
def rounds {Result : Type} (body : Session Caller → Outcome Result Caller) (number : Nat) :
    Nat → Session Caller → Outcome (List Result) Caller
  | 0, session => ⟨[], session, none⟩
  | count + 1, session =>
    if session.cursors[number]?.all Cursor.atEnd then ⟨[], session, none⟩
    else (body session).followedBy (rounds body number count)

end Session

namespace Program

variable {Caller : Type}

mutual

/-- Runs one step. -/
def run : Program Caller → Session Caller → Outcome (Event Caller) Caller
  | command given, session =>
    let answer := session.perform given
    ⟨.single answer.1 answer.2, answer.2, none⟩
  | context draft body, session =>
    match draft.settings with
    | .error cause => ⟨.single (.error cause) session, session, none⟩
    | .ok settings =>
      let inside := session.under settings (runAll body)
      ⟨.block [inside.result] inside.session, inside.session, inside.raised⟩
  | thread body, session =>
    let inside := session.under .standard (runAll body)
    ⟨.block [inside.result] inside.session, inside.session, none⟩
  | loop number count body, session =>
    let all := session |> Session.rounds (runAll body) number count
    ⟨.block all.result all.session, all.session, all.raised⟩
  | demand step, session =>
    let inside := run step session
    ⟨inside.result, inside.session, inside.raised.or inside.result.failure?⟩
  | attempt body, session =>
    let inside := runAll body session
    ⟨.block [inside.result] inside.session, inside.session, none⟩

/-- Runs steps one after the other. -/
def runAll : List (Program Caller) → Session Caller → Outcome (List (Event Caller)) Caller
  | [], session => ⟨[], session, none⟩
  | step :: rest, session => (run step session).followedBy (runAll rest)

end

end Program

end Lexing

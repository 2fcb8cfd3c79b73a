/-
This file says that a cursor is governed by the settings that its root was made with, and by nothing
else around it. Choosing settings, asking for them, entering and leaving contexts and threads, and
all that concerns handlers is ambient. The ambient part of a program can be left away: what the rest
of it answers, where all cursors stand after each of its commands and what the caller has seen stay
the same. And a sub-view, from whatever chain of sub-views it comes, has the settings of the root at
the beginning of that chain.

Making a root is what reads the settings in force, so the programs here make none.
-/

import Lexing.Proofs.Account
import Lexing.Proofs.Motion

namespace Lexing

variable {Caller : Type}

/-! ### Ambient commands -/

namespace Command

/-- Whether a command concerns the settings in force or the handlers. -/
def isAmbient : Command Caller → Bool
  | configure _ | reset | active | attach | detach _ | transcript _ => true
  | _ => false

/-- Whether a command makes a cursor that does not come from another. -/
def makesRoot : Command Caller → Bool
  | create _ _ _ _ => true
  | _ => false

end Command

/-- What can be seen of a command from the cursors: its answer, all cursors behind it and the
caller's state. -/
structure Sight (Caller : Type) where
  result : Except Failure Reply
  cursors : List Cursor
  caller : Caller

def Turn.sight (turn : Turn Caller) : Sight Caller :=
  ⟨turn.result, turn.after.cursors, turn.after.caller⟩

def Place.sight (place : Place Caller) : Sight Caller :=
  ⟨place.result, place.after.cursors, place.after.caller⟩

namespace Session

/-- Two sessions have the same cursors and the same caller's state. -/
structure Shares (first second : Session Caller) : Prop where
  cursors : first.cursors = second.cursors
  caller : first.caller = second.caller

theorem Shares.trans {first second third : Session Caller} (early : first.Shares second)
    (late : second.Shares third) : first.Shares third :=
  ⟨early.cursors.trans late.cursors, early.caller.trans late.caller⟩

/-- An ambient command does nothing to cursors and the caller's state. -/
theorem shares_perform_of_ambient (session : Session Caller) {command : Command Caller}
    (ambient : command.isAmbient = true) : session.Shares (session.perform command).2 := by
  cases command with
  | configure draft =>
    unfold perform
    dsimp only
    split <;> exact ⟨rfl, rfl⟩
  | transcript handler =>
    unfold perform
    dsimp only
    split <;> exact ⟨rfl, rfl⟩
  | reset | active | attach | detach => exact ⟨rfl, rfl⟩
  | _ => cases ambient

/-- Any other command that makes no root depends on the session by cursors and caller's state. -/
theorem sight_turn_of_shares {bare session : Session Caller} (shares : bare.Shares session)
    {command : Command Caller} (plain : command.isAmbient = false)
    (rootless : command.makesRoot = false) :
    (bare.turn command).sight = (session.turn command).sight := by
  obtain ⟨cursors, bareActive, bareJournal, caller⟩ := bare
  obtain ⟨sessionCursors, active, journal, sessionCaller⟩ := session
  cases (show cursors = sessionCursors from shares.cursors)
  cases (show caller = sessionCaller from shares.caller)
  cases command with
  | limit parent lower upper =>
    unfold turn perform
    dsimp only
    cases cursors[parent]? <;> rfl
  | operate number operation =>
    unfold turn perform
    dsimp only
    cases cursors[number]? <;> rfl
  | assign number offset value =>
    unfold turn perform
    dsimp only
    cases cursors[number]? <;> rfl
  | inquire question => rfl
  | create => cases rootless
  | configure | reset | active | attach | detach | transcript => cases plain

/-- Carried out in a session of its own, the commands of some places give the same sights and lead to
a session that shares with another one. -/
structure Repeats (bare : Session Caller) (places : List (Place Caller))
    (last : Session Caller) : Prop where
  sights : (bare.turns (places.map Place.command)).map Turn.sight = places.map Place.sight
  shares : (bare.afterAll (places.map Place.command)).Shares last

theorem Repeats.append {bare between last : Session Caller} {early late : List (Place Caller)}
    (first : bare.Repeats early between)
    (second : ∀ follower : Session Caller, follower.Shares between → follower.Repeats late last) :
    bare.Repeats (early ++ late) last := by
  obtain ⟨sights, shares⟩ := second _ first.shares
  constructor
  · rw [List.map_append, turns_append, List.map_append, List.map_append, first.sights, sights]
  · rw [List.map_append, afterAll_append]
    exact shares

end Session

/-! ### Accounts without what is ambient -/

namespace Account

/-- The places of an account at which something was done that is not ambient. -/
def acts (base : Settings) (earlier accounts : List (Account Caller)) : List (Place Caller) :=
  (placesAll base earlier accounts).filter fun place => !place.command.isAmbient

/-- One place is repeated, if it is not ambient. -/
theorem repeats_perform {bare session : Session Caller} (shares : bare.Shares session)
    (base : Settings) (earlier : List (Account Caller)) {command : Command Caller}
    (rootless : command.makesRoot = false) :
    bare.Repeats
      (acts base earlier
        [.carried command (session.perform command).1 (session.perform command).2])
      (session.perform command).2 := by
  rw [acts, placesAll, placesAll, places, List.append_nil]
  cases ambient : command.isAmbient with
  | true =>
    simp only [List.filter, ambient, Bool.not_true]
    exact ⟨rfl, shares.trans (session.shares_perform_of_ambient ambient)⟩
  | false =>
    simp only [List.filter, ambient, Bool.not_false]
    have same := Session.sight_turn_of_shares shares ambient rootless
    exact ⟨congrArg (· :: []) same, congrArg Sight.cursors same, congrArg Sight.caller same⟩

/-- Whatever shares cursors and caller's state with the session that an account begins in can repeat
what is not ambient in it. -/
theorem Leads.repeats {session last : Session Caller} {accounts : List (Account Caller)}
    (leads : Leads session accounts last) {base : Settings} {earlier : List (Account Caller)}
    (rootless : ∀ place ∈ placesAll base earlier accounts, place.command.makesRoot = false)
    {bare : Session Caller} (shares : bare.Shares session) :
    bare.Repeats (acts base earlier accounts) last := by
  induction leads generalizing base earlier bare with
  | nothing session => exact ⟨rfl, shares⟩
  | @carried session last command rest later inductionHypothesis =>
    obtain ⟨here, there⟩ := List.forall_mem_append.mp rootless
    have first := repeats_perform shares base earlier (here _ (List.mem_singleton_self _))
    have both := first.append fun follower same => inductionHypothesis there same
    rwa [acts, acts, ← List.filter_append] at both
  | @inside session left last settings accounts rest inner later innerHypothesis laterHypothesis =>
    -- Entering and leaving a block touches nothing that is shared.
    obtain ⟨within, there⟩ := List.forall_mem_append.mp rootless
    have first : bare.Repeats (acts settings [] accounts) left :=
      innerHypothesis within ⟨shares.cursors, shares.caller⟩
    have both := first.append fun follower same =>
      laterHypothesis there ⟨same.cursors, same.caller⟩
    rwa [acts, acts, ← List.filter_append] at both

end Account

/-! ### Roots -/

namespace Command

/-- Values that cursors have, continued by a command: a cursor that it makes from another gets the
value of that one. -/
def inherit {Value : Type} (values : List Value) : Command Caller → List Value
  | limit parent _ _ => values ++ values[parent]?.toList
  | _ => values

def inheritAll {Value : Type} (values : List Value) (commands : List (Command Caller)) :
    List Value :=
  commands.foldl inherit values

theorem prefix_inherit {Value : Type} (values : List Value) (command : Command Caller) :
    values <+: command.inherit values := by
  cases command with
  | limit parent lower upper => exact List.prefix_append _ _
  | _ => exact List.prefix_refl _

theorem prefix_inheritAll {Value : Type} (values : List Value) (commands : List (Command Caller)) :
    values <+: inheritAll values commands := by
  induction commands generalizing values with
  | nil => exact List.prefix_refl _
  | cons command rest inductionHypothesis =>
    exact (prefix_inherit values command).trans (inductionHypothesis _)

theorem map_inherit {Value Other : Type} (change : Value → Other) (values : List Value)
    (command : Command Caller) :
    (command.inherit values).map change = command.inherit (values.map change) := by
  cases command with
  | limit parent lower upper =>
    rw [inherit, inherit, List.map_append, List.getElem?_map, Option.toList_map]
  | _ => rfl

theorem map_inheritAll {Value Other : Type} (change : Value → Other) (values : List Value)
    (commands : List (Command Caller)) :
    (inheritAll values commands).map change = inheritAll (values.map change) commands := by
  induction commands generalizing values with
  | nil => rfl
  | cons command rest inductionHypothesis =>
    refine (inductionHypothesis _).trans ?_
    rw [map_inherit]
    rfl

end Command

namespace Session

theorem map_settings_set {cursors : List Cursor} {number : Nat} {cursor after : Cursor}
    (found : cursors[number]? = some cursor) (same : after.settings = cursor.settings) :
    (cursors.set number after).map Cursor.settings = cursors.map Cursor.settings := by
  obtain ⟨inside, rfl⟩ := List.getElem?_eq_some_iff.mp found
  rw [List.map_set, same, ← List.map_set, List.set_getElem_self]

/-- Settings of cursors are only ever handed on from a cursor to its sub-views. -/
theorem map_settings_perform (session : Session Caller) {command : Command Caller}
    (rootless : command.makesRoot = false) :
    (session.perform command).2.cursors.map Cursor.settings =
      command.inherit (session.cursors.map Cursor.settings) := by
  cases command with
  | limit parent lower upper =>
    cases found : session.cursors[parent]? with
    | none =>
      simp only [perform, found, Command.inherit, List.getElem?_map, Option.map_none,
        Option.toList_none, List.append_nil]
    | some cursor =>
      simp only [perform, found, addCursor, Command.inherit, List.getElem?_map, Option.map_some,
        Option.toList_some, List.map_append, List.map_singleton]
      rfl
  | operate number operation =>
    cases found : session.cursors[number]? with
    | none =>
      rw [perform_operate_of_none found]
      rfl
    | some cursor =>
      rw [perform_operate_of_some found]
      exact map_settings_set found (cursor.perform_sameScope operation session.caller).settings
  | assign number offset value =>
    cases found : session.cursors[number]? with
    | none =>
      simp only [perform, found]
      rfl
    | some cursor =>
      simp only [perform, found]
      refine map_settings_set found ?_
      cases offset <;> rfl
  | configure draft =>
    have shares : session.Shares (session.perform (.configure draft)).2 :=
      session.shares_perform_of_ambient rfl
    rw [← shares.cursors]
    rfl
  | transcript handler =>
    have shares : session.Shares (session.perform (.transcript handler)).2 :=
      session.shares_perform_of_ambient rfl
    rw [← shares.cursors]
    rfl
  | create => cases rootless
  | _ => rfl

theorem map_settings_of_mem_turns {session : Session Caller} {commands : List (Command Caller)}
    (rootless : ∀ command ∈ commands, command.makesRoot = false) {turn : Turn Caller}
    (listed : turn ∈ session.turns commands) :
    turn.after.cursors.map Cursor.settings <+:
      Command.inheritAll (session.cursors.map Cursor.settings) commands := by
  induction commands generalizing session with
  | nil => exact absurd listed List.not_mem_nil
  | cons command rest inductionHypothesis =>
    have handed := session.map_settings_perform (rootless command List.mem_cons_self)
    rw [Command.inheritAll, List.foldl_cons, ← handed]
    cases List.mem_cons.mp listed with
    | inl first =>
      rw [first]
      exact Command.prefix_inheritAll _ rest
    | inr later =>
      exact inductionHypothesis (fun other among => rootless other (List.mem_cons_of_mem _ among))
        later

/-- For each cursor of a session, and each that commands add to it, the number of the cursor of the
session that it comes from, as it stands itself or through a chain of sub-views. -/
def roots (session : Session Caller) (commands : List (Command Caller)) : List Nat :=
  Command.inheritAll (List.range session.cursors.length) commands

theorem map_range_settings (cursors : List Cursor) :
    (List.range cursors.length).map (fun root => cursors[root]?.map Cursor.settings) =
      (cursors.map Cursor.settings).map some := by
  refine List.ext_getElem (by simp) fun number inside _ => ?_
  simp only [List.length_map, List.length_range] at inside
  simp [inside]

theorem root_of_mem_turns {session : Session Caller} {commands : List (Command Caller)}
    (rootless : ∀ command ∈ commands, command.makesRoot = false) {turn : Turn Caller}
    (listed : turn ∈ session.turns commands) {number : Nat} {cursor : Cursor}
    (found : turn.after.cursors[number]? = some cursor) :
    ∃ root origin, (session.roots commands)[number]? = some root ∧
      session.cursors[root]? = some origin ∧ cursor.settings = origin.settings := by
  -- The settings and the roots of all cursors come about in the same way, so one list is read off
  -- the other.
  have named : (session.roots commands).map (fun root => session.cursors[root]?.map Cursor.settings) =
      (Command.inheritAll (session.cursors.map Cursor.settings) commands).map some := by
    rw [roots, Command.map_inheritAll, Command.map_inheritAll, map_range_settings]
  obtain ⟨rest, whole⟩ := map_settings_of_mem_turns rootless listed
  have settled : (turn.after.cursors.map Cursor.settings)[number]? = some cursor.settings := by
    rw [List.getElem?_map, found]
    rfl
  have inside := (List.getElem?_eq_some_iff.mp settled).1
  have read := congrArg (fun values => values[number]?) named
  simp only [List.getElem?_map, ← whole] at read
  rw [List.getElem?_append_left inside, settled] at read
  obtain ⟨root, there, known⟩ := Option.map_eq_some_iff.mp read
  obtain ⟨origin, first, same⟩ := Option.map_eq_some_iff.mp known
  exact ⟨root, origin, there, first, same.symm⟩

end Session

/-! ### Programs without what is ambient -/

namespace Program

/-- The places of a run at which something was done that is not ambient. -/
def acts (program : List (Program Caller)) (session : Session Caller) : List (Place Caller) :=
  (places program session).filter fun place => !place.command.isAmbient

/-- Cursors are governed by the settings that their roots were made with. Leave all that is ambient
away from a program that makes no roots, and carry out the rest in any session with the same cursors
and caller's state, whatever settings and handlers there are: answers, cursors and the caller's state
are the same at every turn. The rest is what the program says without its ambient commands, as long
as it is straight. And at every place each cursor has the settings of its root. -/
theorem runAll_captured (program : List (Program Caller)) {session bare : Session Caller}
    (shares : bare.Shares session)
    (rootless : ∀ place ∈ places program session, place.command.makesRoot = false) :
    let commands := (acts program session).map Place.command
    (bare.turns commands).map Turn.sight = (acts program session).map Place.sight ∧
      (bare.afterAll commands).Shares (runAll program session).session ∧
      (isStraightAll program = true →
        commands = (writtenAll program).filter fun command => !command.isAmbient) ∧
      ∀ place ∈ acts program session, ∀ (number : Nat) (cursor : Cursor),
        place.after.cursors[number]? = some cursor →
          ∃ root origin, (session.roots commands)[number]? = some root ∧
            session.cursors[root]? = some origin ∧ cursor.settings = origin.settings := by
  intro commands
  have repeats : bare.Repeats (acts program session) (runAll program session).session :=
    (runAll_leads program session).repeats rootless shares
  obtain ⟨sights, shared⟩ := repeats
  refine ⟨sights, shared, fun straight => ?_, fun place listed number cursor found => ?_⟩
  · rw [← (runAll_of_straight program straight session session.active []).2, List.filter_map]
    rfl
  · obtain ⟨turn, among, same⟩ : ∃ turn ∈ bare.turns commands, turn.sight = place.sight := by
      rw [← List.mem_map, sights]
      exact List.mem_map_of_mem listed
    have reached : turn.after.cursors = place.after.cursors := congrArg Sight.cursors same
    have plain : ∀ command ∈ commands, command.makesRoot = false := by
      intro command within
      obtain ⟨other, kept, rfl⟩ := List.mem_map.mp within
      exact rootless other (List.mem_filter.mp kept).1
    rw [← reached] at found
    have root := Session.root_of_mem_turns plain among found
    rwa [Session.roots, shares.cursors] at root

/-- A cursor whose settings are all other than the standard ones. -/
def strict : Cursor :=
  .ofText "'it^'s' on"
    { escape := .text [.ofChar '^'], checkBounds := .flag true, quoteSource := .flag false } 0 0 none

/-- A program that makes a sub-view of a sub-view in a thread in a context, and leaves another
context because it is refused to back up. -/
def surrounded : List (Program Unit) :=
  [.command .attach,
    .context ⟨[], false⟩ [
      .command (.limit 0 0 7),
      .thread [.command .reset, .command (.limit 1 1 5), .command (.operate 2 (.diagnose "here"))],
      .attempt [
        .context ⟨[], true⟩ [
          .demand (.command (.operate 1 (.backUp 1))),
          .command (.operate 1 .next)]]],
    .command (.operate 1 (.eatQuoted (.text "'") none)),
    .command (.transcript 0)]

/-- A session with that cursor, under the standard settings. -/
def holding : Session Unit := { Session.fresh () with cursors := [strict] }

/-- What the program does with cursors. -/
def remaining : List (Command Unit) :=
  [.limit 0 0 7, .limit 1 1 5, .operate 2 (.diagnose "here"), .operate 1 (.backUp 1),
    .operate 1 (.eatQuoted (.text "'") none)]

theorem runAll_captured_surrounded :
    (∀ place ∈ places surrounded holding, place.command.makesRoot = false) ∧
      (Session.turns { holding with active := strict.settings } remaining).map Turn.sight =
        (acts surrounded holding).map Place.sight ∧
      ∀ place ∈ acts surrounded holding, ∀ cursor ∈ place.after.cursors,
        cursor.settings = strict.settings := by
  have shares : Session.Shares { holding with active := strict.settings } holding := ⟨rfl, rfl⟩
  have rootless : ∀ place ∈ places surrounded holding, place.command.makesRoot = false := by
    have checked : (places surrounded holding).all (fun place => !place.command.makesRoot) = true :=
      rfl
    intro place listed
    exact (Bool.not_eq_true' _).mp (List.all_eq_true.mp checked place listed)
  obtain ⟨sights, _, _, governed⟩ := runAll_captured surrounded shares rootless
  have said : (acts surrounded holding).map Place.command = remaining := rfl
  have roots : holding.roots remaining = .replicate 3 0 := rfl
  rw [said] at sights governed
  refine ⟨rootless, sights, fun place listed cursor among => ?_⟩
  obtain ⟨number, found⟩ := List.mem_iff_getElem?.mp among
  obtain ⟨root, origin, there, first, same⟩ := governed place listed number cursor found
  rw [roots] at there
  rw [List.eq_of_mem_replicate (List.mem_of_getElem? there)] at first
  rw [same, ← Option.some.inj first]

end Program

end Lexing

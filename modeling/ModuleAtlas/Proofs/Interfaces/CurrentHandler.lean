import ModuleAtlas.Session

/-!
# The handler in force

A call that sets logging up either replaces all handlers by one of its own, or finds no level and
changes nothing. So until the next such call that returns, whatever else happens, messages go to the
stream of the last one that did, and each goes there once.

## Main definitions

* `Session.Asks` — the name by which a call asks for a level.
* `Session.NoneReturns` — events among which no call that sets logging up returns.
-/
namespace ModuleAtlas

open Schema.Checked

namespace Logging

variable (stream : Nat) (n : Int)

theorem foldl_remove (hs : List Handler) : hs.foldl remove ⟨n, hs⟩ = ⟨n, []⟩ := by
  induction hs with
  | nil => rfl
  | cons h hs ih =>
    have first : remove ⟨n, h :: hs⟩ h = ⟨n, hs⟩ := by
      unfold remove
      rw [List.erase_cons_head]
    rw [List.foldl_cons, first, ih]

/-- Whatever handlers there were, one is left. -/
theorem direct_eq (l : Logging) : l.direct stream n = ⟨n, [⟨stream, n⟩]⟩ := by
  unfold direct
  exact congrArg (add · _) (foldl_remove n l.handlers)

/-- One handler of the level of logging gets the messages of at least that level, but those that are
silenced. -/
theorem streams_single (m : Message) : streams ⟨n, [⟨stream, n⟩]⟩ m =
    if 0 < m.level ∧ n ≤ m.level then [stream] else [] := by
  unfold streams isEnabled silenced
  grind

end Logging

namespace Session

/-- A call asks for a level by the name that it gives. If it gives none, or an empty one, it asks by
the name in the settings. -/
def Asks (s : Session) (level : Option String) (name : String) : Prop :=
  level = some name ∧ name ≠ "" ∨
    (level = none ∨ level = some "") ∧ ∃ settings, s.readSettings.1 = ok settings ∧
      settings.logLevel = name

/-- No call that sets logging up returns, each taken in the state that it is made in. -/
def NoneReturns (s : Session) (events : List Event) : Prop :=
  ∀ before stream level later, events = before ++ .setUp stream level :: later →
    ((s.run before).setUp stream level).1 ≠ ok ()

/-! ## Setting up -/

theorem get_of_faults {e : Environment} {kept : Settings.Kept} {fs : List Schema.Fault}
    (h : (Settings.get e kept).1 = faults fs) : Settings.get e kept = (faults fs, kept) := by
  unfold Settings.get at h ⊢
  grind

section Calls

variable (s : Session) (stream : Nat) (level : Option String)

/-- A call sets logging up for its stream alone, or fails with the settings and changes nothing. -/
theorem setUp_cases :
    (∃ name, s.Asks level name ∧ (s.setUp stream level).1 = ok () ∧
      (s.setUp stream level).2.written = s.written ∧
      (s.setUp stream level).2.logging =
        ⟨Level.ofName name, [⟨stream, Level.ofName name⟩]⟩) ∨
    ∃ fs, (level = none ∨ level = some "") ∧ s.readSettings.1 = faults fs ∧
      s.setUp stream level = (faults fs, s) := by
  cases given : level.filter (· ≠ "") with
  | some name =>
    refine .inl ⟨name, .inl ?_, ?_⟩
    · simpa [Option.filter_eq_some_iff] using given
    · unfold setUp Logging.setup
      simp only [given, Logging.direct_eq, and_self]
  | none =>
    have absent : level = none ∨ level = some "" := by
      cases level <;> grind
    cases read : Settings.get s.environment s.kept with
    | mk outcome kept =>
      cases outcome with
      | ok settings =>
        refine .inl ⟨settings.logLevel, .inr ⟨absent, settings, ?_, rfl⟩, ?_⟩
        · exact congrArg Prod.fst read
        · unfold setUp Logging.setup
          simp only [given, read, Logging.direct_eq, and_self]
      | faults fs =>
        have same := get_of_faults (congrArg Prod.fst read)
        refine .inr ⟨fs, absent, congrArg Prod.fst read, ?_⟩
        unfold setUp Logging.setup
        simp only [given, same]

variable {s stream level}

theorem setUp_eq_of_ne_ok (h : (s.setUp stream level).1 ≠ ok ()) :
    (s.setUp stream level).2 = s := by
  obtain ⟨_, -, returned, -⟩ | ⟨_, -, -, failed⟩ := setUp_cases s stream level
  · exact absurd returned h
  · rw [failed]

end Calls

/-! ## What happens afterwards -/

/-- The messages that are logged in an event. -/
def Event.messages : Event → List Message
  | .send m => [m]
  | _ => []

/-- What arrives in a stream while a level is in force: the messages of at least that level and of a
positive one. -/
def delivered (stream : Nat) (n : Int) (events : List Event) : List (Nat × Message) :=
  let severe := (events.flatMap Event.messages).filter fun m => 0 < m.level ∧ n ≤ m.level
  severe.map fun m => (stream, m)

section Afterwards

variable {s : Session} {stream : Nat} {n : Int} {e : Event} {later : List Event}

theorem delivered_cons : delivered stream n (e :: later) =
    delivered stream n [e] ++ delivered stream n later := by
  unfold delivered
  rw [← List.map_append, ← List.filter_append, ← List.flatMap_append, List.singleton_append]

theorem run_append (s : Session) (before later : List Event) :
    s.run (before ++ later) = (s.run before).run later := List.foldl_append

theorem noneReturns_nil : s.NoneReturns [] := by
  intro before stream level rest split
  simp at split

theorem noneReturns_cons : s.NoneReturns (e :: later) ↔
    (∀ stream level, e = .setUp stream level → (s.setUp stream level).1 ≠ ok ()) ∧
      (s.step e).NoneReturns later := by
  constructor
  · intro h
    refine ⟨fun stream level same => h [] stream level later (same ▸ rfl), ?_⟩
    exact fun before stream level rest split => h (e :: before) stream level rest (split ▸ rfl)
  · rintro ⟨first, tail⟩ before stream level rest split
    cases before with
    | nil => exact first stream level (List.cons.inj split).1
    | cons other before =>
      obtain ⟨rfl, behind⟩ := List.cons.inj split
      exact tail before stream level rest behind

theorem NoneReturns.step_setUp {level : Option String}
    (h : s.NoneReturns (.setUp stream level :: later)) : s.step (.setUp stream level) = s :=
  setUp_eq_of_ne_ok ((noneReturns_cons.1 h).1 stream level rfl)

/-- Nothing but a call that returns changes how logging is set up. -/
theorem logging_step (h : s.NoneReturns (e :: later)) : (s.step e).logging = s.logging := by
  cases e with
  | setUp stream level => rw [h.step_setUp]
  | _ => rfl

/-- A message is written once, to the stream of the only handler, and nothing else is written. -/
theorem written_step (h : s.NoneReturns (e :: later)) (alone : s.logging = ⟨n, [⟨stream, n⟩]⟩) :
    (s.step e).written = s.written ++ delivered stream n [e] := by
  cases e with
  | setUp stream level =>
    rw [h.step_setUp]
    exact (List.append_nil _).symm
  | send m =>
    have streams := Logging.streams_single stream n m
    have sent : (s.step (.send m)).written =
        s.written ++ (s.logging.streams m).map fun stream => (stream, m) := rfl
    rw [sent, alone, streams]
    unfold delivered Event.messages
    by_cases arrives : 0 < m.level ∧ n ≤ m.level <;> simp [arrives]
  | _ => exact (List.append_nil _).symm

theorem run_of_noneReturns (h : s.NoneReturns later) (alone : s.logging = ⟨n, [⟨stream, n⟩]⟩) :
    (s.run later).logging = ⟨n, [⟨stream, n⟩]⟩ ∧
    (s.run later).written = s.written ++ delivered stream n later := by
  induction later generalizing s with
  | nil => exact ⟨alone, (List.append_nil _).symm⟩
  | cons e later ih =>
    obtain ⟨logging, written⟩ := ih (noneReturns_cons.1 h).2 ((logging_step h).trans alone)
    refine ⟨logging, written.trans ?_⟩
    rw [written_step h alone, List.append_assoc, ← delivered_cons]

end Afterwards

/-- After a call that returns there is one handler, which writes to the stream of that call, and its
level and that of logging are the one that the call asks for. It stays so until the next call that
returns, and what is written in the meantime are the messages that are logged and are of at least
that level and of a positive one, each once and in that stream. A call fails only for settings that
cannot be read, and then changes nothing. -/
theorem latest_handler_alone (s : Session) (before later : List Event) (stream : Nat)
    (level : Option String) :
    let called := s.run before
    let done := called.setUp stream level
    (done.1 = ok () → ∃ name, called.Asks level name ∧
      let n := (Level.names.lookup (String.ofList (Text.upper name.toList))).getD Level.info
      done.2.logging = ⟨n, [⟨stream, n⟩]⟩ ∧ done.2.written = called.written ∧
      (done.2.NoneReturns later →
        let now := s.run (before ++ .setUp stream level :: later)
        now.logging = ⟨n, [⟨stream, n⟩]⟩ ∧
        now.written = called.written ++ delivered stream n later)) ∧
    (done.1 ≠ ok () → (level = none ∨ level = some "") ∧
      (∃ fs, called.readSettings.1 = faults fs ∧ done.1 = faults fs) ∧ done.2 = called) := by
  intro called done
  obtain ⟨name, asks, returned, written, alone⟩ | ⟨fs, absent, unread, failed⟩ :=
    setUp_cases called stream level
  · refine ⟨fun _ => ⟨name, asks, alone, written, fun none => ?_⟩, fun h => absurd returned h⟩
    intro now
    have last : now = done.2.run later := run_append s before (.setUp stream level :: later)
    rw [last, ← written]
    exact run_of_noneReturns none alone
  · have failed : done = (faults fs, called) := failed
    refine ⟨?_, fun _ => ⟨absent, ⟨fs, unread, ?_⟩, ?_⟩⟩
    · simp [failed]
    · rw [failed]
    · rw [failed]

theorem latest_handler_alone_sample :
    let told : Message := ⟨Level.info, "a", "Not severe enough."⟩
    let warned : Message := ⟨Level.warning, "a", "Severe enough."⟩
    let now := (start []).run [.setUp 1 none, .setVariable "DEPGRAPH_API_PORT" "http",
      .clearSettings, .setUp 2 (some "warn"), .setUp 3 none, .send told, .send warned]
    now.logging = ⟨Level.warning, [⟨2, Level.warning⟩]⟩ ∧ now.written = [(2, warned)] := by
  intro told warned
  obtain ⟨name, asks, -, -, since⟩ := (latest_handler_alone (start [])
    [.setUp 1 none, .setVariable "DEPGRAPH_API_PORT" "http", .clearSettings]
    [.setUp 3 none, .send told, .send warned] 2 (some "warn")).1 rfl
  have named : name = "warn" := by
    rcases asks with ⟨⟨⟩, -⟩ | ⟨absent | absent, -⟩
    · rfl
    · cases absent
    · simp at absent
  subst named
  have fails : ∀ {stream level}, Event.setUp 3 none = .setUp stream level →
      ((Session.setUp ⟨[("DEPGRAPH_API_PORT", "http")], none,
        ⟨Level.warning, [⟨2, Level.warning⟩]⟩, []⟩ stream level).1 ≠ ok ()) := by
    rintro _ _ ⟨⟩ returned
    cases returned
  exact since (noneReturns_cons.2 ⟨fun _ _ => fails, noneReturns_cons.2 ⟨nofun,
    noneReturns_cons.2 ⟨nofun, noneReturns_nil⟩⟩⟩)

/-- Not all messages of at least the level that is in force arrive: where that level is zero, those
of level zero do not. -/
theorem level_zero_silenced :
    let done := (start []).setUp 1 (some "NOTSET")
    done.1 = ok () ∧ done.2.logging = ⟨0, [⟨1, 0⟩]⟩ ∧
      ¬ ∀ m, (done.2.send m).written = done.2.written ++ if 0 ≤ m.level then [(1, m)] else [] := by
  refine ⟨rfl, rfl, fun arrives => ?_⟩
  have written := arrives ⟨0, "x", "m"⟩
  cases written

end Session

end ModuleAtlas

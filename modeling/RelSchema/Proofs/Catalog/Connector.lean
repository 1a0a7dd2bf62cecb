import Mathlib.Tactic.Common
import RelSchema.Catalog.Connector

/-!
# Engines that are left open

A connector holds the engine of its last attempt to connect, also when the attempt was refused, and
an exit disposes of it. What a run keeps is that all engines but the held one are disposed of,
except those whose attempt was refused and followed by another one: the second engine takes the
place of the first, which nothing can dispose of any more. So exactly one engine is lost with every
such retry.
-/

namespace RelSchema.Connector

theorem enter_of_isConnected {connector : Connector} (hopen : connector.isConnected = true)
    (refusal : Option String) : connector.enter refusal = (.ok (), connector) := by
  unfold enter
  rw [if_pos hopen]

/-- An attempt to connect makes an engine and holds it, whatever comes of the attempt. -/
theorem enter_of_not_isConnected {connector : Connector} {url : Url}
    (hclosed : connector.isConnected = false) (hurl : connector.url = some url)
    (refusal : Option String) :
    (connector.enter refusal).2 = { connector with
      engines := connector.engines ++ [engineFor url connector.timeout]
      held := some connector.engines.length
      isConnected := refusal.isNone } := by
  unfold enter
  rw [if_neg (by rw [hclosed]; exact Bool.false_ne_true), hurl]
  cases refusal with
  | none => rfl
  | some report => exact congrArg (fun open? => { connector with
      url := some url
      engines := connector.engines ++ [engineFor url connector.timeout]
      held := some connector.engines.length
      isConnected := open? }) hclosed

def disposed (engine : Engine) : Engine :=
  { engine with disposals := engine.disposals + 1 }

/-- An exit disposes of the engine that is held, which is the last one. -/
theorem exit_of_held {connector : Connector} {past : List Engine} {engine : Engine}
    (hengines : connector.engines = past ++ [engine]) (hheld : connector.held = some past.length) :
    connector.exit = { connector with
      engines := past ++ [disposed engine]
      held := none
      isConnected := false } := by
  have hlast : (past ++ [engine]).modify past.length disposed = past ++ [disposed engine] := by
    rw [List.modify_eq_take_cons_drop (by simp)]
    simp
  unfold exit
  rw [hheld, hengines]
  exact congrArg
    (fun engines => { connector with engines, held := none, isConnected := false }) hlast

def after (catalog : Catalog) (connector : Connector) (events : List Event) : Connector :=
  events.foldl (fun connector event => (connector.run catalog event).2) connector

/-- Where events leave a connector. -/
inductive Phase
  | closed
  | refused
  | connected
  deriving DecidableEq, Repr

namespace Phase

def next : Phase → Event → Phase
  | connected, .enter _ => connected
  | _, .enter none => connected
  | _, .enter (some _) => refused
  | _, .exit => closed
  | phase, .query _ => phase

/-- Whether the event is a further attempt to connect behind a refused one. -/
def isRetry : Phase → Event → Bool
  | refused, .enter _ => true
  | _, _ => false

def after (phase : Phase) (events : List Event) : Phase :=
  events.foldl next phase

/-- The number of attempts to connect that follow a refused one without an exit between them. -/
def retries (phase : Phase) : List Event → Nat
  | [] => 0
  | event :: events => (if phase.isRetry event then 1 else 0) + (phase.next event).retries events

theorem next_enter {phase : Phase} (hphase : phase ≠ .connected) (refusal : Option String) :
    phase.next (.enter refusal) = if refusal.isNone then .connected else .refused := by
  cases phase with
  | connected => exact absurd rfl hphase
  | closed => cases refusal <;> rfl
  | refused => cases refusal <;> rfl

end Phase

def openCount (engines : List Engine) : Nat :=
  engines.countP (·.disposals == 0)

theorem openCount_append_disposed (past : List Engine) (current : Option Engine) :
    openCount (past ++ (current.map disposed).toList) = openCount past := by
  have hdisposed : openCount (current.map disposed).toList = 0 := by
    cases current <;> simp [openCount, disposed]
  rw [openCount, List.countP_append, ← openCount, ← openCount, hdisposed, Nat.add_zero]

/-- Nothing is disposed of twice, and only the engine that is held may be open. -/
structure Tidy (connector : Connector) : Prop where
  disposals_le : ∀ engine ∈ connector.engines, engine.disposals ≤ 1
  held_of_open : ∀ place engine, connector.engines[place]? = some engine → engine.disposals = 0 →
    connector.held = some place

/-- The connector has made the past engines, and then the current one, which it holds and which is
open. There is a current engine unless the connector is closed. -/
structure Keeps (phase : Phase) (past : List Engine) (current : Option Engine)
    (connector : Connector) : Prop where
  url_isSome : connector.url.isSome = true
  isConnected_eq : connector.isConnected = (phase == .connected)
  engines_eq : connector.engines = past ++ current.toList
  held_eq : connector.held = current.map fun _ => past.length
  current_isSome : current.isSome = (phase != .closed)
  current_open : ∀ engine ∈ current, engine.disposals = 0
  disposals_le : ∀ engine ∈ past, engine.disposals ≤ 1

namespace Keeps

variable {phase : Phase} {past : List Engine} {current : Option Engine} {connector : Connector}

theorem disposals_le_append (h : Keeps phase past current connector) :
    ∀ engine ∈ past ++ current.toList, engine.disposals ≤ 1 := by
  intro engine hengine
  rcases List.mem_append.mp hengine with hpast | hcurrent
  · exact h.disposals_le engine hpast
  · have hopen := h.current_open engine (Option.mem_toList.mp hcurrent)
    omega

/-- An attempt to connect takes the engine of a refused attempt out of the connector's hands. -/
theorem enter (h : Keeps phase past current connector) (hphase : phase ≠ .connected)
    (refusal : Option String) :
    ∃ engine, Keeps (phase.next (.enter refusal)) (past ++ current.toList) (some engine)
      (connector.enter refusal).2 := by
  obtain ⟨url, hurl⟩ := Option.isSome_iff_exists.mp h.url_isSome
  have hclosed : connector.isConnected = false := by
    rw [h.isConnected_eq]
    exact beq_eq_false_iff_ne.mpr hphase
  refine ⟨engineFor url connector.timeout, ?_⟩
  rw [enter_of_not_isConnected hclosed hurl, Phase.next_enter hphase]
  refine ⟨h.url_isSome, ?_, ?_, ?_, ?_, ?_, h.disposals_le_append⟩
  · cases refusal <;> rfl
  · rw [h.engines_eq]
    rfl
  · rw [h.engines_eq]
    rfl
  · cases refusal <;> rfl
  · rintro engine ⟨⟩
    rfl

theorem exit (h : Keeps phase past current connector) :
    Keeps .closed (past ++ (current.map disposed).toList) none connector.exit := by
  cases current with
  | none =>
      have hexit : connector.exit = connector := by
        unfold Connector.exit
        rw [h.held_eq]
        rfl
      have hphase : phase = .closed := by
        simpa using h.current_isSome
      subst hphase
      rw [hexit, Option.map_none, Option.toList_none, List.append_nil]
      exact h
  | some engine =>
      rw [exit_of_held h.engines_eq h.held_eq]
      refine ⟨h.url_isSome, rfl, (List.append_nil _).symm, rfl, rfl, by simp, ?_⟩
      intro other hother
      rcases List.mem_append.mp hother with hpast | hlast
      · exact h.disposals_le other hpast
      · obtain rfl := List.mem_singleton.mp hlast
        have hdisposals : (disposed engine).disposals = 1 :=
          congrArg (· + 1) (h.current_open engine rfl)
        exact Nat.le_of_eq hdisposals

/-- An event loses an engine exactly if it is a retry. -/
theorem run (h : Keeps phase past current connector) (catalog : Catalog) (event : Event) :
    ∃ past' current', Keeps (phase.next event) past' current' (connector.run catalog event).2 ∧
      openCount past' = openCount past + if phase.isRetry event then 1 else 0 := by
  cases event with
  | query query => exact ⟨past, current, by cases phase <;> exact h, by cases phase <;> rfl⟩
  | exit =>
      have hnext : phase.next .exit = .closed := by cases phase <;> rfl
      have hretry : phase.isRetry .exit = false := by cases phase <;> rfl
      refine ⟨_, none, hnext ▸ h.exit, ?_⟩
      rw [openCount_append_disposed, hretry]
      rfl
  | enter refusal =>
      by_cases hphase : phase = .connected
      · subst hphase
        refine ⟨past, current, ?_, rfl⟩
        have hsame : (connector.run catalog (.enter refusal)).2 = connector :=
          congrArg Prod.snd (enter_of_isConnected h.isConnected_eq refusal)
        rw [hsame]
        exact h
      · obtain ⟨engine, hengine⟩ := h.enter hphase refusal
        refine ⟨_, some engine, hengine, ?_⟩
        -- The engine that is no longer held is open, and there is one behind a refused attempt only.
        have hcurrent : openCount current.toList
            = if phase.isRetry (.enter refusal) then 1 else 0 := by
          have hsome := h.current_isSome
          have hopen := h.current_open
          cases current with
          | none =>
              obtain rfl : phase = .closed := by simpa using hsome
              rfl
          | some engine =>
              obtain rfl : phase = .refused := by
                cases phase with
                | refused => rfl
                | closed => cases hsome
                | connected => exact absurd rfl hphase
              simp [openCount, hopen engine rfl, Phase.isRetry]
        rw [openCount, List.countP_append, ← openCount, ← openCount, hcurrent]

/-- A run loses one engine with every retry. -/
theorem after (h : Keeps phase past current connector) (catalog : Catalog) (events : List Event) :
    ∃ past' current', Keeps (phase.after events) past' current' (connector.after catalog events) ∧
      openCount past' = openCount past + phase.retries events := by
  induction events generalizing phase past current connector with
  | nil => exact ⟨past, current, h, rfl⟩
  | cons event events ih =>
      obtain ⟨past', current', hnext, hcount⟩ := h.run catalog event
      obtain ⟨past'', current'', hlast, hcount'⟩ := ih hnext
      refine ⟨past'', current'', hlast, ?_⟩
      rw [hcount', hcount, Phase.retries, Nat.add_assoc]

theorem openCount_engines (h : Keeps phase past current connector) :
    openCount connector.engines = openCount past + connector.held.toList.length := by
  rw [h.engines_eq, h.held_eq, openCount, List.countP_append, ← openCount]
  congr 1
  cases current with
  | none => rfl
  | some engine => simp [h.current_open engine rfl]

theorem tidy_iff (h : Keeps phase past current connector) :
    connector.Tidy ↔ openCount past = 0 := by
  have hcount : openCount past = 0 ↔ ∀ engine ∈ past, engine.disposals ≠ 0 := by
    simp [openCount]
  rw [hcount]
  constructor
  · intro htidy engine hengine hopen
    obtain ⟨place, hplace, rfl⟩ := List.mem_iff_getElem.mp hengine
    have hfound : connector.engines[place]? = some past[place] := by
      rw [h.engines_eq, List.getElem?_append_left hplace, List.getElem?_eq_getElem hplace]
    have hheld := htidy.held_of_open place _ hfound hopen
    rw [h.held_eq] at hheld
    obtain ⟨-, -, hlast⟩ := Option.map_eq_some_iff.mp hheld
    omega
  · intro hpast
    refine ⟨by rw [h.engines_eq]; exact h.disposals_le_append, ?_⟩
    intro place engine hfound hopen
    rw [h.engines_eq] at hfound
    rcases Nat.lt_or_ge place past.length with hplace | hplace
    · rw [List.getElem?_append_left hplace] at hfound
      exact absurd hopen (hpast engine (List.mem_of_getElem? hfound))
    · rw [List.getElem?_append_right hplace] at hfound
      rw [h.held_eq]
      cases current with
      | none => cases hfound
      | some held =>
          obtain ⟨hlast, -⟩ := List.getElem?_eq_some_iff.mp hfound
          rw [Option.toList_some, List.length_singleton] at hlast
          have hplace' : place = past.length := by omega
          rw [hplace']
          rfl

/-- When no engine is held, none is lost exactly if each has been disposed of. -/
theorem disposals_eq_one_iff (h : Keeps phase past none connector) :
    (∀ engine ∈ connector.engines, engine.disposals = 1) ↔ openCount past = 0 := by
  have hengines : connector.engines = past := h.engines_eq.trans (List.append_nil past)
  rw [hengines, openCount, List.countP_eq_zero]
  refine forall₂_congr fun engine hengine => ?_
  have hle := h.disposals_le engine hengine
  rw [beq_iff_eq]
  omega

end Keeps

/-- A connector to an address, before any event. -/
def unopened (url : Url) (timeout : Int) (schema : String) (excluded : List String) : Connector :=
  { url := some url, timeout, schema, excluded }

theorem keeps_unopened (url : Url) (timeout : Int) (schema : String) (excluded : List String) :
    Keeps .closed [] none (unopened url timeout schema excluded) where
  url_isSome := rfl
  isConnected_eq := rfl
  engines_eq := rfl
  held_eq := rfl
  current_isSome := rfl
  current_open := by simp
  disposals_le := List.forall_mem_nil _

/-- After any events no engine has been disposed of twice, and besides the held engine one is open
for every retry. So only the held engine is open, and an exit leaves every engine disposed of,
exactly if no refused attempt was followed by another one without an exit between them. -/
theorem tidy_iff_retries_eq_zero (catalog : Catalog) (url : Url) (timeout : Int) (schema : String)
    (excluded : List String) (events : List Event) :
    let connector := unopened url timeout schema excluded
    (∀ engine ∈ (connector.after catalog events).engines, engine.disposals ≤ 1) ∧
      openCount (connector.after catalog events).engines
        = Phase.closed.retries events + (connector.after catalog events).held.toList.length ∧
      ((connector.after catalog events).Tidy ↔ Phase.closed.retries events = 0) ∧
      ((∀ engine ∈ (connector.after catalog (events ++ [.exit])).engines, engine.disposals = 1) ↔
        Phase.closed.retries events = 0) := by
  intro connector
  obtain ⟨past, current, hkeeps, hlost⟩ :=
    (keeps_unopened url timeout schema excluded).after catalog events
  have hretries : openCount past = Phase.closed.retries events :=
    hlost.trans (Nat.zero_add _)
  have hexit : connector.after catalog (events ++ [.exit])
      = (connector.after catalog events).exit := List.foldl_append
  refine ⟨?_, ?_, ?_, ?_⟩
  · rw [hkeeps.engines_eq]
    exact hkeeps.disposals_le_append
  · rw [hkeeps.openCount_engines, hretries]
  · rw [hkeeps.tidy_iff, hretries]
  · rw [hexit, hkeeps.exit.disposals_eq_one_iff, openCount_append_disposed, hretries]

/-- The first attempt is refused and the second one succeeds, and the engine of the first one is
never disposed of. -/
theorem retry_loses_engine :
    (¬ ∀ events : List Event, ((unopened ⟨"sqlite", none, none, none, none, none⟩ 10 "public"
      []).after {} events).Tidy) ∧
    ¬ ∀ events : List Event, ∀ engine ∈ ((unopened ⟨"sqlite", none, none, none, none, none⟩ 10
      "public" []).after {} (events ++ [.exit])).engines, engine.disposals = 1 := by
  constructor
  · intro htidy
    have hheld := (htidy [.enter (some "refused"), .enter none]).held_of_open 0
      ⟨"timeout", 10, 0⟩ rfl rfl
    cases hheld
  · intro hdisposed
    have hfirst := hdisposed [.enter (some "refused"), .enter none] ⟨"timeout", 10, 0⟩
      List.mem_cons_self
    cases hfirst

end RelSchema.Connector

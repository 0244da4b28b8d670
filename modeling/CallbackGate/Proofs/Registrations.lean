import CallbackGate.Dispatch.Run
import Mathlib.Data.List.Chain
import Mathlib.Data.List.Induction

/-!
# One handler for each envelope

A table is built by registering handlers one after the other, for some routes
more than once.  An envelope is then answered by one handler, which runs once:
the one registered last for its route, or the one for everything else.  The
handler sees the envelope with its route and its payload, and how dispatch says
that it ended is how it did.

There are four groups.

* Tables.  `registeredLast_of_find?` says which registration holds for a route, and
  `find?_ofList_eq_none_iff` when none does, by induction from the last one.
* Handlers.  `Chooses` is the choice of the handler, which leaves no doubt
  (`Chooses.unique`).
* Stages.  `Progress.Sound` ties the assertions of dispatch to the stages that it
  went through; advancing and running a handler keep it.  `Progress.whole` is all
  that an arm of dispatch does.
* Runs.  `Context.Describes` is what a handler sees and `Terminal.Ends` what
  dispatch goes through.  `dispatch_answers` lists the ways to answer, for any
  table, and `dispatch_runs_registered` is the assembly.
-/

namespace CallbackGate

/-! ## Tables -/

/-- A registration is the last one for its route. -/
structure RegisteredLast (registrations : List (Route × Handler)) (route : Route)
    (number : Nat) (handler : Handler) : Prop where
  registered : registrations[number]? = some (route, handler)
  last : ∀ later entry, number < later → registrations[later]? = some entry →
    entry.1 ≠ route

/-- No route has two last registrations. -/
theorem RegisteredLast.unique {registrations : List (Route × Handler)} {route : Route}
    {number number' : Nat} {handler handler' : Handler}
    (h : RegisteredLast registrations route number handler)
    (h' : RegisteredLast registrations route number' handler') :
    number' = number ∧ handler' = handler := by
  rcases Nat.lt_trichotomy number number' with hlt | rfl | hlt
  · exact absurd rfl (h.last number' _ hlt h'.registered)
  · cases h.registered.symm.trans h'.registered
    exact ⟨rfl, rfl⟩
  · exact absurd rfl (h'.last number _ hlt h.registered)

/-- What a list with one more element has at a place. -/
theorem getElem?_concat_eq_some_iff {registrations : List (Route × Handler)}
    {entry found : Route × Handler} {number : Nat} :
    (registrations ++ [entry])[number]? = some found ↔
      registrations[number]? = some found ∨
        number = registrations.length ∧ entry = found := by
  rcases Nat.lt_trichotomy number registrations.length with h | rfl | h
  · rw [List.getElem?_append_left h]
    exact ⟨Or.inl, fun h' => h'.resolve_right fun hlast => absurd hlast.1 (Nat.ne_of_lt h)⟩
  · simp
  · rw [List.getElem?_eq_none (by simp; omega), List.getElem?_eq_none (Nat.le_of_lt h)]
    simp [Nat.ne_of_gt h]

/-- A registration is the last one until the next. -/
theorem registeredLast_concat_self (registrations : List (Route × Handler))
    (route : Route) (handler : Handler) :
    RegisteredLast (registrations ++ [(route, handler)]) route registrations.length
      handler := by
  refine ⟨List.getElem?_concat_length, ?_⟩
  intro later entry hlater hentry
  rcases getElem?_concat_eq_some_iff.mp hentry with hold | ⟨hnew, -⟩
  · have hlength := (List.getElem?_eq_some_iff.mp hold).1
    omega
  · omega

/-- Registering for another route changes nothing. -/
theorem registeredLast_concat_of_ne {registrations : List (Route × Handler)}
    {entry : Route × Handler} {route : Route} (hroute : entry.1 ≠ route) (number : Nat)
    (handler : Handler) :
    RegisteredLast (registrations ++ [entry]) route number handler ↔
      RegisteredLast registrations route number handler := by
  constructor
  · rintro ⟨hregistered, hlast⟩
    refine ⟨?_, fun later found hlater hfound =>
      hlast later found hlater (getElem?_concat_eq_some_iff.mpr (Or.inl hfound))⟩
    rcases getElem?_concat_eq_some_iff.mp hregistered with hold | ⟨-, rfl⟩
    · exact hold
    · exact absurd rfl hroute
  · rintro ⟨hregistered, hlast⟩
    refine ⟨getElem?_concat_eq_some_iff.mpr (Or.inl hregistered), ?_⟩
    intro later found hlater hfound
    rcases getElem?_concat_eq_some_iff.mp hfound with hold | ⟨-, rfl⟩
    · exact hlast later found hlater hold
    · exact hroute

namespace Table

/-- Tables grow by the last registration. -/
theorem ofList_concat (registrations : List (Route × Handler)) (entry : Route × Handler)
    (unknown : Option Handler) :
    ofList (registrations ++ [entry]) unknown =
      (ofList registrations unknown).register entry.1 entry.2 := by
  rw [ofList, List.foldl_append]
  rfl

theorem unknown_ofList (registrations : List (Route × Handler))
    (unknown : Option Handler) :
    (ofList registrations unknown).unknown = unknown.getD fun _ => .empty := by
  induction registrations using List.reverseRecOn with
  | nil => rfl
  | append_singleton registrations entry ih => rw [ofList_concat, ← ih, register]

theorem length_registrations_ofList (registrations : List (Route × Handler))
    (unknown : Option Handler) :
    (ofList registrations unknown).registrations.length = registrations.length := by
  induction registrations using List.reverseRecOn with
  | nil => rfl
  | append_singleton registrations entry ih =>
    rw [ofList_concat, register, List.length_cons, ih, List.length_append,
      List.length_singleton]

/-- A registration holds for its route, whatever held for it before. -/
theorem find?_register_self (table : Table) (route : Route) (handler : Handler) :
    (table.register route handler).find? route =
      some ⟨table.registrations.length, route, handler⟩ :=
  List.find?_cons_of_pos (by simp)

/-- A registration leaves the other routes as they are. -/
theorem find?_register_of_ne (table : Table) {route route' : Route} (handler : Handler)
    (h : route' ≠ route) :
    (table.register route' handler).find? route = table.find? route :=
  List.find?_cons_of_neg (by simpa using h)

/-- What holds for a route is the last registration for it. -/
theorem registeredLast_of_find? {registrations : List (Route × Handler)}
    {unknown : Option Handler} {route : Route} {found : Registration}
    (h : (ofList registrations unknown).find? route = some found) :
    RegisteredLast registrations route found.number found.handler := by
  induction registrations using List.reverseRecOn with
  | nil => cases h
  | append_singleton registrations entry ih =>
    rw [ofList_concat] at h
    by_cases hroute : entry.1 = route
    · rw [← hroute, find?_register_self, length_registrations_ofList] at h
      cases h
      rw [← hroute]
      exact registeredLast_concat_self registrations entry.1 entry.2
    · rw [find?_register_of_ne _ _ hroute] at h
      exact (registeredLast_concat_of_ne hroute _ _).mpr (ih h)

/-- Nothing holds for a route only if it was not registered. -/
theorem find?_ofList_eq_none_iff (registrations : List (Route × Handler))
    (unknown : Option Handler) (route : Route) :
    (ofList registrations unknown).find? route = none ↔
      ∀ entry ∈ registrations, entry.1 ≠ route := by
  induction registrations using List.reverseRecOn with
  | nil => simp [ofList, find?]
  | append_singleton registrations entry ih =>
    rw [ofList_concat, List.forall_mem_append, List.forall_mem_singleton]
    by_cases hroute : entry.1 = route
    · rw [← hroute, find?_register_self]
      simp
    · rw [find?_register_of_ne _ _ hroute, ih]
      simp [hroute]

end Table

/-! ## Handlers -/

section

variable {registrations : List (Route × Handler)} {unknown : Option Handler}
  {envelope : Envelope}

/-- How an envelope is answered: how dispatch ends, and the handler with the number
of its registration. -/
inductive Chooses (registrations : List (Route × Handler)) (unknown : Option Handler)
    (envelope : Envelope) : Terminal → Option Nat → Handler → Prop
  /-- By the handler registered last for its route. -/
  | registered {route : Route} {number : Nat} {handler : Handler}
    (hroute : classify envelope = .ok route)
    (hlast : RegisteredLast registrations route number handler) :
    Chooses registrations unknown envelope (.responded route) (some number) handler
  /-- By the handler for everything else, if its route was not registered. -/
  | unregistered {route : Route} (hroute : classify envelope = .ok route)
    (hnone : ∀ entry ∈ registrations, entry.1 ≠ route) :
    Chooses registrations unknown envelope (.unhandled route) none
      (unknown.getD fun _ => .empty)
  /-- By the handler for everything else, if it has no route. -/
  | unclassified {miss : Miss} (hmiss : classify envelope = .error miss) :
    Chooses registrations unknown envelope (.unclassified miss) none
      (unknown.getD fun _ => .empty)

/-- A last registration is one of the registrations. -/
theorem RegisteredLast.mem {route : Route} {number : Nat} {handler : Handler}
    (h : RegisteredLast registrations route number handler) :
    (route, handler) ∈ registrations :=
  List.mem_of_getElem? h.registered

/-- The choice leaves no doubt. -/
theorem Chooses.unique {terminal terminal' : Terminal} {number number' : Option Nat}
    {handler handler' : Handler}
    (h : Chooses registrations unknown envelope terminal number handler)
    (h' : Chooses registrations unknown envelope terminal' number' handler') :
    terminal' = terminal ∧ number' = number ∧ handler' = handler := by
  cases h with
  | registered hroute hlast =>
    cases h' with
    | registered hroute' hlast' =>
      cases hroute.symm.trans hroute'
      obtain ⟨rfl, rfl⟩ := hlast.unique hlast'
      exact ⟨rfl, rfl, rfl⟩
    | unregistered hroute' hnone =>
      cases hroute.symm.trans hroute'
      exact absurd rfl (hnone _ hlast.mem)
    | unclassified hmiss => cases hroute.symm.trans hmiss
  | unregistered hroute hnone =>
    cases h' with
    | registered hroute' hlast =>
      cases hroute.symm.trans hroute'
      exact absurd rfl (hnone _ hlast.mem)
    | unregistered hroute' _ =>
      cases hroute.symm.trans hroute'
      exact ⟨rfl, rfl, rfl⟩
    | unclassified hmiss => cases hroute.symm.trans hmiss
  | unclassified hmiss =>
    cases h' with
    | registered hroute _ => cases hroute.symm.trans hmiss
    | unregistered hroute _ => cases hroute.symm.trans hmiss
    | unclassified hmiss' =>
      cases hmiss.symm.trans hmiss'
      exact ⟨rfl, rfl, rfl⟩

end

/-! ## Stages -/

/-- No stage follows one in which dispatch ends. -/
theorem Stage.not_isTerminal_of_canAdvance {stage next : Stage} (h : stage.canAdvance next) :
    ¬stage.isTerminal := by
  revert h
  cases stage <;> cases next <;> decide

/-- Where each stage may follow the one before it and dispatch ends in the last one, it
does not end before. -/
theorem Stage.isTerminal_iff_of_isChain {stages : List Stage} {last : Stage}
    (hchain : stages.IsChain fun stage next => stage.canAdvance next)
    (hlast : stages.getLast? = some last) (hterminal : last.isTerminal) :
    ∀ stage ∈ stages, stage.isTerminal ↔ stage = last := by
  induction stages with
  | nil => cases hlast
  | cons first rest ih =>
    cases rest with
    | nil =>
      cases hlast
      exact List.forall_mem_singleton.mpr (iff_of_true hterminal rfl)
    | cons second rest =>
      obtain ⟨hadvance, hrest⟩ := List.isChain_cons_cons.mp hchain
      have hfirst := not_isTerminal_of_canAdvance hadvance
      refine List.forall_mem_cons.mpr ⟨iff_of_false hfirst ?_, ih hrest hlast⟩
      rintro rfl
      exact hfirst hterminal

namespace Progress

variable {progress : Progress}

/-- What dispatch under way keeps. -/
structure Sound (progress : Progress) : Prop where
  /-- Dispatch is in the last stage that it went to. -/
  last : progress.stages.getLast? = some progress.stage
  /-- No assertion failed if and only if each stage may follow the one before it. -/
  permitted_iff : progress.permitted ↔
    progress.stages.IsChain fun stage next => stage.canAdvance next

theorem sound_start : start.Sound where
  last := rfl
  permitted_iff := iff_of_true rfl (List.isChain_singleton _)

theorem Sound.advance (h : progress.Sound) (next : Stage) :
    (progress.advance next).Sound where
  last := List.getLast?_concat
  permitted_iff := by
    show (progress.permitted && progress.stage.canAdvance next) = true ↔
      (progress.stages ++ [next]).IsChain fun stage next => stage.canAdvance next
    rw [Bool.and_eq_true, h.permitted_iff, List.isChain_append, h.last]
    simp

theorem Sound.run (h : progress.Sound) (number : Option Nat) (handler : Handler)
    (context : Context) : (progress.run number handler context).2.Sound where
  last := h.last
  permitted_iff := h.permitted_iff

/-- All that an arm of dispatch does, up to the stage in which it ends. -/
def whole (number : Option Nat) (handler : Handler) (context : Context) (last : Stage) :
    Progress :=
  (((start.advance .classified).advance .dispatched).run number handler context).2.advance last

variable (number : Option Nat) (handler : Handler) (context : Context) (last : Stage)

theorem sound_whole : (whole number handler context last).Sound :=
  (((sound_start.advance .classified).advance .dispatched).run number handler context).advance
    last

/-- One handler runs, and it runs once. -/
theorem calls_whole : (whole number handler context last).calls = [⟨number, context⟩] := rfl

theorem stages_whole : (whole number handler context last).stages =
    [.received, .classified, .dispatched, last] := rfl

/-- An arm may go on to a stage if dispatch ends in it. -/
theorem permitted_whole (h : last.isTerminal) :
    (whole number handler context last).permitted := by
  revert h
  rw [(sound_whole number handler context last).permitted_iff, stages_whole]
  cases last <;> decide

end Progress

/-! ## Runs -/

/-- What a handler sees of an envelope: the envelope itself, what is known of the
delivery, the route, and the payload of the route. -/
structure Context.Describes (context : Context) (envelope : Envelope)
    (security : Option SecurityContext) : Prop where
  envelope_eq : context.envelope = envelope
  security_eq : context.security = security
  route_eq_some_iff : ∀ route, context.route = some route ↔ classify envelope = .ok route
  payload_eq_some_iff : ∀ payload, context.payload = some payload ↔
    ∃ route, context.route = some route ∧ payload = .ofRoute route envelope
  /-- The payload is that of an event if and only if the route is one. -/
  isEvent_iff : ∀ route payload, context.route = some route →
    context.payload = some payload → (payload.event?.isSome ↔ route.isEvent)

/-- What dispatch goes through, and where it ends. -/
structure Terminal.Ends (terminal : Terminal) (stages : List Stage) : Prop where
  stages_eq : stages = [.received, .classified, .dispatched, terminal.stage]
  /-- Each stage may follow the one before it. -/
  advances : stages.IsChain fun stage next => stage.canAdvance next
  isTerminal_iff : ∀ stage ∈ stages, stage.isTerminal ↔ stage = terminal.stage
  stage_eq_responded_iff :
    terminal.stage = .responded ↔ ∃ route, terminal = .responded route
  stage_eq_unknown_iff :
    terminal.stage = .unknown ↔ ∀ route, terminal ≠ .responded route

theorem Terminal.isTerminal_stage (terminal : Terminal) : terminal.stage.isTerminal := by
  cases terminal with
  | responded route => rfl
  | unhandled route => rfl
  | unclassified miss => rfl

/-- An arm of dispatch ends as it should, whichever way it ends. -/
theorem Terminal.ends_whole (terminal : Terminal) (number : Option Nat) (handler : Handler)
    (context : Context) :
    terminal.Ends (Progress.whole number handler context terminal.stage).stages := by
  have hsound := Progress.sound_whole number handler context terminal.stage
  have hchain := hsound.permitted_iff.mp
    (Progress.permitted_whole number handler context _ terminal.isTerminal_stage)
  exact
    { stages_eq := Progress.stages_whole number handler context _
      advances := hchain
      isTerminal_iff := Stage.isTerminal_iff_of_isChain hchain hsound.last
        terminal.isTerminal_stage
      stage_eq_responded_iff := by cases terminal <;> simp [stage]
      stage_eq_unknown_iff := by cases terminal <;> simp [stage] }

/-- A route makes the payload of an event if and only if it is that of one. -/
theorem Payload.isSome_event?_ofRoute (route : Route) (envelope : Envelope) :
    (ofRoute route envelope).event?.isSome = route.isEvent := by
  cases route with
  | message kind => cases kind <;> rfl
  | event kind => rfl

/-- What the handler of an envelope sees. -/
def Context.ofEnvelope (envelope : Envelope) (security : Option SecurityContext) :
    Context :=
  let route := (classify envelope).toOption
  ⟨envelope, route, route.map (Payload.ofRoute · envelope), security⟩

theorem Context.describes_ofEnvelope (envelope : Envelope)
    (security : Option SecurityContext) :
    (ofEnvelope envelope security).Describes envelope security where
  envelope_eq := rfl
  security_eq := rfl
  route_eq_some_iff route := by
    cases hroute : classify envelope <;> simp [ofEnvelope, hroute, Except.toOption]
  payload_eq_some_iff payload := by
    simp only [ofEnvelope, Option.map_eq_some_iff]
    exact exists_congr fun route => and_congr_right' eq_comm
  isEvent_iff route payload hroute hpayload := by
    simp only [ofEnvelope] at hroute hpayload
    rw [hroute, Option.map_some, Option.some.injEq] at hpayload
    rw [← hpayload, Payload.isSome_event?_ofRoute]

/-- How a table answers an envelope: how dispatch ends, and the handler that runs with
the number of its registration. -/
inductive Table.Answers (table : Table) (envelope : Envelope) :
    Terminal → Option Nat → Handler → Prop
  | registered {route : Route} {entry : Registration} (hroute : classify envelope = .ok route)
    (hfind : table.find? route = some entry) :
    Answers table envelope (.responded route) (some entry.number) entry.handler
  | unregistered {route : Route} (hroute : classify envelope = .ok route)
    (hfind : table.find? route = none) :
    Answers table envelope (.unhandled route) none table.unknown
  | unclassified {miss : Miss} (hmiss : classify envelope = .error miss) :
    Answers table envelope (.unclassified miss) none table.unknown

/-- Dispatch runs the handler that the table has for the envelope, and ends with its
reply. -/
theorem dispatch_answers (table : Table) (envelope : Envelope)
    (security : Option SecurityContext) :
    let context := Context.ofEnvelope envelope security
    ∃ terminal number handler, table.Answers envelope terminal number handler ∧
      dispatch table envelope security =
        (Progress.whole number handler context terminal.stage).finish terminal
          (handler context) := by
  unfold dispatch Context.ofEnvelope
  cases hclassify : classify envelope with
  | error miss => exact ⟨_, _, _, .unclassified hclassify, rfl⟩
  | ok route =>
    dsimp only
    cases hfind : table.find? route with
    | none => exact ⟨_, _, _, .unregistered hclassify hfind, rfl⟩
    | some entry => exact ⟨_, _, _, .registered hclassify hfind, rfl⟩

/-- Dispatch ends with the route of the envelope. -/
theorem Table.Answers.route?_eq {table : Table} {envelope : Envelope} {terminal : Terminal}
    {number : Option Nat} {handler : Handler}
    (h : table.Answers envelope terminal number handler) :
    terminal.route? = (classify envelope).toOption := by
  cases h with
  | registered hroute _ =>
    rw [hroute]
    rfl
  | unregistered hroute _ =>
    rw [hroute]
    rfl
  | unclassified hmiss =>
    rw [hmiss]
    rfl

/-- A table of registrations answers with the handler that is chosen. -/
theorem Table.Answers.chooses {registrations : List (Route × Handler)}
    {unknown : Option Handler} {envelope : Envelope} {terminal : Terminal}
    {number : Option Nat} {handler : Handler}
    (h : (Table.ofList registrations unknown).Answers envelope terminal number handler) :
    Chooses registrations unknown envelope terminal number handler := by
  have hunknown := Table.unknown_ofList registrations unknown
  cases h with
  | registered hroute hfind => exact .registered hroute (Table.registeredLast_of_find? hfind)
  | unregistered hroute hfind =>
    rw [hunknown]
    exact .unregistered hroute ((Table.find?_ofList_eq_none_iff _ _ _).mp hfind)
  | unclassified hmiss =>
    rw [hunknown]
    exact .unclassified hmiss

/-- An envelope is answered by one handler, which runs once: the one registered
last for its route, or the one for everything else.  It sees the envelope with its
route and its payload.  No assertion of dispatch fails, and it ends as its terminal
says. -/
theorem dispatch_runs_registered (registrations : List (Route × Handler))
    (unknown : Option Handler) (envelope : Envelope) (security : Option SecurityContext) :
    let dispatched := dispatch (.ofList registrations unknown) envelope security
    ∃ number handler context,
      (∀ terminal number' handler',
        Chooses registrations unknown envelope terminal number' handler' ↔
          terminal = dispatched.terminal ∧ number' = number ∧ handler' = handler) ∧
        dispatched.calls = [⟨number, context⟩] ∧
        dispatched.reply = handler context ∧
        context.Describes envelope security ∧
        dispatched.terminal.route? = context.route ∧
        dispatched.permitted ∧
        dispatched.terminal.Ends dispatched.stages := by
  intro dispatched
  obtain ⟨terminal, number, handler, hanswers, hdispatch⟩ :=
    dispatch_answers (.ofList registrations unknown) envelope security
  have hdispatched : dispatched = _ := hdispatch
  have hchosen := hanswers.chooses
  rw [hdispatched]
  refine ⟨number, handler, Context.ofEnvelope envelope security, ?_,
    Progress.calls_whole number handler _ terminal.stage, rfl,
    Context.describes_ofEnvelope envelope security, hanswers.route?_eq,
    Progress.permitted_whole number handler _ _ terminal.isTerminal_stage,
    terminal.ends_whole number handler _⟩
  intro terminal' number' handler'
  constructor
  · exact hchosen.unique
  · rintro ⟨rfl, rfl, rfl⟩
    exact hchosen

end CallbackGate
